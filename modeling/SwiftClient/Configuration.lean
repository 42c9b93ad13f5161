import SwiftClient.Failure
import SwiftClient.Json.Reader
import SwiftClient.Path

/-!
# Configuration

The settings of a generator are an object, in which a key with points goes down from object to
object. Null counts as absent. A setting of another kind than the one asked for is a failure.
-/
namespace SwiftClient

structure Configuration where
  root : List (String × Json) := []
  path : Option String := none

namespace Configuration

def empty : Configuration := {}

def ofJson : Json → Except Failure Configuration
  | .object root => .ok ⟨root, none⟩
  | .null => .ok empty
  | other => .error (.setting "" (.unexpected "an object" other))

def ofText (text : String) : Except Failure Configuration :=
  match Json.parse text with
  | .ok value => ofJson value
  | .error _ => .error (.setting "" .malformed)

/-- Paths in the settings are relative to the directory of this file. -/
def withPath (c : Configuration) (path : String) : Configuration := { c with path := some path }

/-- The keys of the objects that a key with points goes down through. -/
def keysOf (key : String) : List String := (key.toList.splitOn '.').map String.ofList

def get? (c : Configuration) (key : String) : Option Json :=
  Json.getPath? (keysOf key) (.object c.root)

def string? (c : Configuration) (key : String) : Except Failure (Option String) :=
  match c.get? key with
  | none | some .null => .ok none
  | some (.string s) => .ok (some s)
  | some other => .error (.setting key (.unexpected "a string" other))

def bool (c : Configuration) (key : String) (absent : Bool) : Except Failure Bool :=
  match c.get? key with
  | none | some .null => .ok absent
  | some (.bool b) => .ok b
  | some other => .error (.setting key (.unexpected "a boolean" other))

def stringItem (key : String) : Json → Except Failure String
  | .string s => .ok s
  | .number n => .ok n.text
  | other => .error (.setting key (.unexpected "a string item" other))

/-- A list of strings, in which numbers may stand for their text. -/
def strings (c : Configuration) (key : String) : Except Failure (List String) :=
  match c.get? key with
  | none | some .null => .ok []
  | some (.array items) => items.mapM (stringItem key)
  | some other => .error (.setting key (.unexpected "an array" other))

end Configuration

end SwiftClient
