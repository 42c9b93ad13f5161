import SwiftClient.Json.Lexeme

/-!
# Drafts

A draft is what a text says up to the first place where it stops being JSON: every value and field
in the order of the text, repeated keys included. A container that is not `whole` is followed by
something else than its next member or its end.
-/
namespace SwiftClient.Json

inductive Draft where
  | null
  | bool (value : Bool)
  | number (value : Option Number)
  | string (value : Option String)
  | array (items : List Draft) (whole : Bool)
  | object (fields : List (Option String × Draft)) (whole : Bool)
  | fault
  deriving Repr, Inhabited

namespace Draft

/-- A container whose members are still being read, the last one first. -/
inductive Frame where
  | items (done : List Draft)
  | fields (done : List (Option String × Draft)) (key : Option String)

/-- What has to come next, inside the containers that are still open. -/
inductive Progress where
  | wantValue (frames : List Frame)
  | wantItem (frames : List Frame)
  | wantField (frames : List Frame)
  | wantKey (done : List (Option String × Draft)) (frames : List Frame)
  | wantColon (done : List (Option String × Draft)) (key : Option String) (frames : List Frame)
  | afterValue (value : Draft) (frames : List Frame)
  | ended (value : Draft)

/-- Puts a value into the open containers, none of which has come to its end. -/
def Progress.abandon (value : Draft) : List Frame → Progress
  | [] => .ended value
  | .items done :: frames => abandon (.array (value :: done).reverse false) frames
  | .fields done key :: frames => abandon (.object ((key, value) :: done).reverse false) frames

def Progress.stepValue (frames : List Frame) : Lexeme → Progress
  | .null => .afterValue .null frames
  | .bool b => .afterValue (.bool b) frames
  | .number n => .afterValue (.number n) frames
  | .string s => .afterValue (.string s) frames
  | .openArray => .wantItem frames
  | .openObject => .wantField frames
  | _ => abandon .fault frames

def Progress.stepAfter (value : Draft) : List Frame → Lexeme → Progress
  | [], _ => .ended value
  | .items done :: frames, .comma => .wantValue (.items (value :: done) :: frames)
  | .items done :: frames, .closeArray => .afterValue (.array (value :: done).reverse true) frames
  | .items done :: frames, _ => abandon (.array (value :: done).reverse false) frames
  | .fields done key :: frames, .comma => .wantKey ((key, value) :: done) frames
  | .fields done key :: frames, .closeObject =>
    .afterValue (.object ((key, value) :: done).reverse true) frames
  | .fields done key :: frames, _ => abandon (.object ((key, value) :: done).reverse false) frames

def Progress.step : Progress → Lexeme → Progress
  | .wantValue frames, lexeme => stepValue frames lexeme
  | .wantItem frames, .closeArray => .afterValue (.array [] true) frames
  | .wantItem frames, lexeme => stepValue (.items [] :: frames) lexeme
  | .wantField frames, .closeObject => .afterValue (.object [] true) frames
  | .wantField frames, .string key => .wantColon [] key frames
  | .wantField frames, _ => abandon (.object [] false) frames
  | .wantKey done frames, .string key => .wantColon done key frames
  | .wantKey done frames, _ => abandon (.object done.reverse false) frames
  | .wantColon done key frames, .colon => .wantValue (.fields done key :: frames)
  | .wantColon done key frames, _ => abandon (.object ((key, .fault) :: done).reverse false) frames
  | .afterValue value frames, lexeme => stepAfter value frames lexeme
  | .ended value, _ => .ended value

/-- The value read, and whether the text ends with it. -/
def Progress.finish : Progress → Draft × Bool
  | .afterValue value [] => (value, true)
  | progress =>
    match progress.step .fault with
    | .ended value => (value, false)
    | _ => (.fault, false)

/-- The draft of a text, and whether nothing follows it. -/
def ofText (text : String) : Draft × Bool :=
  ((Lexeme.ofText text).foldl Progress.step (.wantValue [])).finish

mutual

/-- The draft of a text that writes the value. -/
def ofJson : Json → Draft
  | .null => .null
  | .bool b => .bool b
  | .number n => .number (some n)
  | .string s => .string (some s)
  | .array items => .array (ofItems items) true
  | .object fields => .object (ofFields fields) true

def ofItems : List Json → List Draft
  | [] => []
  | item :: rest => ofJson item :: ofItems rest

def ofFields : List (String × Json) → List (Option String × Draft)
  | [] => []
  | (key, value) :: rest => (some key, ofJson value) :: ofFields rest

end

mutual

/-- Whether the text of the draft is JSON throughout. Nothing is asked of values that the words of
the text do not have. -/
def isWhole : Draft → Bool
  | .array items whole => whole && areWhole items
  | .object fields whole => whole && fieldsAreWhole fields
  | .fault => false
  | _ => true

def areWhole : List Draft → Bool
  | [] => true
  | item :: rest => isWhole item && areWhole rest

def fieldsAreWhole : List (Option String × Draft) → Bool
  | [] => true
  | (_, value) :: rest => isWhole value && fieldsAreWhole rest

end

end Draft

end SwiftClient.Json
