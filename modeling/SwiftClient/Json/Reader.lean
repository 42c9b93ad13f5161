import SwiftClient.Json.Draft
import SwiftClient.Json.Fault

/-!
# Reading drafts

A reader takes a draft apart in the order of its text, and the first fault met is the outcome. At
most 127 containers may be open around a value that is kept; values that nothing asks for are
passed over at any depth.

A record is read by stating its fields in the order of their declaration. Each field is found by
its name, or by its position when the record is written as an array. Faults carry the place in the
text where they are met, so the earliest can be chosen however the fields are written.
-/
namespace SwiftClient.Json

/-- Where a value is read from: its text, a value in memory, or a part of an object that was set
aside until the other fields were read. -/
inductive Medium where
  | text
  | memory
  | aside
  deriving DecidableEq, Repr

/-- How many containers may be open at once in a text. -/
def mostOpen : Nat := 127

/-- Reads a value with room for so many more open containers. -/
abbrev Reader (α : Type) := Medium → Nat → Draft → Except Fault α

/-- The kind of a draft, none where it is not JSON. -/
def Draft.found? : Draft → Option Found
  | .null => some .null
  | .bool b => some (.bool b)
  | .number n => n.map .number
  | .string s => s.map .string
  | .array _ _ => some .sequence
  | .object _ _ => some .map
  | .fault => none

/-- The fault of a draft that stands where `expected` is needed. -/
def Draft.unlike (d : Draft) (expected : String) : Fault :=
  match d.found? with
  | some found => .mismatch (.invalidType found expected)
  | none => .syntaxError

namespace Reader

def text : Reader String
  | _, _, .string (some s) => .ok s
  | _, _, d => .error (d.unlike "a string")

def flag : Reader Bool
  | _, _, .bool b => .ok b
  | _, _, d => .error (d.unlike "a boolean")

/-- A whole number below 65536. -/
def status : Reader Nat
  | _, _, .number (some (.whole n)) =>
    if 0 ≤ n ∧ n < 65536 then .ok n.toNat
    else .error (.mismatch (.invalidValue (.number (.whole n)) "u16"))
  | _, _, d => .error (d.unlike "u16")

/-- Nothing for null, otherwise what `item` reads. -/
def optional (item : Reader α) : Reader (Option α)
  | _, _, .null => .ok none
  | m, room, d => (item m room d).map some

def list (item : Reader α) : Reader (List α)
  | _, 0, .array _ _ => .error .syntaxError
  | m, room + 1, .array items whole => do
    let read ← items.mapM (item m room)
    if whole then .ok read else .error .syntaxError
  | _, _, d => .error (d.unlike "a sequence")

mutual

def value : Nat → Draft → Except Fault Json
  | _, .null => .ok .null
  | _, .bool b => .ok (.bool b)
  | _, .number (some n) => .ok (.number n)
  | _, .string (some s) => .ok (.string s)
  | room + 1, .array items whole => do
    let read ← values room items
    if whole then .ok (.array read) else .error .syntaxError
  | room + 1, .object fields whole => do
    let read ← fieldValues room fields
    if whole then .ok (Json.ofFields read) else .error .syntaxError
  | _, _ => .error .syntaxError

def values : Nat → List Draft → Except Fault (List Json)
  | _, [] => .ok []
  | room, d :: rest => do
    let read ← value room d
    return read :: (← values room rest)

def fieldValues : Nat → List (Option String × Draft) → Except Fault (List (String × Json))
  | _, [] => .ok []
  | _, (none, _) :: _ => .error .syntaxError
  | room, (some key, d) :: rest => do
    let read ← value room d
    return (key, read) :: (← fieldValues room rest)

end

def any : Reader Json := fun _ room d => value room d

def variantNamed (variants : List (String × α)) (name : String) : Except Fault α :=
  match variants.lookup name with
  | some variant => .ok variant
  | none => .error (.mismatch (.unknownVariant name (variants.map (·.1))))

/-- The empty content of a variant that is written as an object with one field. -/
def noContent : Medium → Draft → Except Fault Unit
  | _, .null => .ok ()
  | .aside, .object [] _ => .ok ()
  | _, d => .error (d.unlike "unit")

/-- One of a set of names, which may also be the key of an object whose only field is null. -/
def choice (variants : List (String × α)) : Reader α
  | _, _, .string (some name) => variantNamed variants name
  | .text, room, .object ((some name, content) :: rest) whole => do
    if room = 0 then .error .syntaxError
    let variant ← variantNamed variants name
    noContent .text content
    if rest.isEmpty && whole then .ok variant else .error .syntaxError
  | .text, _, _ => .error .syntaxError
  | m, _, .object [(some name, content)] _ => do
    let variant ← variantNamed variants name
    noContent m content
    .ok variant
  | _, _, .object _ _ => .error (.mismatch (.invalidValue .map "map with a single key"))
  | _, _, d => .error (d.unlike "string or map")

end Reader

/-- A part of a record, or the earliest fault met in reading it and its place in the text. -/
inductive Portion (α : Type) where
  | read (value : α)
  | failed (place : Nat) (fault : Fault)

namespace Portion

def map (f : α → β) : Portion α → Portion β
  | read a => read (f a)
  | failed place fault => failed place fault

/-- Two parts of one record; of two faults the earlier counts, and the first of two at one place. -/
def both (f : Portion (α → β)) (a : Portion α) : Portion β :=
  match f, a with
  | read f, read a => read (f a)
  | read _, failed place fault => failed place fault
  | failed place fault, read _ => failed place fault
  | failed place fault, failed place' fault' =>
    if place' < place then failed place' fault' else failed place fault

instance : Functor Portion := ⟨map, map ∘ Function.const _⟩

instance : Seq Portion := ⟨fun f a => both f (a ())⟩

/-- `a` once `check` has met no earlier fault. -/
def checked (check : Portion Unit) (a : Portion α) : Portion α := both (map (fun _ a => a) check) a

def ofExcept (place : Nat) : Except Fault α → Portion α
  | .ok a => read a
  | .error fault => failed place fault

def toExcept : Portion α → Except Fault α
  | read a => .ok a
  | failed _ fault => .error fault

end Portion

/-- The fields of a record as they are written, with what is needed to read them. -/
structure Record where
  medium : Medium
  room : Nat
  title : String
  names : List String
  fields : List (Option String × Draft)
  positional : Bool
  whole : Bool

/-- What the text has for a field of a record. -/
inductive Slot where
  | filled (place : Nat) (value : Draft)
  | missing (place : Nat) (fault : Fault)
  | cut (place : Nat)

namespace Record

def countedElements (n : Nat) : String :=
  if n = 1 then "1 element" else toString n ++ " elements"

/-- The first field with the name, or what its absence means. -/
def slot (r : Record) (name : String) : Slot :=
  if r.positional then
    let i := r.names.idxOf name
    match r.fields[i]? with
    | some (_, d) => .filled i d
    | none =>
      if r.whole then
        .missing i (.mismatch (.invalidLength i
          ("struct " ++ r.title ++ " with " ++ countedElements r.names.length)))
      else .cut r.fields.length
  else
    match r.fields.findIdx? (fun f => f.1 == some name), r.fields.lookup (some name) with
    | some i, some d => .filled i d
    | _, _ => .missing (r.fields.length + 1) (.mismatch (.missingField name))

def required (r : Record) (name : String) (reader : Reader α) : Portion α :=
  match r.slot name with
  | .filled place d => Portion.ofExcept place (reader r.medium r.room d)
  | .missing place fault => .failed place fault
  | .cut place => .failed place .syntaxError

def withDefault (r : Record) (name : String) (reader : Reader α) (absent : α) : Portion α :=
  match r.slot name with
  | .filled place d => Portion.ofExcept place (reader r.medium r.room d)
  | .missing _ _ => .read absent
  | .cut place => .failed place .syntaxError

def optional (r : Record) (name : String) (reader : Reader α) : Portion (Option α) :=
  r.withDefault name (Reader.optional reader) none

/-- A field that is nothing when absent and may hold null. -/
def present (r : Record) (name : String) (reader : Reader α) : Portion (Option α) :=
  r.withDefault name (fun m room d => (reader m room d).map some) none

/-- The faults of the fields by themselves, of which `unasked` judges those without a known name. -/
def checkFields (names : List String) (unasked : Draft → Except Fault Unit) :
    Nat → List String → List (Option String × Draft) → Portion Unit
  | _, _, [] => .read ()
  | place, _, (none, _) :: _ => .failed place .syntaxError
  | place, seen, (some key, d) :: rest =>
    if key ∈ names then
      if key ∈ seen then .failed place (.mismatch (.duplicateField key))
      else checkFields names unasked (place + 1) (key :: seen) rest
    else
      match unasked d with
      | .ok () => checkFields names unasked (place + 1) seen rest
      | .error fault => .failed place fault

/-- Values that nothing asks for only have to be JSON. -/
def passedOver (d : Draft) : Except Fault Unit :=
  if d.isWhole then .ok () else .error .syntaxError

def checkEnd (r : Record) : Portion Unit :=
  if r.positional && r.names.length < r.fields.length then
    .failed r.names.length <|
      match r.medium with
      | .text => .syntaxError
      | .memory => .mismatch (.invalidLength r.fields.length "fewer elements in array")
      | .aside =>
        .mismatch
          (.invalidLength r.fields.length (countedElements r.names.length ++ " in sequence"))
  else if r.whole then .read ()
  else .failed r.fields.length .syntaxError

/-- Reads a record whose fields without a known name are judged by `unasked`. -/
def readJudging (r : Record) (unasked : Draft → Except Fault Unit) (body : Record → Portion α) :
    Except Fault α :=
  let names := if r.positional then .read () else checkFields r.names unasked 0 [] r.fields
  (Portion.checked names (Portion.checked r.checkEnd (body r))).toExcept

def read (r : Record) (body : Record → Portion α) : Except Fault α :=
  r.readJudging passedOver body

def others (r : Record) : List (Option String × Draft) :=
  r.fields.filter fun f => match f.1 with
    | some key => key ∉ r.names
    | none => false

/-- A part that is read after all the fields from those set aside. -/
def afterwards (r : Record) (part : Except Fault α) : Portion α :=
  Portion.ofExcept (r.fields.length + 2) part

end Record

namespace Reader

/-- A record with fields of the given names, written as an object or by position as an array. -/
def record (title : String) (names : List String) (body : Record → Portion α) : Reader α
  | m, room + 1, .object fields whole =>
    Record.read ⟨m, room, title, names, fields, false, whole⟩ body
  | m, room + 1, .array items whole =>
    Record.read ⟨m, room, title, names, items.map (none, ·), true, whole⟩ body
  | _, 0, .object _ _ => .error .syntaxError
  | _, 0, .array _ _ => .error .syntaxError
  | _, _, d => .error (d.unlike ("struct " ++ title))

/-- A record that takes its last part from the fields that its own do not name. It is always
written as an object. -/
def openRecord (title : String) (names : List String) (body : Record → Portion α) : Reader α
  | m, room + 1, .object fields whole =>
    Record.readJudging ⟨m, room, title, names, fields, false, whole⟩
      (fun d => (value room d).map fun _ => ()) body
  | _, 0, .object _ _ => .error .syntaxError
  | _, _, d => .error (d.unlike ("struct " ++ title))

/-- The fields of a record set aside, once its variant is known. -/
def variantRecord (room : Nat) (fields : List (Option String × Draft)) (names : List String)
    (body : Record → Portion α) : Except Fault α :=
  Record.read ⟨.aside, room, "", names, fields, false, true⟩ body

/-- The same for a variant whose fields stand in an array, where `title` is its name. -/
def variantArray (room : Nat) (items : List Draft) (title : String) (names : List String)
    (body : Record → Portion α) : Except Fault α :=
  Record.read ⟨.aside, room, title, names, items.map (none, ·), true, true⟩ body

/-- The variant that a tag names or, when set aside, whose place in the list it gives. -/
def variantOfTag (variants : List (String × α)) : Medium → Draft → Except Fault α
  | _, .string (some name) => variantNamed variants name
  | .aside, .number (some (.whole n)) =>
    if n < 0 then .error (.mismatch (.invalidType (.number (.whole n)) "variant identifier"))
    else
      match variants[n.toNat]? with
      | some variant => .ok variant.2
      | none =>
        .error (.mismatch (.invalidValue (.number (.whole n))
          ("variant index 0 <= i < " ++ toString variants.length)))
  | _, d => .error (d.unlike "variant identifier")

/-- The one variant that fields name under `tag`, with the other fields. -/
def tagged (tag : String) (variants : List (String × α)) (m : Medium)
    (fields : List (Option String × Draft)) :
    Except Fault (α × List (Option String × Draft)) :=
  match fields.filter (fun f => f.1 == some tag) with
  | [] => .error (.mismatch (.missingField tag))
  | (_, d) :: more => do
    let variant ← variantOfTag variants m d
    if more.isEmpty then .ok (variant, fields.filter fun f => f.1 != some tag)
    else .error (.mismatch (.duplicateField tag))

def ofText (reader : Reader α) (text : String) : Except Fault α := do
  let (d, clean) := Draft.ofText text
  let read ← reader .text mostOpen d
  if clean then .ok read else .error .syntaxError

/-- Reads a value in memory, however deep it is. -/
def ofJson (reader : Reader α) (value : Json) : Except Fault α :=
  reader .memory value.depth (Draft.ofJson value)

end Reader

def parse (text : String) : Except Fault Json := Reader.any.ofText text

end SwiftClient.Json
