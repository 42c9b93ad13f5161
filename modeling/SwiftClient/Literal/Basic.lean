import SwiftClient.Literal.Escape
import SwiftClient.Resolution.SwiftTyping
import SwiftClient.Traced

/-!
# Swift literals

Values of a document are written as Swift expressions of the type chosen for them. A value of a
composite type has no literal; it becomes nil, with a notice.
-/
namespace SwiftClient.Literal
open Naming (EnumStyle)

/-- The text of a string, number or boolean. -/
def scalarText (c : Classification) : Json → Except Failure String
  | .string s => .ok s
  | .number n => .ok n.text
  | .bool b => .ok (boolText b)
  | other => .error (.unsupportedLiteral c (.notScalar other))

inductive TextForm where
  | date | time | dateTime | data | plain
  deriving DecidableEq

/-- The form by classification or format; of two that disagree the one listed first counts. -/
def TextForm.of (c : Classification) (format : Option String) : TextForm :=
  if c = .date ∨ format = some "date" then .date
  else if c = .time ∨ format = some "time" then .time
  else if c = .dateTime ∨ format = some "date-time" then .dateTime
  else if c = .binary ∨ format = some "binary" then .data
  else .plain

/-- A date read by one of the formatters of the support files. -/
def parsedDate (formatter text : String) : String :=
  "DateFormatter." ++ formatter ++ ".date(from: \"" ++ text ++ "\")"

def TextForm.write (text : String) : TextForm → String
  | date => parsedDate "ISO8601DATE" text
  | time => parsedDate "ISO8601TIME" text
  | dateTime => parsedDate "ISO8601DATETIME" text
  | data => stringLiteral text ++ ".data(using: .utf8)!"
  | plain => stringLiteral text

def arrayLiteral (items : List String) : String := "[" ++ String.intercalate ", " items ++ "]"

/-- The items of an array; any other value stands for an array of itself. -/
def itemsOf : Json → List Json
  | .array items => items
  | single => [single]

/-- The literal of a value that is not null, given how those of elements are written. -/
def writeWith (style : EnumStyle) (element : Option (Json → Traced String)) (ctx : LiteralContext)
    (value : Json) : Traced String :=
  let c := ctx.classification
  match c with
  | .enum => do
    let text ← scalarText c value
    return ctx.type.concrete.expression ++ "." ++ Naming.memberName style text
  | .integer | .number | .boolean => Traced.ofExcept (scalarText c value)
  | .string | .date | .time | .dateTime | .binary => do
    let text ← scalarText c value
    return (TextForm.of c ctx.format).write text
  | .array =>
    match element with
    | none => Traced.fail (.unsupportedLiteral c (.noComponent value))
    | some element => return arrayLiteral (← (itemsOf value).mapM element)
  | .object | .map | .oneOf | .interface | .hierarchy | .wrapper => do
    Traced.note (.literalDropped c value)
    return "nil"
  | .file | .any => Traced.fail (.unsupportedLiteral c (.notWritable value))

def write (style : EnumStyle) : LiteralContext → Json → Traced String
  | _, .null => pure "nil"
  | ctx@⟨_, _, _, _, _, none⟩, value => writeWith style none ctx value
  | ctx@⟨_, _, _, _, _, some component⟩, value =>
    writeWith style (some (write style component)) ctx value

structure Default where
  value : Json
  literal : String

def Default.nil : Default := ⟨.null, "nil"⟩

/-- What a missing value stands for: nil if it may be left out, the zero of numbers, booleans and
collections, and nothing for all else. -/
def missing (style : EnumStyle) (ctx : LiteralContext) : Traced (Option Default) :=
  let zero (value : Json) : Traced (Option Default) :=
    return some ⟨value, ← write style ctx value⟩
  if !ctx.required then pure (some .nil)
  else
    match ctx.classification with
    | .number => zero (.number .doubleZero)
    | .integer => zero (.number .zero)
    | .boolean => pure (some ⟨.bool false, "false"⟩)
    | .array => pure (some ⟨.array [], "[]"⟩)
    | .map => pure (some ⟨.object [], "[:]"⟩)
    | _ => pure none

/-- What a value is initialised with: the given default, else the zero if it is required. -/
def initial (style : EnumStyle) (ctx : LiteralContext) (given : Option Default) :
    Traced (Option Default) :=
  match given with
  | some d => pure (some d)
  | none => if ctx.required then missing style ctx else pure none

/-- The literal of a value, or of what a missing one stands for. -/
def ofValue (style : EnumStyle) (ctx : LiteralContext) : Option Json → Traced (Option String)
  | some value => return some (← write style ctx value)
  | none => return (← missing style ctx).map (·.literal)

/-- A default that the document gives, if it gives one. -/
def given (style : EnumStyle) (ctx : LiteralContext) : Option Json → Traced (Option Default)
  | some value => return some ⟨value, ← write style ctx value⟩
  | none => pure none

def Default.toJson (d : Default) : Json :=
  .ofFields [("value", d.value), ("literalValue", .string d.literal)]

end SwiftClient.Literal
