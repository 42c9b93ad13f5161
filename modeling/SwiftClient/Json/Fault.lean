import SwiftClient.Json.Basic
import SwiftClient.Text.Quoted

/-!
# What can be wrong with a JSON text

Either the text is not JSON where a value is needed, or a value is not of the kind that is needed.
-/
namespace SwiftClient.Json

/-- The kind of a value that stands where another kind is expected. -/
inductive Found where
  | null
  | bool (value : Bool)
  | number (value : Number)
  | string (value : String)
  | sequence
  | map
  deriving DecidableEq, Repr

inductive Mismatch where
  | invalidType (found : Found) (expected : String)
  | invalidValue (found : Found) (expected : String)
  | missingField (name : String)
  | duplicateField (name : String)
  | unknownVariant (name : String) (variants : List String)
  | invalidLength (length : Nat) (expected : String)
  | unknownClassification (name : String)
  deriving DecidableEq, Repr

inductive Fault where
  | syntaxError
  | mismatch (cause : Mismatch)
  deriving DecidableEq, Repr

def ticked (s : String) : String := "`" ++ s ++ "`"

def Found.text : Found → String
  | .null => "null"
  | .bool b => "boolean " ++ ticked (if b then "true" else "false")
  | .number (.whole n) => "integer " ++ ticked (Number.whole n).text
  | .number (.double x) => "floating point " ++ ticked (Number.double x).text
  | .string s => "string " ++ Text.quoted s
  | .sequence => "sequence"
  | .map => "map"

def Mismatch.message : Mismatch → String
  | invalidType found expected => "invalid type: " ++ found.text ++ ", expected " ++ expected
  | invalidValue found expected => "invalid value: " ++ found.text ++ ", expected " ++ expected
  | missingField name => "missing field " ++ ticked name
  | duplicateField name => "duplicate field " ++ ticked name
  | unknownVariant name variants =>
    "unknown variant " ++ ticked name ++ ", expected one of "
      ++ String.intercalate ", " (variants.map ticked)
  | invalidLength length expected =>
    "invalid length " ++ toString length ++ ", expected " ++ expected
  | unknownClassification name => "unknown schema classification '" ++ name ++ "'"

end SwiftClient.Json
