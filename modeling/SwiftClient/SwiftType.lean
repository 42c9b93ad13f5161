/-!
# Swift types

A type is a named type, an array or a dictionary. It may name another type that its values are
made with, and a supertype. Where a value is used, a nullable type is wrapped in `Nullable` and one
that may be left out becomes an optional.
-/
namespace SwiftClient

inductive SwiftType where
  | named (expression : String)
  | array (component : SwiftType)
  | dictionary (key value : SwiftType)
  | withConcrete (type concrete : SwiftType)
  | withParent (type parent : SwiftType)
  deriving DecidableEq, Repr, Inhabited

inductive TypeError where
  | unknownClassification (name : String)
  | collectionKey (expression : String)
  deriving DecidableEq, Repr

def TypeError.message : TypeError → String
  | unknownClassification name => "unknown schema classification '" ++ name ++ "'"
  | collectionKey expression =>
    "invalid composition: dictionary key '" ++ expression ++ "' must be a scalar"

namespace SwiftType

def expression : SwiftType → String
  | named e => e
  | array c => "[" ++ c.expression ++ "]"
  | dictionary k v => "[" ++ k.expression ++ " : " ++ v.expression ++ "]"
  | withConcrete t _ => t.expression
  | withParent t _ => t.expression

/-- The type of the elements of an array or of the values of a dictionary. -/
def component? : SwiftType → Option SwiftType
  | named _ => none
  | array c => some c
  | dictionary _ v => some v
  | withConcrete t _ => t.component?
  | withParent t _ => t.component?

def key? : SwiftType → Option SwiftType
  | named _ => none
  | array _ => none
  | dictionary k _ => some k
  | withConcrete t _ => t.key?
  | withParent t _ => t.key?

def givenConcrete? : SwiftType → Option SwiftType
  | withConcrete _ c => some c
  | withParent t _ => t.givenConcrete?
  | _ => none

/-- The type that values are made with, which is the type itself unless another is given. -/
def concrete (t : SwiftType) : SwiftType := t.givenConcrete?.getD t

def parent? : SwiftType → Option SwiftType
  | withParent _ p => some p
  | withConcrete t _ => t.parent?
  | _ => none

def isArray (t : SwiftType) : Bool := t.component?.isSome && t.key?.isNone

def isDictionary (t : SwiftType) : Bool := t.key?.isSome

/-- A dictionary, whose keys must not be collections. -/
def dictionaryOf (key value : SwiftType) : Except TypeError SwiftType :=
  if key.component?.isSome then .error (.collectionKey key.expression)
  else .ok (.dictionary key value)

/-- The name that a member of this type is called by when it has none of its own. -/
def suggestedName (t : SwiftType) : String :=
  match t.component? with
  | some c => if t.isArray then c.expression ++ "_array" else t.expression
  | none => t.expression

end SwiftType

/-- A type where it is used. -/
structure SwiftUsage where
  type : SwiftType
  nullable : Bool
  required : Bool
  deriving DecidableEq, Repr

namespace SwiftUsage

def wrapNullable (nullable : Bool) (expression : String) : String :=
  if nullable then "Nullable<" ++ expression ++ ">" else expression

def wrapOptional (required : Bool) (expression : String) : String :=
  if required then expression else expression ++ "?"

def expression (u : SwiftUsage) : String :=
  wrapOptional u.required (wrapNullable u.nullable u.type.expression)

end SwiftUsage

end SwiftClient
