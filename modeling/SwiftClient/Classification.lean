/-!
# Classifications

The shape of data that a schema describes, before a Swift type is chosen for it.
-/
namespace SwiftClient

inductive Classification where
  | integer | number | string | boolean | date | time | dateTime | binary | file | any
  | array | map
  | object | enum | oneOf | interface | hierarchy | wrapper
  deriving DecidableEq, Repr

namespace Classification

def all : List Classification :=
  [integer, number, string, boolean, date, time, dateTime, binary, file, any, array, map,
    object, enum, oneOf, interface, hierarchy, wrapper]

def name : Classification → String
  | integer => "INTEGER"
  | number => "NUMBER"
  | string => "STRING"
  | boolean => "BOOLEAN"
  | date => "DATE"
  | time => "TIME"
  | dateTime => "DATETIME"
  | binary => "BINARY"
  | file => "FILE"
  | any => "ANY"
  | array => "ARRAY"
  | map => "MAP"
  | object => "OBJECT"
  | enum => "ENUM"
  | oneOf => "ONE_OF"
  | interface => "INTERFACE"
  | hierarchy => "HIERARCHY"
  | wrapper => "WRAPPER"

/-- Classifications with a Swift type of their own. -/
def isPrimitive : Classification → Bool
  | integer | number | string | boolean | date | time | dateTime | binary | file | any => true
  | _ => false

def isCollection : Classification → Bool
  | array | map => true
  | _ => false

def isNamed : Classification → Bool
  | object | enum | oneOf | interface | hierarchy | wrapper => true
  | _ => false

def isMapKey : Classification → Bool
  | string | integer => true
  | _ => false

/-- The letters of a name in upper case, without its underscores and hyphens. -/
def letters (s : String) : List Char :=
  (s.toList.filter fun c => c ≠ '_' ∧ c ≠ '-').map Char.toUpper

/-- The classification of a name in any letter case, with or without separators. -/
def ofName? (s : String) : Option Classification :=
  all.find? fun c => letters c.name = letters s

end Classification

end SwiftClient
