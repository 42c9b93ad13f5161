import SwiftClient.Naming.Words
import SwiftClient.Naming.Reserved

/-!
# Swift names

Names of a document become names of types, identifiers and enum members. Types begin with a
capital and identifiers with a small letter, and an identifier that Swift reserves stands in
backticks.
-/
namespace SwiftClient.Naming
open Text

/-- How the members of an enum are named after their values. -/
inductive EnumStyle where
  | constant | camelCase | preserve
  deriving DecidableEq

namespace EnumStyle

def name : EnumStyle → String
  | constant => "constant"
  | camelCase => "camelCase"
  | preserve => "preserve"

def byName : List (String × EnumStyle) :=
  [constant, camelCase, preserve].map fun s => (s.name, s)

/-- The style of a setting, in any letter case and with or without a separator. -/
def ofSetting? (s : String) : Option EnumStyle :=
  match lowercase s with
  | "constant" => some constant
  | "camelcase" => some camelCase
  | "camel-case" => some camelCase
  | "camel_case" => some camelCase
  | "preserve" => some preserve
  | _ => none

end EnumStyle

def startsWithDigit : List Char → Bool
  | [] => false
  | c :: _ => c.isDigit

/-- Makes an identifier of any text: the empty one and a leading digit get an underscore, and a
reserved word gets backticks. -/
def escaped (cs : List Char) : List Char :=
  if cs.isEmpty then ['_']
  else if startsWithDigit cs then '_' :: cs
  else if isReserved (String.ofList cs) then '\x60' :: cs ++ ['\x60']
  else cs

def classChars (name : List Char) : List Char :=
  let cs := (splitWords name).flatMap upperFirst
  if cs.isEmpty then ['_'] else if startsWithDigit cs then '_' :: cs else cs

def identifierChars (name : List Char) : List Char :=
  match splitWords name with
  | [] => escaped []
  | w :: ws => escaped (lowerFirst w ++ ws.flatMap upperFirst)

def constantChars (name : List Char) : List Char :=
  match (splitWords name).map (lowerAfter []) with
  | [] => escaped []
  | w :: ws => escaped (w ++ ws.flatMap upperFirst)

/-- Every character that is no letter or digit becomes an underscore. -/
def preservedChars (value : List Char) : List Char :=
  escaped (value.map fun c => if isAlphanumeric c then c else '_')

def wordsOf (name : String) : List String := (splitWords name.toList).map String.ofList

def escape (identifier : String) : String := String.ofList (escaped identifier.toList)

def className (name : String) : String := String.ofList (classChars name.toList)

def identifier (name : String) : String := String.ofList (identifierChars name.toList)

def constantName (name : String) : String := String.ofList (constantChars name.toList)

def methodName (name : String) : String := identifier name

def memberName (style : EnumStyle) (value : String) : String :=
  match style with
  | .constant => constantName value
  | .camelCase => identifier value
  | .preserve => String.ofList (preservedChars value.toList)

end SwiftClient.Naming
