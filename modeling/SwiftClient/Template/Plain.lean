import SwiftClient.Json.Text

/-!
# Plain templates

A plain template is text with the names of values between pairs of braces. A name goes down from
field to field with points between them. That is all that such a template can do: it has no
conditions, loops, blocks, comments or filters. Marks of these are text outside of braces, and part
of a name, which then means nothing, inside of them.
-/
namespace SwiftClient

inductive TemplatePiece where
  | text (text : String)
  | value (path : List String)
  deriving DecidableEq

namespace TemplatePiece

def isSpace (c : Char) : Bool := c = ' ' ∨ c = '\t' ∨ c = '\n' ∨ c = '\r'

/-- A name that is given with spaces around it. -/
def pathOf (cs : List Char) : List String :=
  (String.ofList (cs.filter (! isSpace ·))).splitOn "."

/-- Reads pieces, given whether a name has been opened, and what has been seen since the last piece,
last character first. A name that is not closed is text. -/
def read : Bool → List Char → List Char → List TemplatePiece
  | false, seen, [] => [.text (String.ofList seen.reverse)]
  | true, seen, [] => [.text ("\x7b\x7b" ++ String.ofList seen.reverse)]
  | false, seen, '\x7b' :: '\x7b' :: rest =>
    .text (String.ofList seen.reverse) :: read true [] rest
  | true, seen, '\x7d' :: '\x7d' :: rest => .value (pathOf seen.reverse) :: read false [] rest
  | opened, seen, c :: rest => read opened (c :: seen) rest

def ofText (source : String) : List TemplatePiece := read false [] source.toList

mutual

/-- A text stands for itself and null for nothing; a list is written item by item, and of an object
only that it is one. -/
def written : Json → String
  | .string s => s
  | .null => ""
  | .array items => "[" ++ String.intercalate ", " (writtenItems items) ++ "]"
  | .object _ => "[object]"
  | .bool b => (Json.bool b).text
  | .number n => (Json.number n).text

def writtenItems : List Json → List String
  | [] => []
  | item :: rest => written item :: writtenItems rest

end

/-- The piece with its value put in; there is nothing to put in for a name that means nothing. -/
def fill (values : Json) : TemplatePiece → Option String
  | text t => some t
  | value path => (Json.getPath? path values).map written

def fillAll (values : Json) (pieces : List TemplatePiece) : Option String :=
  (pieces.mapM (fill values)).map String.join

end TemplatePiece

end SwiftClient
