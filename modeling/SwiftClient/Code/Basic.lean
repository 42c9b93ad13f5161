/-!
# Code

Code is a list of lines, each without its line end. What stands in a block is indented by four
spaces. A text that is put into a line may hold line breaks of its own, which are left alone.
-/
namespace SwiftClient

abbrev Code := List String

namespace Code

/-- Moves lines to the right; blank lines stay empty. -/
def indented (code : Code) : Code :=
  code.map fun line => if line = "" then "" else "    " ++ line

def enclosed (opening : String) (body : Code) (closing : String) : Code :=
  opening :: indented body ++ [closing]

def block (head : String) (body : Code) : Code := enclosed (head ++ " \x7b") body "\x7d"

def choice (condition : String) (holds otherwise : Code) : Code :=
  (condition ++ " \x7b") :: indented holds ++ block "\x7d else" otherwise

/-- A case of a `switch`, which stands in the column of its `switch`. -/
def case (head : String) (body : Code) : Code := (head ++ ":") :: indented body

def switch (value : String) (cases : Code) : Code :=
  ("switch " ++ value ++ " \x7b") :: cases ++ ["\x7d"]

def arguments : List String → Code
  | [] => []
  | [last] => [last]
  | argument :: rest => (argument ++ ",") :: arguments rest

def listed (items : List String) : String := String.intercalate ", " items

def stringLiteral (text : String) : String := "\"" ++ text ++ "\""

/-- An empty description is as good as none. -/
def documentation : Option String → Code
  | none => []
  | some "" => []
  | some description => ["/// " ++ description]

/-- A declaration under its documentation, set off by a blank line. -/
def documented (description : Option String) (declaration : Code) : Code :=
  "" :: documentation description ++ declaration

def text (code : Code) : String := String.join (code.map (· ++ "\n"))

end Code

end SwiftClient
