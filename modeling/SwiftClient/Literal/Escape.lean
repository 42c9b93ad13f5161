/-!
# Swift string literals

Inside a string literal, backslashes, double quotes and line ends are written as escapes. They are
replaced one after the other, backslashes first, so that none is escaped twice.
-/
namespace SwiftClient.Literal

def replaceChar (c : Char) (replacement : List Char) (cs : List Char) : List Char :=
  cs.flatMap fun d => if d = c then replacement else [d]

def escapeChars (cs : List Char) : List Char :=
  replaceChar '\n' ['\\', 'n'] (replaceChar '\r' ['\\', 'r']
    (replaceChar '"' ['\\', '"'] (replaceChar '\\' ['\\', '\\'] cs)))

def escape (s : String) : String := String.ofList (escapeChars s.toList)

def stringLiteral (s : String) : String := "\"" ++ escape s ++ "\""

end SwiftClient.Literal
