import SwiftClient.Text.Letter
import SwiftClient.Text.LetterCase

/-!
# Words of a name

A name falls into words at everything that is not a letter or digit, and before a capital that
follows a small letter or an ASCII digit.
-/
namespace SwiftClient.Naming
open Text

/-- Whether a word ends between two letters or digits that stand side by side. -/
def breaksBetween (c d : Char) : Bool := isUppercase d && (isLowercase c || c.isDigit)

def extendFirst (c : Char) : List (List Char) → List (List Char)
  | [] => [[c]]
  | w :: ws => (c :: w) :: ws

def splitWords : List Char → List (List Char)
  | [] => []
  | c :: rest =>
    if !isAlphanumeric c then splitWords rest
    else
      match rest with
      | [] => [[c]]
      | d :: _ =>
        if !isAlphanumeric d || breaksBetween c d then [c] :: splitWords rest
        else extendFirst c (splitWords rest)

def upperFirst : List Char → List Char
  | [] => []
  | c :: rest => upperOf c ++ rest

/-- The word with its first character in lower case, or all of it if it has no small letter. -/
def lowerFirst (word : List Char) : List Char :=
  if word.all (fun c => !isLowercase c) then lowerAfter [] word
  else
    match word with
    | [] => []
    | c :: rest => lowerOf c ++ rest

end SwiftClient.Naming
