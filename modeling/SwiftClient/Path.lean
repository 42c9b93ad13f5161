/-!
# Paths

Paths are texts with slashes. Joining puts one slash between two paths unless the second is
absolute, and then leaves the second alone. The parent drops the last name, where slashes and
points at the end do not count as names. The place of a path is the list of names that it goes
through.
-/
namespace SwiftClient.Path

def isAbsolute (path : String) : Bool := path.toList.head? == some '/'

/-- `path` as seen from `directory`. -/
def join (directory path : String) : String :=
  if isAbsolute path then path
  else
    match directory.toList.getLast? with
    | none => path
    | some '/' => directory ++ path
    | some _ => directory ++ "/" ++ path

def trimSlashes (path : String) : String :=
  let fromStart := path.toList.dropWhile (· == '/')
  String.ofList (fromStart.reverse.dropWhile (· == '/')).reverse

def segments : List Char → List (List Char)
  | [] => [[]]
  | '/' :: rest => [] :: segments rest
  | c :: rest =>
    match segments rest with
    | [] => [[c]]
    | s :: ss => (c :: s) :: ss

/-- Drops segments at the end, given last first, that name nothing. A point counts when it is the
whole path, or stands first in a relative one. -/
def dropIdle (absolute : Bool) : List (List Char) → List (List Char)
  | [] => []
  | [['.']] => if absolute then [] else [['.']]
  | [] :: rest => dropIdle absolute rest
  | ['.'] :: rest => dropIdle absolute rest
  | s :: rest => s :: rest

/-- The path without its last name; a path that has no name has no parent. -/
def parent? (path : String) : Option String :=
  let absolute := isAbsolute path
  let body := if absolute then path.toList.drop 1 else path.toList
  match dropIdle absolute (segments body).reverse with
  | [] => none
  | _ :: rest =>
    let kept := String.intercalate "/"
      ((dropIdle absolute rest).reverse.map String.ofList)
    some (if absolute then "/" ++ kept else kept)

/-- Goes one segment further from a place, which is given last name first. -/
def step (place : List String) (segment : String) : List String :=
  if segment = "" ∨ segment = "." then place
  else if segment = ".." then
    if place = ["/"] then place else place.drop 1
  else segment :: place

/-- The names that a path goes through; those of an absolute path begin with a slash. -/
def place (path : String) : List String :=
  (((segments path.toList).map String.ofList).foldl step
    (if isAbsolute path then ["/"] else [])).reverse

end SwiftClient.Path
