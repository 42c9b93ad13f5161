import SwiftClient.Failure
import SwiftClient.Path
import SwiftClient.Sorted

/-!
# File trees

A file tree says what stands at each place: a directory, a file with its content, or nothing. It is
changed one directory or file at a time. A file goes into a directory that is there, and neither
kind takes the place of the other.
-/
namespace SwiftClient

inductive FileNode where
  | directory
  | file (content : String)
  deriving DecidableEq

/-- What stands at the places below the root, which is a directory itself. -/
structure FileTree where
  nodes : List (List String × FileNode)
  deriving DecidableEq

inductive FileChange where
  | directory (place : List String)
  | file (place : List String) (content : String)
  deriving DecidableEq

/-- The places above a place, the root apart, from the top down. -/
def placesAbove : List String → List (List String)
  | [] => []
  | [_] => []
  | name :: next :: rest => [name] :: (placesAbove (next :: rest)).map (name :: ·)

/-- Makes the directories above a directory, then the directory. -/
def FileChange.ofDirectory (path : String) : List FileChange :=
  (placesAbove (Path.place path) ++ [Path.place path]).map .directory

/-- Makes the directories above a file, then the file. -/
def FileChange.ofFile (path content : String) : List FileChange :=
  (placesAbove (Path.place path)).map .directory ++ [.file (Path.place path) content]

namespace FileTree

def empty : FileTree := ⟨[]⟩

def get? (t : FileTree) : List String → Option FileNode
  | [] => some .directory
  | place => t.nodes.lookup place

def put (t : FileTree) (place : List String) (node : FileNode) : FileTree :=
  ⟨Sorted.put place node t.nodes⟩

def change (t : FileTree) : FileChange → Except Failure FileTree
  | .directory place =>
    match t.get? place with
    | some .directory => .ok t
    | some (.file _) => .error .unavailable
    | none =>
      match t.get? place.dropLast with
      | some .directory => .ok (t.put place .directory)
      | _ => .error .unavailable
  | .file place content =>
    match t.get? place, t.get? place.dropLast with
    | some .directory, _ => .error .unavailable
    | _, some .directory => .ok (t.put place (.file content))
    | _, _ => .error .unavailable

def changeAll (t : FileTree) (changes : List FileChange) : Except Failure FileTree :=
  changes.foldlM change t

def makeDirectory (t : FileTree) (path : String) : Except Failure FileTree :=
  t.changeAll (FileChange.ofDirectory path)

def write (t : FileTree) (path content : String) : Except Failure FileTree :=
  t.changeAll (FileChange.ofFile path content)

/-- What is left of a place below another one. -/
def within? : List String → List String → Option (List String)
  | [], [] => none
  | [], place => some place
  | _ :: _, [] => none
  | name :: above, n :: place => if name = n then within? above place else none

def below (t : FileTree) (place : List String) : FileTree :=
  ⟨t.nodes.filterMap fun n => (within? place n.1).map (·, n.2)⟩

def files (t : FileTree) : List (String × String) :=
  t.nodes.filterMap fun
    | (place, .file content) => some (String.intercalate "/" place, content)
    | (_, .directory) => none

def top (t : FileTree) : List String :=
  t.nodes.filterMap fun
    | ([name], _) => some name
    | _ => none

end FileTree

end SwiftClient
