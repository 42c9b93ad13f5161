/-!
# Sorted entries

A list of entries in ascending order of their keys, each key once. Of entries with one key the last
one put counts.
-/
namespace SwiftClient.Sorted

variable {κ : Type} {α : Type} [LT κ] [DecidableLT κ] [DecidableEq κ]

/-- Puts an entry in its place in the order of keys, over one that has its key. -/
def put (key : κ) (value : α) : List (κ × α) → List (κ × α)
  | [] => [(key, value)]
  | (k, v) :: rest =>
    if key < k then (key, value) :: (k, v) :: rest
    else if key = k then (key, value) :: rest
    else (k, v) :: put key value rest

def ofList (entries : List (κ × α)) : List (κ × α) :=
  entries.foldl (fun sorted e => put e.1 e.2 sorted) []

/-- Each of the keys once, in ascending order. -/
def keys (keys : List κ) : List κ := (ofList (keys.map fun k => (k, ()))).map (·.1)

end SwiftClient.Sorted
