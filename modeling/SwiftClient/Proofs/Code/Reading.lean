import Mathlib.Data.List.Basic
import SwiftClient.Code.Basic

/-!
# Reading code

What the lines of a code say, and how deep they are indented. Types are read from the lines that
declare them; blank lines, documentation, closing braces and the heads of extensions state nothing.
-/
namespace SwiftClient.Code

variable {α : Type} {f : List Char → Option α}

/-- How deep a line is indented, and what is left of it then. -/
def dedent : List Char → Nat × List Char
  | ' ' :: ' ' :: ' ' :: ' ' :: rest => ((dedent rest).1 + 1, (dedent rest).2)
  | rest => (0, rest)

def deeper (item : Nat × α) : Nat × α := (item.1 + 1, item.2)

/-- What is read from a line, and how deep it stands. -/
def readLine (f : List Char → Option α) (line : String) : Option (Nat × α) :=
  (f (dedent line.toList).2).map ((dedent line.toList).1, ·)

def read (f : List Char → Option α) (code : Code) : List (Nat × α) := code.filterMap (readLine f)

def StartsInColumn (start : String) : Prop := (start.toList.head?.any (· ≠ ' ')) = true

lemma dedent_start {start : String} (h : StartsInColumn start) (rest : String) :
    dedent (start ++ rest).toList = (0, (start ++ rest).toList) := by
  unfold StartsInColumn at h
  rw [String.toList_append]
  cases hs : start.toList with
  | nil => simp [hs] at h
  | cons c cs =>
    rw [List.cons_append]
    unfold dedent
    split <;> simp_all

lemma readLine_start {start : String} (h : StartsInColumn start) (rest : String) :
    readLine f (start ++ rest) = (f (start ++ rest).toList).map (0, ·) := by
  rw [readLine, dedent_start h]

lemma readLine_indented (line : String) :
    readLine f ("    " ++ line) = (readLine f line).map deeper := by
  have hdedent : dedent ("    ".toList ++ line.toList) =
      ((dedent line.toList).1 + 1, (dedent line.toList).2) := rfl
  unfold readLine
  rw [String.toList_append, hdedent, Option.map_map]
  rfl

@[simp] lemma read_nil : read f [] = [] := rfl

lemma read_cons (line : String) (code : Code) :
    read f (line :: code) = (readLine f line).toList ++ read f code := by
  unfold read
  rw [List.filterMap_cons]
  cases readLine f line <;> rfl

@[simp] lemma read_append (code code' : Code) :
    read f (code ++ code') = read f code ++ read f code' :=
  List.filterMap_append

lemma read_eq_nil {code : Code} (h : ∀ line ∈ code, readLine f line = none) : read f code = [] :=
  List.filterMap_eq_nil_iff.mpr h

lemma read_indented (hf : f [] = none) (code : Code) :
    read f (indented code) = (read f code).map deeper := by
  unfold read indented
  rw [List.filterMap_map, List.map_filterMap]
  congr 1
  funext line
  rw [Function.comp_apply]
  split_ifs with h
  · have hempty : readLine f "" = none := by
      change (f []).map _ = none
      rw [hf]
      rfl
    rw [h, hempty]
    rfl
  · exact readLine_indented line

def typeHeads : List String := ["public struct ", "public enum ", "public protocol "]

/-- The name of the type that a line declares; what it inherits from, or a block, comes next. -/
def typeName? (line : List Char) : Option String :=
  (typeHeads.find? fun head => head.toList.isPrefixOf line).map fun head =>
    String.ofList ((line.drop head.length).takeWhile fun c => c ≠ ':' ∧ c ≠ ' ')

/-- The types that a code declares, with their depths. -/
def types (code : Code) : List (Nat × String) := read typeName? code

/-- Lines that start like this declare no type. -/
def IsPlain (start : String) : Prop :=
  StartsInColumn start ∧ ∀ head ∈ typeHeads,
    ¬head.toList <+: start.toList ∧ ¬start.toList <+: head.toList

instance (start : String) : Decidable (IsPlain start) := inferInstanceAs (Decidable (_ = _ ∧ _))

lemma readLine_plain {start : String} (h : IsPlain start) (rest : String) :
    readLine typeName? (start ++ rest) = none := by
  have hname : typeName? (start ++ rest).toList = none := by
    unfold typeName?
    rw [Option.map_eq_none_iff, List.find?_eq_none]
    intro head hhead hprefix
    obtain ⟨hno, hno'⟩ := h.2 head hhead
    rw [List.isPrefixOf_iff_prefix, String.toList_append] at hprefix
    rcases List.prefix_or_prefix_of_prefix hprefix (List.prefix_append _ rest.toList) with hp | hp
    · exact hno hp
    · exact hno' hp
  rw [readLine_start h.1, hname]
  rfl

lemma readLine_head {head name tail : String} (hhead : head ∈ typeHeads)
    (hname : ':' ∉ name.toList ∧ ' ' ∉ name.toList)
    (htail : tail.toList.head? = some ':' ∨ tail.toList.head? = some ' ') :
    readLine typeName? (head ++ (name ++ tail)) = some (0, name) := by
  have hstart : StartsInColumn head := by
    simp only [typeHeads, List.mem_cons, List.not_mem_nil, or_false] at hhead
    rcases hhead with rfl | rfl | rfl <;> rfl
  have hfind : (typeHeads.find? fun h => h.toList.isPrefixOf (head ++ (name ++ tail)).toList) =
      some head := by
    rw [String.toList_append]
    simp only [typeHeads, List.mem_cons, List.not_mem_nil, or_false] at hhead
    rcases hhead with rfl | rfl | rfl <;> rfl
  have htake : (name ++ tail).toList.takeWhile (fun c => c ≠ ':' ∧ c ≠ ' ') = name.toList := by
    have hall : ∀ c ∈ name.toList, decide (c ≠ ':' ∧ c ≠ ' ') = true := by
      intro c hc
      rw [decide_eq_true_eq]
      exact ⟨fun h => hname.1 (h ▸ hc), fun h => hname.2 (h ▸ hc)⟩
    rw [String.toList_append, List.takeWhile_append_of_pos hall]
    cases htoList : tail.toList with
    | nil => simp
    | cons c cs =>
      rw [htoList] at htail
      rcases htail with h | h <;> cases h <;> simp
  have hdrop : (head ++ (name ++ tail)).toList.drop head.length = (name ++ tail).toList := by
    rw [String.toList_append, ← String.length_toList, List.drop_left]
  rw [readLine_start hstart]
  unfold typeName?
  simp only [hfind, Option.map_some, hdrop, htake, String.ofList_toList]

/-- What a line states, if anything. -/
def stated? (line : List Char) : Option String :=
  if line = [] ∨ line = ['\x7d'] ∨ "///".toList <+: line ∨ "extension ".toList <+: line then none
  else some (String.ofList line)

def stated (code : Code) : List (Nat × String) := read stated? code

end SwiftClient.Code
