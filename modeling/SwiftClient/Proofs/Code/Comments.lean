import Mathlib.Data.List.Basic
import SwiftClient.Code.Basic

/-!
# Comments in code

A comment ends with its line. So a text of several lines that is put into a comment stays there
only if each further line is blank or begins a comment of its own.
-/
namespace SwiftClient.Code

/-- Either ends a line, and a comment with it. -/
def isLineBreak (c : Char) : Bool := c = '\n' ∨ c = '\r'

def isLineSpace (c : Char) : Bool := c = ' ' ∨ c = '\t' ∨ c = '\x0b' ∨ c = '\x0c'

def IsOneLine (text : String) : Prop := ∀ c ∈ text.toList, isLineBreak c = false

instance (text : String) : Decidable (IsOneLine text) :=
  inferInstanceAs (Decidable (∀ c ∈ text.toList, _))

def lines (text : String) : List (List Char) := text.toList.splitOnP isLineBreak

def isCodeLine (line : List Char) : Bool :=
  let rest := line.dropWhile isLineSpace
  !rest.isEmpty && !"///".toList.isPrefixOf rest

/-- The lines of a text that are neither blank nor documentation. -/
def codeLines (text : String) : List (List Char) := (lines text).filter isCodeLine

def furtherCode (text : String) : List (List Char) := (lines text).tail.filter isCodeLine

/-- None of the lines after the first leaves a comment that the text is put into. -/
def StaysInComment (text : String) : Prop := ∀ line ∈ (lines text).tail, isCodeLine line = false

instance (text : String) : Decidable (StaysInComment text) :=
  inferInstanceAs (Decidable (∀ line ∈ (lines text).tail, _))

lemma furtherCode_eq_nil_iff {text : String} : furtherCode text = [] ↔ StaysInComment text := by
  simp [StaysInComment, furtherCode, List.filter_eq_nil_iff]

@[simp] lemma text_cons (line : String) (code : Code) :
    text (line :: code) = line ++ "\n" ++ text code := by
  simp [text]

lemma text_append (code code' : Code) : text (code ++ code') = text code ++ text code' := by
  simp [text]

/-- The lines of a code hold the lines of what is put into them. -/
lemma codeLines_text (code : Code) : codeLines (text code) = code.flatMap codeLines := by
  induction code with
  | nil => rfl
  | cons line rest ih =>
    have happend : (text (line :: rest)).toList = line.toList ++ '\n' :: (text rest).toList := by
      simp
    rw [List.flatMap_cons, ← ih, codeLines, lines, happend,
      List.splitOnP_append_cons _ _ (by decide), List.filter_append]
    rfl

/-- What a line begins with that is a comment from its first mark on. -/
def IsCommentStart (start : String) : Prop :=
  IsOneLine start ∧ "///".toList <+: start.toList.dropWhile isLineSpace

/-- The first line of a text goes on where the text is put. -/
lemma lines_append {start : String} (h : IsOneLine start) (text : String) :
    lines (start ++ text) = (lines text).modifyHead (start.toList ++ ·) := by
  unfold IsOneLine at h
  unfold lines
  rw [String.toList_append]
  generalize start.toList = cs at h
  induction cs with
  | nil => exact (congrFun List.modifyHead_id _).symm
  | cons c cs ih =>
    rw [List.forall_mem_cons] at h
    rw [List.cons_append, List.splitOnP_cons_eq_if_modifyHead, if_neg (by simp [h.1]), ih h.2,
      List.modifyHead_modifyHead]
    rfl

/-- Of a text in a comment, the first line is no code. -/
lemma codeLines_comment {start : String} (h : IsCommentStart start) (text : String) :
    codeLines (start ++ text) = furtherCode text := by
  obtain ⟨first, others, hlines⟩ := List.exists_cons_of_ne_nil
    (List.splitOnP_ne_nil isLineBreak text.toList)
  have hcomment : isCodeLine (start.toList ++ first) = false := by
    have hne : (start.toList.dropWhile isLineSpace).isEmpty = false := by
      have hlength := h.2.length_le
      cases hrest : start.toList.dropWhile isLineSpace with
      | nil => simp [hrest] at hlength
      | cons => rfl
    have hprefix := h.2.trans (List.prefix_append _ first)
    rw [isCodeLine, List.dropWhile_append, if_neg (by simp [hne]),
      List.isPrefixOf_iff_prefix.mpr hprefix]
    simp
  rw [codeLines, lines_append h.1, furtherCode, lines, hlines, List.modifyHead_cons,
    List.filter_cons_of_neg (by simp [hcomment]), List.tail_cons]

lemma IsOneLine.append {text text' : String} (h : IsOneLine text) (h' : IsOneLine text') :
    IsOneLine (text ++ text') := by
  unfold IsOneLine
  rw [String.toList_append, List.forall_mem_append]
  exact ⟨h, h'⟩

lemma isCommentStart_indented {start : String} (h : IsCommentStart start) :
    IsCommentStart ("    " ++ start) := by
  have hline : IsOneLine "    " := by simp [IsOneLine, isLineBreak]
  have hspaces : ∀ c ∈ "    ".toList, isLineSpace c := by simp [isLineSpace]
  refine ⟨hline.append h.1, ?_⟩
  rw [String.toList_append, List.dropWhile_append_of_pos hspaces]
  exact h.2

/-- Code in which texts stand in comments, and the code without these comments. -/
inductive Commented : List String → Code → Code → Prop
  | nil : Commented [] [] []
  | line {texts : List String} {code plain : Code} (line : String)
      (rest : Commented texts code plain) : Commented texts (line :: code) (line :: plain)
  | comment {texts : List String} {code plain : Code} {start : String}
      (isStart : IsCommentStart start) (text : String) (rest : Commented texts code plain) :
      Commented (text :: texts) ((start ++ text) :: code) plain

namespace Commented

variable {texts texts' : List String} {code code' plain plain' : Code}

lemma same (code : Code) : Commented [] code code := by
  induction code with
  | nil => exact .nil
  | cons line rest ih => exact .line line ih

lemma append (h : Commented texts code plain) (h' : Commented texts' code' plain') :
    Commented (texts ++ texts') (code ++ code') (plain ++ plain') := by
  induction h with
  | nil => exact h'
  | line line _ ih => exact .line line ih
  | comment isStart text _ ih => exact .comment isStart text ih

lemma append_same (h : Commented texts code plain) (tail : Code) :
    Commented texts (code ++ tail) (plain ++ tail) := by
  simpa using h.append (.same tail)

lemma same_append (head : Code) (h : Commented texts code plain) :
    Commented texts (head ++ code) (head ++ plain) :=
  (Commented.same head).append h

lemma flatMap {α : Type} {items : List α} {texts : α → List String} {code plain : α → Code}
    (h : ∀ x ∈ items, Commented (texts x) (code x) (plain x)) :
    Commented (items.flatMap texts) (items.flatMap code) (items.flatMap plain) := by
  induction items with
  | nil => exact .nil
  | cons x rest ih =>
    rw [List.forall_mem_cons] at h
    exact h.1.append (ih h.2)

lemma indented (h : Commented texts code plain) :
    Commented texts (Code.indented code) (Code.indented plain) := by
  induction h with
  | nil => exact .nil
  | line line _ ih => exact .line _ ih
  | @comment _ _ _ start isStart text _ ih =>
    have hne : start ++ text ≠ "" := by
      intro hempty
      have hstart := (String.append_eq_empty_iff.mp hempty).1
      rw [hstart] at isStart
      exact absurd isStart.2.length_le (by decide)
    rw [Code.indented, List.map_cons, if_neg hne, ← String.append_assoc]
    exact .comment (isCommentStart_indented isStart) text ih

lemma block (head : String) (h : Commented texts code plain) :
    Commented texts (Code.block head code) (Code.block head plain) :=
  .line _ (h.indented.append_same _)

lemma codeLines_sublist (h : Commented texts code plain) :
    (codeLines (text plain)).Sublist (codeLines (text code)) := by
  rw [codeLines_text, codeLines_text]
  induction h with
  | nil => exact .slnil
  | line line _ ih => exact (List.Sublist.refl _).append ih
  | comment _ _ _ ih => exact ih.trans (List.sublist_append_right _ _)

/-- What is there besides are the further lines of the texts. -/
lemma codeLines_length (h : Commented texts code plain) :
    (codeLines (text code)).length =
      (codeLines (text plain)).length + (texts.flatMap furtherCode).length := by
  rw [codeLines_text, codeLines_text]
  induction h with
  | nil => rfl
  | line line _ ih =>
    rw [List.flatMap_cons, List.flatMap_cons, List.length_append, List.length_append, ih,
      Nat.add_assoc]
  | comment isStart text _ ih =>
    rw [List.flatMap_cons, List.flatMap_cons, List.length_append, List.length_append,
      codeLines_comment isStart, ih]
    omega

/-- The code is the same with and without the comments when each text stays in its comment. -/
theorem codeLines_eq_iff (h : Commented texts code plain) :
    codeLines (text code) = codeLines (text plain) ↔ ∀ t ∈ texts, StaysInComment t := by
  have hall : (texts.flatMap furtherCode).length = 0 ↔ ∀ t ∈ texts, StaysInComment t := by
    rw [List.length_eq_zero_iff, List.flatMap_eq_nil_iff]
    exact forall₂_congr fun t _ => furtherCode_eq_nil_iff
  rw [eq_comm, ← h.codeLines_sublist.length_eq, h.codeLines_length, Nat.left_eq_add, hall]

end Commented

end SwiftClient.Code
