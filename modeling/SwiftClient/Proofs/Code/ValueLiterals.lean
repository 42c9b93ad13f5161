import Mathlib.Data.List.Forall2
import SwiftClient.Failure
import SwiftClient.Proofs.Code.StringLiterals
import SwiftClient.Proofs.Json.Lexing

/-!
# Literals read as values

Array, string, integer and boolean literals and nil are read character by character, and stand for
values. An integer may be written in several bases with underscores in it, an array with a comma
after its last item, and everything with space around it. Other code is refused.
-/
namespace SwiftClient

namespace ValueReader

/-- Characters of numbers, booleans and nil. -/
def isWordChar (c : Char) : Bool := c.isAlphanum || c = '_' || c = '-'

def isSpace (c : Char) : Bool := c = ' ' || c = '\t' || c = '\n' || c = '\r'

/-- Digits of a base that is sixteen at most, with underscores after the first. -/
def numeral? (base : ℕ) (cs : List Char) : Option ℕ :=
  if cs.head?.all (· = '_') then none
  else do
    let digits ← (cs.filter (· ≠ '_')).mapM fun c => (Json.Lexeme.hexValue? c).filter (· < base)
    return digits.foldl (fun n d => n * base + d) 0

def natural? : List Char → Option ℕ
  | '0' :: 'b' :: cs => numeral? 2 cs
  | '0' :: 'o' :: cs => numeral? 8 cs
  | '0' :: 'x' :: cs => numeral? 16 cs
  | cs => numeral? 10 cs

def integer? : List Char → Option ℤ
  | '-' :: cs => (natural? cs).map fun n : ℕ => -(n : ℤ)
  | cs => (natural? cs).map Int.ofNat

def wordValue? (cs : List Char) : Option Json :=
  if cs = ['n', 'i', 'l'] then some .null
  else if cs = ['t', 'r', 'u', 'e'] then some (.bool true)
  else if cs = ['f', 'a', 'l', 's', 'e'] then some (.bool false)
  else (integer? cs).map fun n => .number (.whole n)

inductive Place where
  /-- Before a value or, within an array, its end. -/
  | before
  | text (reader : CodeReader)
  | word (cs : List Char)
  | after (value : Json)

/-- The value that has been read when the code ends here, or goes on with a mark. -/
def Place.value? : Place → Option Json
  | before | text _ => none
  | word cs => wordValue? cs
  | after value => some value

end ValueReader

/-- A reader with the items of the arrays that it is in, the inmost one first. -/
structure ValueReader where
  arrays : List (List Json)
  place : ValueReader.Place

namespace ValueReader

/-- Goes on after a value: to the next one, or to the end of the array that it is in. -/
def stepAfter (arrays : List (List Json)) (c : Char) (value : Json) : Option ValueReader :=
  if isSpace c then some ⟨arrays, .after value⟩
  else
    match arrays with
    | [] => none
    | items :: rest =>
      if c = ',' then some ⟨(items ++ [value]) :: rest, .before⟩
      else if c = ']' then some ⟨rest, .after (.array (items ++ [value]))⟩
      else none

def stepBefore (arrays : List (List Json)) (c : Char) : Option ValueReader :=
  if isWordChar c then some ⟨arrays, .word [c]⟩
  else if isSpace c then some ⟨arrays, .before⟩
  else if c = '"' then some ⟨arrays, .text ⟨[], .inside []⟩⟩
  else if c = '[' then some ⟨[] :: arrays, .before⟩
  else
    match arrays with
    | [] => none
    | items :: rest => if c = ']' then some ⟨rest, .after (.array items)⟩ else none

/-- Goes on with a string, which ends as soon as its reader has found it. -/
def ofText (arrays : List (List Json)) (r : CodeReader) : ValueReader :=
  match r.found with
  | [] => ⟨arrays, .text r⟩
  | text :: _ => ⟨arrays, .after (.string (String.ofList text))⟩

def step : ValueReader → Char → Option ValueReader
  | ⟨arrays, .before⟩, c => stepBefore arrays c
  | ⟨arrays, .text r⟩, c => (r.step c).map (ofText arrays)
  | ⟨arrays, .word cs⟩, c =>
    if isWordChar c then some ⟨arrays, .word (cs ++ [c])⟩
    else (wordValue? cs).bind (stepAfter arrays c)
  | ⟨arrays, .after value⟩, c => stepAfter arrays c value

def finish (r : ValueReader) : Option Json := if r.arrays = [] then r.place.value? else none

def value? (code : String) : Option Json := do
  let r ← code.toList.foldlM step ⟨[], .before⟩
  r.finish

example : value? "[ -0x1_f, 10, [nil,], true ]" =
    some (.array [.number (.whole (-31)), .number (.whole 10), .array [.null], .bool true]) := rfl

example : value? "[1, , 2]" = none ∧ value? "[\"a\"" = none ∧ value? "\"\"\"a\"\"\"" = none :=
  ⟨rfl, rfl, rfl⟩

/-- Code from which a value is read, wherever one may stand. -/
def Reads (code : String) (value : Json) : Prop :=
  ∀ arrays, ∃ place : Place, code.toList.foldlM step ⟨arrays, .before⟩ = some ⟨arrays, place⟩ ∧
    place.value? = some value

variable {arrays : List (List Json)} {place : Place} {value : Json} {code : String}
  {cs : List Char} {c : Char}

lemma Reads.value? (h : Reads code value) : ValueReader.value? code = some value := by
  obtain ⟨place, hrun, hvalue⟩ := h []
  rw [ValueReader.value?, hrun]
  exact hvalue

lemma step_of_value? (h : place.value? = some value) (hc : isWordChar c = false) :
    step ⟨arrays, place⟩ c = stepAfter arrays c value := by
  cases place with
  | before | text => cases h
  | word cs =>
    have hword : wordValue? cs = some value := h
    rw [step, hc, if_neg Bool.false_ne_true, hword, Option.bind_some]
  | after v =>
    obtain rfl := Option.some.inj h
    rfl

lemma run_word (hcs : ∀ d ∈ cs, isWordChar d) (before : List Char) :
    cs.foldlM step ⟨arrays, .word before⟩ = some ⟨arrays, .word (before ++ cs)⟩ := by
  induction cs generalizing before with
  | nil =>
    rw [List.append_nil]
    rfl
  | cons d cs ih =>
    rw [List.forall_mem_cons] at hcs
    rw [List.foldlM_cons, step, if_pos hcs.1]
    refine (ih hcs.2 (before ++ [d])).trans ?_
    rw [List.append_assoc]
    rfl

lemma reads_word (hcs : ∀ d ∈ code.toList, isWordChar d)
    (hvalue : wordValue? code.toList = some value) : Reads code value := by
  intro arrays
  refine ⟨.word code.toList, ?_, hvalue⟩
  cases hcode : code.toList with
  | nil =>
    rw [hcode] at hvalue
    cases hvalue
  | cons d cs =>
    rw [hcode, List.forall_mem_cons] at hcs
    have hstart : step ⟨arrays, .before⟩ d = some ⟨arrays, .word [d]⟩ := if_pos hcs.1
    rw [List.foldlM_cons, hstart]
    exact run_word hcs.2 [d]

lemma reads_null : Reads "nil" .null := reads_word (List.all_eq_true.mp rfl) rfl

lemma reads_bool (b : Bool) : Reads (boolText b) (.bool b) := by
  cases b with
  | false => exact reads_word (List.all_eq_true.mp rfl) rfl
  | true => exact reads_word (List.all_eq_true.mp rfl) rfl

open Json (Number)
open Json.Lexeme (digitValue hexValue? isDigit_digitsText foldl_digitsText wholeText_eq_cons)

lemma mapM_digits (h : ∀ d ∈ cs, d.isDigit) :
    cs.mapM (fun d => (hexValue? d).filter (· < 10)) = some (cs.map digitValue) := by
  induction cs with
  | nil => rfl
  | cons d cs ih =>
    rw [List.forall_mem_cons] at h
    have hlt : digitValue d < 10 := by
      have hcode : 48 ≤ d.toNat ∧ d.toNat ≤ 57 := Char.isDigit_iff_toNat.mp h.1
      change d.toNat - 48 < 10
      omega
    have hd : (hexValue? d).filter (· < 10) = some (digitValue d) := by
      rw [hexValue?, if_pos h.1]
      simp [hlt]
    rw [List.mapM_cons, hd, ih h.2]
    rfl

lemma numeral?_digitsText (n : ℕ) : numeral? 10 (Number.digitsText n) = some n := by
  obtain ⟨d, ds, hds⟩ := List.exists_cons_of_ne_nil (Nat.toDigits_ne_nil (n := n) (b := 10))
  have hdigit : ∀ c ∈ Number.digitsText n, c.isDigit := fun c => isDigit_digitsText
  have hne : ∀ c : Char, c.isDigit → c ≠ '_' := by
    rintro c hc rfl
    exact absurd hc (by decide)
  have hstart : (Number.digitsText n).head?.all (· = '_') = false := by
    rw [Number.digitsText, hds] at hdigit ⊢
    simpa using hne d (hdigit d List.mem_cons_self)
  have hfilter : (Number.digitsText n).filter (· ≠ '_') = Number.digitsText n :=
    List.filter_eq_self.mpr fun c hc => decide_eq_true (hne c (hdigit c hc))
  rw [numeral?, hstart, if_neg Bool.false_ne_true, hfilter, mapM_digits hdigit]
  exact congrArg some (foldl_digitsText n)

lemma natural?_digitsText (n : ℕ) : natural? (Number.digitsText n) = some n := by
  have hdigit : ∀ c ∈ Number.digitsText n, c.isDigit := fun c => isDigit_digitsText
  unfold natural?
  split
  case h_4 => exact numeral?_digitsText n
  all_goals
    rename_i heq
    rw [heq] at hdigit
    exact absurd (hdigit _ (List.mem_cons_of_mem _ List.mem_cons_self)) (by decide)

lemma integer?_wholeText (n : ℤ) : integer? (Number.wholeText n) = some n := by
  unfold Number.wholeText
  split_ifs with hn
  · rw [integer?, natural?_digitsText, Option.map_some]
    congr 1
    omega
  · have hminus : ∀ cs, Number.digitsText n.natAbs ≠ '-' :: cs := by
      intro cs h
      have hc : '-' ∈ Number.digitsText n.natAbs := h ▸ List.mem_cons_self
      exact absurd (isDigit_digitsText hc) (by decide)
    unfold integer?
    split
    · rename_i cs heq
      exact absurd heq (hminus cs)
    · rw [natural?_digitsText, Option.map_some, Int.ofNat_eq_natCast]
      congr 1
      omega

lemma reads_whole (n : ℤ) : Reads (Number.whole n).text (.number (.whole n)) := by
  have hchars : (Number.whole n).text.toList = Number.wholeText n := String.toList_ofList
  have hword : ∀ d, d.isDigit → isWordChar d := fun d hd => by
    simp [isWordChar, Char.isAlphanum, hd]
  obtain ⟨d, ds, hwhole, hd⟩ := wholeText_eq_cons n
  refine reads_word ?_ ?_
  · rw [hchars, Number.wholeText]
    split_ifs
    · rw [List.forall_mem_cons]
      exact ⟨rfl, fun c hc => hword c (isDigit_digitsText hc)⟩
    · exact fun c hc => hword c (isDigit_digitsText hc)
  · -- no other word begins with a digit or a minus sign
    have hne : ∀ e es, e ≠ '-' → e.isDigit = false → Number.wholeText n ≠ e :: es := by
      rintro e es hminus hdigit heq
      rw [hwhole, List.cons.injEq] at heq
      obtain ⟨rfl, -⟩ := heq
      rw [hdigit] at hd
      exact hd.elim hminus Bool.false_ne_true
    rw [hchars, wordValue?, if_neg (hne 'n' _ (by decide) rfl),
      if_neg (hne 't' _ (by decide) rfl), if_neg (hne 'f' _ (by decide) rfl), integer?_wholeText]
    rfl

lemma found_isPrefix_of_run {r r' : CodeReader} (h : cs.foldlM CodeReader.step r = some r') :
    r.found <+: r'.found := by
  induction cs generalizing r with
  | nil =>
    obtain rfl := Option.some.inj h
    exact List.prefix_rfl
  | cons c cs ih =>
    rw [List.foldlM_cons] at h
    obtain ⟨next, hnext, hrest⟩ := Option.bind_eq_some_iff.mp h
    refine List.IsPrefix.trans ?_ (ih hrest)
    obtain ⟨hfound, -⟩ | ⟨-, hfound⟩ := CodeReader.found_of_step hnext
    · exact hfound ▸ List.prefix_rfl
    · exact hfound ▸ List.prefix_append _ _

/-- As long as no string has ended the reader goes on with the same one. -/
lemma run_text {r r' : CodeReader} (h : cs.foldlM CodeReader.step r = some r')
    (hfound : r'.found = []) :
    cs.foldlM step ⟨arrays, .text r⟩ = some ⟨arrays, .text r'⟩ := by
  induction cs generalizing r with
  | nil =>
    obtain rfl := Option.some.inj h
    rfl
  | cons c cs ih =>
    rw [List.foldlM_cons] at h ⊢
    obtain ⟨next, hnext, hrest⟩ := Option.bind_eq_some_iff.mp h
    have hnone : next.found = [] := List.prefix_nil.mp (hfound ▸ found_isPrefix_of_run hrest)
    have hstep : step ⟨arrays, .text r⟩ c = some ⟨arrays, .text next⟩ := by
      rw [step, hnext, Option.map_some, ofText, hnone]
    rw [hstep]
    exact ih hrest

lemma reads_string {body text : String}
    (h : body.toList.foldlM CodeReader.step ⟨[], .inside []⟩ = some ⟨[], .inside text.toList⟩) :
    Reads ("\"" ++ body ++ "\"") (.string text) := by
  intro arrays
  have hcode : ("\"" ++ body ++ "\"").toList = '"' :: (body.toList ++ ['"']) := by
    simp [String.toList_append]
  have hopen : step ⟨arrays, .before⟩ '"' = some ⟨arrays, .text ⟨[], .inside []⟩⟩ := rfl
  have hclose : step ⟨arrays, .text ⟨[], .inside text.toList⟩⟩ '"' =
      some ⟨arrays, .after (.string (String.ofList text.toList))⟩ := rfl
  refine ⟨.after (.string (String.ofList text.toList)), ?_, by rw [String.ofList_toList]; rfl⟩
  rw [hcode, List.foldlM_cons, hopen]
  change (body.toList ++ ['"']).foldlM step ⟨arrays, .text ⟨[], .inside []⟩⟩ = _
  rw [List.foldlM_append, run_text h rfl]
  exact hclose

lemma run_items {items : List String} {values : List Json}
    (h : List.Forall₂ Reads items values) (done : List Json) :
    ((String.intercalate ", " items).toList ++ [']']).foldlM step ⟨done :: arrays, .before⟩ =
      some ⟨arrays, .after (.array (done ++ values))⟩ := by
  induction h generalizing done with
  | nil =>
    rw [List.append_nil]
    rfl
  | @cons item value items values hitem hitems ih =>
    obtain ⟨place, hrun, hvalue⟩ := hitem (done :: arrays)
    cases hitems with
    | nil =>
      have hend : step ⟨done :: arrays, place⟩ ']' =
          some ⟨arrays, .after (.array (done ++ [value]))⟩ := step_of_value? hvalue rfl
      rw [String.intercalate_singleton, List.foldlM_append, hrun]
      change List.foldlM step ⟨done :: arrays, place⟩ [']'] = _
      rw [List.foldlM_cons, hend]
      rfl
    | @cons next _ rest _ _ _ =>
      have hnext : step ⟨done :: arrays, place⟩ ',' =
          some ⟨(done ++ [value]) :: arrays, .before⟩ := step_of_value? hvalue rfl
      have hcode : (String.intercalate ", " (item :: next :: rest)).toList ++ [']'] =
          item.toList ++
            ',' :: ' ' :: ((String.intercalate ", " (next :: rest)).toList ++ [']']) := by
        simp [String.intercalate_cons_cons]
      rw [hcode, List.foldlM_append, hrun]
      change List.foldlM step ⟨done :: arrays, place⟩ (',' :: _) = _
      rw [List.foldlM_cons, hnext]
      refine (ih (done ++ [value])).trans ?_
      rw [List.append_assoc]
      rfl

theorem reads_array {items : List String} {values : List Json}
    (h : List.Forall₂ Reads items values) :
    Reads ("[" ++ String.intercalate ", " items ++ "]") (.array values) := by
  intro arrays
  have hcode : ("[" ++ String.intercalate ", " items ++ "]").toList =
      '[' :: ((String.intercalate ", " items).toList ++ [']']) := by
    simp [String.toList_append]
  have hopen : step ⟨arrays, .before⟩ '[' = some ⟨[] :: arrays, .before⟩ := rfl
  refine ⟨.after (.array values), ?_, rfl⟩
  rw [hcode, List.foldlM_cons, hopen]
  exact run_items h []

end ValueReader

end SwiftClient
