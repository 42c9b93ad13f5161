import Mathlib.Data.List.Forall2
import Mathlib.Data.List.TakeWhile
import SwiftClient.Generator.Basic
import SwiftClient.Proofs.Path

/-!
# Patterns of files

A pattern is a path in which a star stands for any characters but slashes. It covers a path if it
does name by name, so slashes and points that lead nowhere do not count.
-/
namespace SwiftClient.Path

variable {p q directory : String}

/-- A text that is the pattern but for its stars. -/
inductive Matches : List Char → List Char → Prop
  | nil : Matches [] []
  | star (run : List Char) {pattern text : List Char} :
      '/' ∉ run → Matches pattern text → Matches ('*' :: pattern) (run ++ text)
  | char (c : Char) {pattern text : List Char} :
      Matches pattern text → Matches (c :: pattern) (c :: text)

namespace Matches

variable {pattern pattern' text text' : List Char}

lemma refl (text : List Char) : Matches text text := by
  induction text with
  | nil => exact .nil
  | cons c text ih => exact .char c ih

lemma append (h : Matches pattern text) (h' : Matches pattern' text') :
    Matches (pattern ++ pattern') (text ++ text') := by
  induction h with
  | nil => exact h'
  | star run hrun _ ih =>
    rw [List.append_assoc]
    exact .star run hrun ih
  | char c _ ih => exact .char c ih

lemma any {run : List Char} (h : '/' ∉ run) : Matches ['*'] run := by
  have hstar := Matches.star run h .nil
  rwa [List.append_nil] at hstar

lemma head?_eq {c : Char} (h : Matches pattern text) (hc : c ≠ '*')
    (hpattern : pattern.head? = some c) : text.head? = some c := by
  cases h with
  | nil => cases hpattern
  | star => exact absurd (Option.some.inj hpattern).symm hc
  | char => exact hpattern

end Matches

/-- Each name of the pattern stands for the name at its place in the path. -/
def Covers (pattern path : String) : Prop :=
  List.Forall₂ (fun p n : String => Matches p.toList n.toList) (names pattern) (names path)

lemma names_append (p q : String) : names (p ++ "/" ++ q) = names p ++ names q := by
  have hslash : (p ++ "/" ++ q).toList = p.toList ++ '/' :: q.toList := by
    simp
  unfold names
  rw [hslash, segments_append, List.map_append, List.filter_append]

lemma names_slash (p : String) : names (p ++ "/") = names p := by
  have h := names_append p ""
  have hempty : names "" = [] := by decide
  rwa [String.append_empty, hempty, List.append_nil] at h

lemma names_join (hq : isAbsolute q = false) : names (join p q) = names p ++ names q := by
  have hempty : names "" = [] := by decide
  rw [join_eq hq]
  rcases below_cases p with ⟨rfl, hbelow⟩ | ⟨d, rfl, hbelow⟩ | ⟨-, hbelow⟩
  · rw [hbelow, String.empty_append, hempty, List.nil_append]
  · rw [hbelow, names_append, names_slash]
  · rw [hbelow, names_append]

lemma isAbsolute_join (hp : isAbsolute p = false) (hq : isAbsolute q = false) :
    isAbsolute (join p q) = false := by
  rw [join_eq hq]
  rcases below_cases p with ⟨rfl, hbelow⟩ | ⟨d, rfl, hbelow⟩ | ⟨hne, hbelow⟩
  · rw [hbelow, String.empty_append, hq]
  · rw [hbelow, isAbsolute_append (by simp), hp]
  · rw [hbelow, String.append_assoc, isAbsolute_append hne, hp]

lemma join_join (hp : isAbsolute p = false) (hq : isAbsolute q = false) :
    join (join directory p) q = join directory (join p q) := by
  rw [join_eq hq, below_join hp, join_eq (isAbsolute_join hp hq), join_eq hq, String.append_assoc]

lemma trimSlashes_toList (hp : isAbsolute p = false) :
    (trimSlashes p).toList = (p.toList.reverse.dropWhile (· == '/')).reverse := by
  have hstart : p.toList.dropWhile (· == '/') = p.toList := by
    unfold isAbsolute at hp
    cases h : p.toList with
    | nil => rfl
    | cons c cs =>
      rw [h] at hp
      exact List.dropWhile_cons_of_neg (by simpa using hp)
  rw [trimSlashes, String.toList_ofList, hstart]

lemma exists_trimSlashes (hp : isAbsolute p = false) :
    ∃ k, p.toList = (trimSlashes p).toList ++ List.replicate k '/' := by
  have hslashes : ∀ c ∈ p.toList.reverse.takeWhile (· == '/'), c = '/' := by
    intro c hc
    simpa using List.mem_takeWhile_imp hc
  refine ⟨(p.toList.reverse.takeWhile (· == '/')).length, ?_⟩
  have hsplit := List.takeWhile_append_dropWhile (p := (· == '/')) (l := p.toList.reverse)
  rw [trimSlashes_toList hp, ← List.reverse_inj, List.reverse_append, List.reverse_reverse,
    List.reverse_replicate, ← List.eq_replicate_of_mem hslashes]
  exact hsplit.symm

lemma names_trimSlashes (hp : isAbsolute p = false) : names (trimSlashes p) = names p := by
  obtain ⟨k, hk⟩ := exists_trimSlashes hp
  have hmore : ∀ k, names (String.ofList ((trimSlashes p).toList ++ List.replicate k '/')) =
      names (trimSlashes p) := by
    intro k
    induction k with
    | zero => rw [List.replicate_zero, List.append_nil, String.ofList_toList]
    | succ k ih =>
      have hlast : String.ofList ((trimSlashes p).toList ++ List.replicate (k + 1) '/') =
          String.ofList ((trimSlashes p).toList ++ List.replicate k '/') ++ "/" := by
        rw [List.replicate_succ', ← List.append_assoc, String.ofList_append]
      rw [hlast, names_slash, ih]
  rw [← hmore k, ← hk, String.ofList_toList]

lemma getLast?_trimSlashes (hp : isAbsolute p = false) :
    (trimSlashes p).toList.getLast? ≠ some '/' := by
  rw [trimSlashes_toList hp, List.getLast?_reverse]
  intro h
  have hfirst := List.head?_dropWhile_not (· == '/') p.toList.reverse
  rw [h] at hfirst
  exact absurd hfirst (by decide)

/-- Two slashes at the end would be one too many. -/
lemma below_eq_trimSlashes (hp : isAbsolute p = false) (hne : p ≠ "")
    (hslashes : ¬['/', '/'] <:+ p.toList) : below p = trimSlashes p ++ "/" := by
  have hlast := getLast?_trimSlashes hp
  obtain ⟨k, hk⟩ := exists_trimSlashes hp
  rcases k with _ | _ | k
  · have htrim : trimSlashes p = p := by
      rw [← String.toList_inj, hk]
      simp
    rw [htrim] at hlast ⊢
    rcases below_cases p with ⟨h, -⟩ | ⟨d, rfl, -⟩ | ⟨-, h⟩
    · exact absurd h hne
    · simp at hlast
    · exact h
  · have htrim : p = trimSlashes p ++ "/" := by
      rw [← String.toList_inj, hk]
      simp
    have hbelow : below (trimSlashes p ++ "/") = trimSlashes p ++ "/" := by
      rw [below_append (by simp)]
      rfl
    rw [← htrim] at hbelow
    rw [hbelow]
    exact htrim
  · refine absurd ?_ hslashes
    have htwo : List.replicate (k + 2) '/' = List.replicate k '/' ++ ['/', '/'] := by
      rw [List.replicate_add]
      rfl
    rw [hk, htwo, ← List.append_assoc]
    exact List.suffix_append _ _

end SwiftClient.Path
