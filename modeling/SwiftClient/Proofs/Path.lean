import Mathlib.Data.List.Nodup
import SwiftClient.Path

/-!
# Places below a directory

A relative path that is joined to a directory stands after it. Unless it leads back somewhere, the
place of the whole goes on from the place of the directory, name by name.
-/
namespace SwiftClient.Path

lemma segments_ne_nil (cs : List Char) : segments cs ≠ [] := by
  fun_cases segments cs <;> simp_all

lemma segments_cons {c : Char} (hc : c ≠ '/') (cs : List Char) :
    ∃ s ss, segments cs = s :: ss ∧ segments (c :: cs) = (c :: s) :: ss := by
  obtain ⟨s, ss, h⟩ := List.exists_cons_of_ne_nil (segments_ne_nil cs)
  refine ⟨s, ss, h, ?_⟩
  rw [segments, h]
  simp [hc]

lemma segments_append (a b : List Char) : segments (a ++ '/' :: b) = segments a ++ segments b := by
  induction a with
  | nil => rfl
  | cons c a ih =>
    by_cases hc : c = '/'
    · subst hc
      simp only [List.cons_append, segments, ih]
    · obtain ⟨s, ss, ha, hca⟩ := segments_cons hc a
      obtain ⟨t, ts, hab, hcab⟩ := segments_cons hc (a ++ '/' :: b)
      rw [ih, ha, List.cons_append] at hab
      obtain ⟨rfl, rfl⟩ := List.cons.inj hab
      rw [List.cons_append, hcab, hca, List.cons_append]

lemma segments_eq_singleton {cs : List Char} (h : '/' ∉ cs) : segments cs = [cs] := by
  induction cs with
  | nil => rfl
  | cons c cs ih =>
    rw [List.mem_cons, not_or] at h
    obtain ⟨s, ss, hcs, hccs⟩ := segments_cons (Ne.symm h.1) cs
    rw [ih h.2] at hcs
    obtain ⟨rfl, rfl⟩ := List.cons.inj hcs
    exact hccs

variable {directory p q : String}

/-- What stands before a relative path when it is joined to a directory. -/
def below (directory : String) : String :=
  match directory.toList.getLast? with
  | none => ""
  | some '/' => directory
  | some _ => directory ++ "/"

lemma join_eq (hp : isAbsolute p = false) : join directory p = below directory ++ p := by
  unfold join below
  simp only [hp, Bool.false_eq_true, if_false]
  split <;> simp_all

lemma isAbsolute_of_not_mem (h : '/' ∉ p.toList) : isAbsolute p = false := by
  unfold isAbsolute
  cases hp : p.toList with
  | nil => rfl
  | cons c cs =>
    have hc : c ≠ '/' := by
      rintro rfl
      exact h (by simp [hp])
    simp [hc]

lemma isAbsolute_append (hp : p ≠ "") : isAbsolute (p ++ q) = isAbsolute p := by
  unfold isAbsolute
  rw [String.toList_append]
  cases h : p.toList with
  | nil => exact absurd (String.toList_inj.mp h) hp
  | cons c cs => rfl

lemma below_cases (directory : String) :
    (directory = "" ∧ below directory = "") ∨
      (∃ d, directory = d ++ "/" ∧ below directory = d ++ "/") ∨
      (directory ≠ "" ∧ below directory = directory ++ "/") := by
  unfold below
  cases h : directory.toList.getLast? with
  | none => exact Or.inl ⟨String.toList_inj.mp (List.getLast?_eq_none_iff.mp h), rfl⟩
  | some c =>
    obtain ⟨d, hd⟩ := List.getLast?_eq_some_iff.mp h
    have hofList : directory = String.ofList d ++ String.ofList [c] := by
      rw [← String.ofList_append, ← hd, String.ofList_toList]
    by_cases hc : c = '/'
    · subst hc
      exact Or.inr (Or.inl ⟨String.ofList d, hofList, hofList⟩)
    · refine Or.inr (Or.inr ⟨?_, by simp⟩)
      rintro rfl
      simp at h

lemma below_append (hp : p ≠ "") : below (directory ++ p) = directory ++ below p := by
  unfold below
  rw [String.toList_append, List.getLast?_append]
  cases h : p.toList.getLast? with
  | none => exact absurd (String.toList_inj.mp (List.getLast?_eq_none_iff.mp h)) hp
  | some c =>
    rw [Option.some_or]
    split
    · contradiction
    · rfl
    · rw [String.append_assoc]

lemma below_below (directory : String) : below (below directory) = below directory := by
  have hslash : below "/" = "/" := rfl
  rcases below_cases directory with ⟨-, h⟩ | ⟨d, -, h⟩ | ⟨-, h⟩
  · rw [h]
    rfl
  · rw [h, below_append (by simp), hslash]
  · rw [h, below_append (by simp), hslash]

/-- What is joined to a directory is a directory below it. -/
lemma below_join (hp : isAbsolute p = false) :
    below (join directory p) = below directory ++ below p := by
  rw [join_eq hp]
  by_cases hne : p = ""
  · have hempty : below "" = "" := rfl
    rw [hne, hempty, String.append_empty, below_below]
  · rw [below_append hne]

lemma below_of_not_mem (hp : '/' ∉ p.toList) (hne : p ≠ "") : below p = p ++ "/" := by
  rcases below_cases p with ⟨h, -⟩ | ⟨d, rfl, -⟩ | ⟨-, h⟩
  · exact absurd h hne
  · simp at hp
  · exact h

/-- The place that a path leads to from a place, both given last name first. -/
def placeFrom (start : List String) (path : String) : List String :=
  ((segments path.toList).map String.ofList).foldl step start

lemma place_eq (path : String) :
    place path = (placeFrom (if isAbsolute path then ["/"] else []) path).reverse := rfl

lemma placeFrom_append (start : List String) (directory p : String) :
    placeFrom start (directory ++ "/" ++ p) = placeFrom (placeFrom start directory) p := by
  have hslash : (directory ++ "/" ++ p).toList = directory.toList ++ '/' :: p.toList := by
    simp
  unfold placeFrom
  rw [hslash, segments_append, List.map_append, List.foldl_append]

lemma placeFrom_slash (start : List String) (directory : String) :
    placeFrom start (directory ++ "/") = placeFrom start directory := by
  have h := placeFrom_append start directory ""
  rw [String.append_empty] at h
  exact h

theorem place_join (hp : isAbsolute p = false) :
    place (join directory p) = (placeFrom (place directory).reverse p).reverse := by
  rw [join_eq hp, place_eq, place_eq directory, List.reverse_reverse]
  rcases below_cases directory with ⟨rfl, hbelow⟩ | ⟨d, rfl, hbelow⟩ | ⟨hne, hbelow⟩
  · rw [hbelow, String.empty_append, hp]
    rfl
  · have hslash : d ++ "/" ≠ "" := by simp
    rw [hbelow, isAbsolute_append hslash, placeFrom_append, placeFrom_slash]
  · rw [hbelow, String.append_assoc, isAbsolute_append hne, ← String.append_assoc,
      placeFrom_append]

/-- A segment that is a name, and not a way to stay or to go back. -/
def IsName (segment : String) : Prop := segment ≠ "" ∧ segment ≠ "." ∧ segment ≠ ".."

lemma isName_append (h : 2 < q.length) : IsName (p ++ q) := by
  have hlength : 2 < (p ++ q).length := by
    rw [String.length_append]
    omega
  refine ⟨?_, ?_, ?_⟩ <;> intro heq <;> rw [heq] at hlength <;> exact absurd hlength (by decide)

/-- The names of a path, without its empty segments and points. -/
def names (path : String) : List String :=
  ((segments path.toList).map String.ofList).filter fun s => s ≠ "" ∧ s ≠ "."

/-- No segment leads back. -/
def IsDescending (path : String) : Prop := ".." ∉ (segments path.toList).map String.ofList

lemma foldl_step {segments : List String} (h : ".." ∉ segments) (start : List String) :
    segments.foldl step start = (segments.filter fun s => s ≠ "" ∧ s ≠ ".").reverse ++ start := by
  induction segments generalizing start with
  | nil => rfl
  | cons s segments ih =>
    rw [List.mem_cons, not_or] at h
    obtain ⟨hpoints, hrest⟩ := h
    rw [List.foldl_cons, ih hrest]
    by_cases hidle : s = "" ∨ s = "."
    · have hstep : step start s = start := if_pos hidle
      have hdrop : ¬(s ≠ "" ∧ s ≠ ".") := by tauto
      rw [hstep, List.filter_cons_of_neg (by simpa using hdrop)]
    · have hstep : step start s = s :: start := by
        rw [step, if_neg hidle, if_neg (Ne.symm hpoints)]
      have hkeep : s ≠ "" ∧ s ≠ "." := by tauto
      rw [hstep, List.filter_cons_of_pos (by simpa using hkeep), List.reverse_cons,
        List.append_assoc, List.singleton_append]

/-- The names of a relative path follow those of the directory. -/
theorem place_join_names (hp : isAbsolute p = false) (h : IsDescending p) :
    place (join directory p) = place directory ++ names p := by
  rw [place_join hp, placeFrom, foldl_step h, List.reverse_append, List.reverse_reverse,
    List.reverse_reverse]
  rfl

lemma segments_name (hp : '/' ∉ p.toList) : (segments p.toList).map String.ofList = [p] := by
  rw [segments_eq_singleton hp]
  simp

lemma names_name (hp : '/' ∉ p.toList) (h : IsName p) : names p = [p] := by
  unfold names
  rw [segments_name hp, List.filter_cons_of_pos (by simpa using ⟨h.1, h.2.1⟩), List.filter_nil]

lemma place_join_name (hp : '/' ∉ p.toList) (h : IsName p) :
    place (join directory p) = place directory ++ [p] := by
  have hdescending : IsDescending p := by
    rw [IsDescending, segments_name hp, List.mem_singleton]
    exact Ne.symm h.2.2
  rw [place_join_names (isAbsolute_of_not_mem hp) hdescending, names_name hp h]

end SwiftClient.Path
