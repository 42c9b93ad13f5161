import Mathlib.Data.List.Induction
import Mathlib.Data.List.Lex
import Mathlib.Data.String.Basic
import SwiftClient.FileTree
import SwiftClient.Proofs.Outcome
import SwiftClient.Proofs.Sorted

/-!
# Changes of file trees

A change in a directory that is there succeeds unless something of the other kind is in its way.
Directories stay where they are, so two changes lead to the same tree in either order, or to a
failure in either order, if they do not write the same file.
-/
namespace SwiftClient

def FileNode.isDirectory : FileNode → Bool
  | directory => true
  | file _ => false

namespace FileChange

def place : FileChange → List String
  | directory place => place
  | file place _ => place

def node : FileChange → FileNode
  | directory _ => .directory
  | file _ content => .file content

end FileChange

namespace FileTree

variable {t t' : FileTree} {c c' : FileChange} {p q : List String} {node node' : FileNode}

@[simp] lemma get?_nil : t.get? [] = some .directory := rfl

lemma get?_of_ne_nil (hp : p ≠ []) : t.get? p = t.nodes.lookup p := by
  cases p with
  | nil => contradiction
  | cons => rfl

lemma get?_put (hp : p ≠ []) : (t.put p node).get? q = if q = p then some node else t.get? q := by
  by_cases hq : q = []
  · subst hq
    rw [if_neg (Ne.symm hp), get?_nil, get?_nil]
  · rw [get?_of_ne_nil hq, get?_of_ne_nil hq]
    exact Sorted.lookup_put p node t.nodes q

lemma get?_cases (t : FileTree) (p : List String) :
    t.get? p = none ∨ t.get? p = some .directory ∨ ∃ content, t.get? p = some (.file content) := by
  rcases t.get? p with _ | _ | content
  · exact Or.inl rfl
  · exact Or.inr (Or.inl rfl)
  · exact Or.inr (Or.inr ⟨content, rfl⟩)

lemma put_comm (h : p ≠ q) : (t.put p node).put q node' = (t.put q node').put p node := by
  simp only [put]
  rw [Sorted.put_comm h.symm]

lemma put_put : (t.put p node).put p node' = t.put p node' := by
  simp only [put]
  rw [Sorted.put_put _ _ _ _ (lt_irrefl p)]

/-- The content of a file, none if something else stands there. -/
def content? (t : FileTree) (p : List String) : Option String :=
  match t.get? p with
  | some (.file content) => some content
  | _ => none

def clashes (t : FileTree) (c : FileChange) : Bool :=
  (t.get? c.place).any fun node => node.isDirectory != c.node.isDirectory

def perform (t : FileTree) (c : FileChange) : FileTree :=
  if t.get? c.place = some .directory then t else t.put c.place c.node

theorem change_of_parent (h : t.get? c.place.dropLast = some .directory) :
    t.change c = if t.clashes c then .error .unavailable else .ok (t.perform c) := by
  unfold change clashes perform
  cases c with
  | directory p =>
    simp only [FileChange.place] at h ⊢
    rcases t.get?_cases p with hp | hp | ⟨content, hp⟩ <;>
      simp [h, hp, FileNode.isDirectory, FileChange.node]
  | file p content =>
    simp only [FileChange.place] at h ⊢
    rcases t.get?_cases p with hp | hp | ⟨content, hp⟩ <;>
      simp [h, hp, FileNode.isDirectory, FileChange.node]

lemma of_change_eq_ok (h : t.change c = .ok t') : t.clashes c = false ∧ t' = t.perform c := by
  by_cases hparent : t.get? c.place.dropLast = some .directory
  · rw [change_of_parent hparent] at h
    split_ifs at h with hclash
    cases h
    exact ⟨by simpa using hclash, rfl⟩
  · -- without its parent, only a directory that is there already can be made
    unfold change at h
    unfold clashes perform
    cases c with
    | directory p =>
      simp only [FileChange.place] at h hparent ⊢
      split at h <;> simp_all [FileNode.isDirectory, FileChange.node]
    | file p content =>
      simp only [FileChange.place] at h hparent ⊢
      split at h <;> simp_all

lemma get?_perform (h : t.clashes c = false) :
    (t.perform c).get? q = if q = c.place then some c.node else t.get? q := by
  unfold perform
  by_cases hdirectory : t.get? c.place = some .directory
  · have hnode : c.node = .directory := by
      cases c with
      | directory => rfl
      | file => simp [clashes, hdirectory, FileNode.isDirectory, FileChange.node] at h
    rw [if_pos hdirectory]
    by_cases hq : q = c.place
    · rw [if_pos hq, hq, hdirectory, hnode]
    · rw [if_neg hq]
  · have hroot : c.place ≠ [] := by
      intro heq
      rw [heq] at hdirectory
      exact hdirectory rfl
    rw [if_neg hdirectory, get?_put hroot]

lemma get?_perform_directory (h : t.clashes c = false) (hq : t.get? q = some .directory) :
    (t.perform c).get? q = some .directory := by
  rw [get?_perform h]
  by_cases heq : q = c.place
  · subst heq
    cases c with
    | directory => rw [if_pos rfl]; rfl
    | file => simp [clashes, hq, FileNode.isDirectory, FileChange.node] at h
  · rw [if_neg heq, hq]

lemma get?_change_directory (h : t.change c = .ok t') (hq : t.get? q = some .directory) :
    t'.get? q = some .directory := by
  obtain ⟨hclash, rfl⟩ := of_change_eq_ok h
  exact get?_perform_directory hclash hq

lemma get?_change_place (h : t.change c = .ok t') : t'.get? c.place = some c.node := by
  obtain ⟨hclash, rfl⟩ := of_change_eq_ok h
  rw [get?_perform hclash, if_pos rfl]

lemma content?_change (h : t.change c = .ok t') (q : List String) :
    t'.content? q = match c with
      | .directory _ => t.content? q
      | .file p content => if q = p then some content else t.content? q := by
  obtain ⟨hclash, rfl⟩ := of_change_eq_ok h
  unfold content?
  by_cases hq : q = c.place
  · rw [get?_perform hclash, if_pos hq]
    cases c with
    | directory p =>
      -- no file stood where a directory can be made
      rcases t.get?_cases q with hget | hget | ⟨content, hget⟩
      · rw [hget]; rfl
      · rw [hget]; rfl
      · rw [hq] at hget
        simp [clashes, hget, FileNode.isDirectory, FileChange.node] at hclash
    | file p content => exact (if_pos hq).symm
  · rw [get?_perform hclash, if_neg hq]
    cases c with
    | directory p => rfl
    | file p content => exact (if_neg hq).symm

lemma clashes_perform (h : t.clashes c = false) : (t.perform c).clashes c' =
    if c'.place = c.place then c.node.isDirectory != c'.node.isDirectory else t.clashes c' := by
  unfold clashes
  rw [get?_perform h]
  split_ifs <;> simp

lemma perform_comm (hne : c.place ≠ c'.place) (h : t.clashes c = false)
    (h' : t.clashes c' = false) : (t.perform c).perform c' = (t.perform c').perform c := by
  rw [perform, get?_perform h, if_neg hne.symm, perform.eq_def (t.perform c'), get?_perform h',
    if_neg hne]
  unfold perform
  by_cases hc : t.get? c.place = some .directory <;>
    by_cases hc' : t.get? c'.place = some .directory
  · simp only [hc, hc', if_true]
  · simp only [hc, hc', if_true, if_false]
  · simp only [hc, hc', if_true, if_false]
  · simp only [hc, hc', if_false]
    exact put_comm hne

lemma clashes_perform_of_clashes (h : t.clashes c = false) (h' : t.clashes c' = true) :
    (t.perform c).clashes c' = true := by
  rw [clashes_perform h]
  by_cases hplace : c'.place = c.place
  · rw [if_pos hplace]
    unfold clashes at h h'
    rw [hplace] at h'
    cases hget : t.get? c.place with
    | none => simp [hget] at h'
    | some node =>
      simp only [hget, Option.any_some, bne_eq_false_iff_eq] at h h'
      rw [← h, h']
  · rw [if_neg hplace, h']

/-- Two changes can be made in either order, unless both write one file. -/
theorem change_change (hparent : t.get? c.place.dropLast = some .directory)
    (hparent' : t.get? c'.place.dropLast = some .directory)
    (hfile : c.place = c'.place → c.node.isDirectory ∨ c'.node.isDirectory) :
    (t.change c >>= fun t' => t'.change c') = t.change c' >>= fun t' => t'.change c := by
  have hthen : ∀ {a b : FileChange}, t.get? b.place.dropLast = some .directory →
      t.clashes a = false → (t.perform a).change b =
        if (t.perform a).clashes b then .error .unavailable
        else .ok ((t.perform a).perform b) := by
    intro a b hb ha
    exact change_of_parent (get?_perform_directory ha hb)
  rw [change_of_parent hparent, change_of_parent hparent']
  cases hc : t.clashes c <;> cases hc' : t.clashes c' <;>
    simp only [Bool.false_eq_true, if_true, if_false, bind, Except.bind]
  · rw [hthen hparent' hc, hthen hparent hc', clashes_perform hc, clashes_perform hc']
    by_cases hplace : c.place = c'.place
    · rw [if_pos hplace, if_pos hplace.symm, bne_comm]
      rcases hkind : (c'.node.isDirectory != c.node.isDirectory) with _ | _
      · -- both make the same directory
        have hsame : c = c' := by
          rw [bne_eq_false_iff_eq] at hkind
          cases c <;> cases c' <;>
            simp_all [FileChange.place, FileChange.node, FileNode.isDirectory]
        rw [hsame]
      · rfl
    · rw [if_neg hplace, if_neg (Ne.symm hplace), hc, hc', perform_comm hplace hc hc']
  · rw [hthen hparent' hc, if_pos (clashes_perform_of_clashes hc hc')]
  · rw [hthen hparent hc', if_pos (clashes_perform_of_clashes hc' hc)]

/-- Each of the changes finds its parent in the tree, or after the changes before it. -/
def Ready (t : FileTree) (changes : List FileChange) : Prop :=
  ∀ before c after, changes = before ++ c :: after →
    t.get? c.place.dropLast = some .directory ∨ .directory c.place.dropLast ∈ before

namespace Ready

variable {changes : List FileChange}

lemma nil : t.Ready [] := by
  intro before c after heq
  exact absurd heq (by simp)

lemma mono (h : t.Ready changes)
    (hkept : ∀ q, t.get? q = some .directory → t'.get? q = some .directory) :
    t'.Ready changes := by
  intro before c after heq
  exact (h before c after heq).imp_left (hkept _)

lemma head (h : t.Ready (c :: changes)) : t.get? c.place.dropLast = some .directory := by
  rcases h [] c changes rfl with hparent | hbefore
  · exact hparent
  · exact absurd hbefore List.not_mem_nil

lemma tail (h : t.Ready (c :: changes)) (hc : t.change c = .ok t') : t'.Ready changes := by
  intro before c' after heq
  rcases h (c :: before) c' after (by rw [heq, List.cons_append]) with hparent | hbefore
  · exact Or.inl (get?_change_directory hc hparent)
  · rcases List.mem_cons.mp hbefore with rfl | hbefore
    · exact Or.inl (get?_change_place hc)
    · exact Or.inr hbefore

lemma concat (h : t.Ready changes)
    (hc : t.get? c.place.dropLast = some .directory ∨ .directory c.place.dropLast ∈ changes) :
    t.Ready (changes ++ [c]) := by
  intro before c' after heq
  rcases List.eq_nil_or_concat after with rfl | ⟨after', last, rfl⟩
  · obtain ⟨rfl, hlast⟩ := List.append_inj' heq rfl
    obtain ⟨rfl, -⟩ := List.cons.inj hlast
    exact hc
  · rw [List.concat_eq_append, ← List.cons_append, ← List.append_assoc] at heq
    exact h before c' after' (List.append_inj_left' heq rfl)

end Ready

/-- The place above a place is the root or comes before it. -/
lemma parent_of_placesAbove {before after : List (List String)}
    (h : placesAbove p ++ [p] = before ++ q :: after) : q.dropLast = [] ∨ q.dropLast ∈ before := by
  have hsingle : ∀ {before after : List (List String)} {q r : List String},
      [r] = before ++ q :: after → q = r := by
    intro before after q r heq
    have hq : q ∈ [r] := heq ▸ List.mem_append_right _ List.mem_cons_self
    exact List.mem_singleton.mp hq
  induction p using placesAbove.induct generalizing before q after with
  | case1 => rw [hsingle h]; exact Or.inl rfl
  | case2 name => rw [hsingle h]; exact Or.inl rfl
  | case3 name next rest ih =>
    rw [placesAbove, List.cons_append] at h
    rcases List.cons_eq_append_iff.mp h with ⟨rfl, hq⟩ | ⟨before', rfl, hbefore⟩
    · obtain ⟨rfl, -⟩ := List.cons.inj hq
      exact Or.inl rfl
    · have hmap : (placesAbove (next :: rest) ++ [next :: rest]).map (name :: ·) =
          before' ++ q :: after := by
        rw [List.map_append]
        exact hbefore
      obtain ⟨front, back, heq, rfl, hback⟩ := List.map_eq_append_iff.mp hmap
      obtain ⟨r, back', rfl, rfl, -⟩ := List.map_eq_cons_iff.mp hback
      -- what is above the place without its first name is so with that name before it
      cases r with
      | nil => exact Or.inl rfl
      | cons n r =>
        right
        rw [List.dropLast_cons_cons, List.mem_cons]
        rcases ih heq with hroot | hfront
        · rw [hroot]
          exact Or.inl rfl
        · exact Or.inr (List.mem_map_of_mem hfront)

/-- The directories above a place, and then what goes there. -/
lemma ready_placesAbove {changes : List FileChange} (h : ∀ c ∈ changes, c.place = p) :
    t.Ready ((placesAbove p).map .directory ++ changes) := by
  induction changes using List.reverseRecOn with
  | nil =>
    rw [List.append_nil]
    intro before c after heq
    obtain ⟨front, back, hplaces, rfl, hback⟩ := List.map_eq_append_iff.mp heq
    obtain ⟨q, back', rfl, rfl, -⟩ := List.map_eq_cons_iff.mp hback
    have hsplit : placesAbove p ++ [p] = front ++ q :: (back' ++ [p]) := by
      rw [hplaces]
      simp
    rcases parent_of_placesAbove hsplit with hroot | hfront
    · rw [FileChange.place, hroot]
      exact Or.inl rfl
    · exact Or.inr (List.mem_map_of_mem hfront)
  | append_singleton changes c ih =>
    have hlast : c.place = p := h c (List.mem_append_right _ (List.mem_singleton_self c))
    rw [← List.append_assoc]
    refine (ih fun c' hc' => h c' (List.mem_append_left _ hc')).concat ?_
    rw [hlast]
    have hsplit : placesAbove p ++ [p] = placesAbove p ++ p :: [] := rfl
    rcases parent_of_placesAbove hsplit with hroot | habove
    · rw [hroot]
      exact Or.inl rfl
    · exact Or.inr (List.mem_append_left _ (List.mem_map_of_mem habove))

lemma changeAll_append (changes changes' : List FileChange) :
    t.changeAll (changes ++ changes') = t.changeAll changes >>= fun t' => t'.changeAll changes' :=
  List.foldlM_append

lemma change_file (p : List String) (content : String) :
    t.change (.file p content) =
      if t.get? p ≠ some .directory ∧ t.get? p.dropLast = some .directory then
        .ok (t.put p (.file content))
      else .error .unavailable := by
  unfold change
  rcases t.get?_cases p with hp | hp | ⟨content', hp⟩ <;>
    rcases t.get?_cases p.dropLast with hq | hq | ⟨content'', hq⟩ <;> simp [hp, hq]

lemma change_file_change_file (p : List String) (first content : String) :
    (t.change (.file p first) >>= fun t' => t'.change (.file p content)) =
      t.change (.file p content) := by
  rw [change_file p first, change_file p content]
  by_cases hfree : t.get? p ≠ some .directory ∧ t.get? p.dropLast = some .directory
  · have hp : p ≠ [] := by
      rintro rfl
      exact hfree.1 rfl
    have hdropLast : p.dropLast ≠ p := by
      intro heq
      have hlength := congrArg List.length heq
      have hpos := List.length_pos_of_ne_nil hp
      rw [List.length_dropLast] at hlength
      omega
    have hfree' : (t.put p (.file first)).get? p ≠ some .directory ∧
        (t.put p (.file first)).get? p.dropLast = some .directory := by
      rw [get?_put hp, get?_put hp, if_pos rfl, if_neg hdropLast]
      exact ⟨by simp, hfree.2⟩
    rw [if_pos hfree, if_pos hfree]
    change (t.put p (.file first)).change (.file p content) = _
    rw [change_file, if_pos hfree', put_put]
  · rw [if_neg hfree, if_neg hfree]
    rfl

lemma content?_makeAll {places : List (List String)}
    (h : t.changeAll (places.map .directory) = .ok t') (q : List String) :
    t'.content? q = t.content? q := by
  induction places generalizing t with
  | nil =>
    cases h
    rfl
  | cons p places ih =>
    obtain ⟨t₁, hp, hrest⟩ := Outcome.bind_eq_ok.mp h
    rw [ih hrest, content?_change hp]

lemma content?_write {path content : String} (h : t.write path content = .ok t')
    (q : List String) :
    t'.content? q = if q = Path.place path then some content else t.content? q := by
  rw [write, FileChange.ofFile, changeAll_append] at h
  obtain ⟨t₁, hdirectories, hfile⟩ := Outcome.bind_eq_ok.mp h
  obtain ⟨t₂, hfile, hlast⟩ := Outcome.bind_eq_ok.mp hfile
  cases hlast
  rw [content?_change hfile, content?_makeAll hdirectories]

end FileTree

end SwiftClient
