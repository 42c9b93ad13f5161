import Mathlib.Algebra.GroupWithZero.Nat
import SwiftClient.Generator.Emission
import SwiftClient.Proofs.FileTree

/-!
# The order of emissions

Emissions whose files have different places do not get in each other's way: from any moment on, two
of them can do their next steps in either order. So all orders come to the same end, which is that
of filling the templates and writing the files one after another.
-/
namespace SwiftClient

open Relation

variable {l : TemplateLibrary} {t t' : FileTree}

namespace Emission

variable {a b e : Emission}

/-- What an emission can rely on while others go on. -/
structure Sound (t : FileTree) (e : Emission) : Prop where
  ready : ∀ changes, e.left = some changes → t.Ready changes
  /-- It writes no file but its own. -/
  own : ∀ changes, e.left = some changes → ∀ p content, .file p content ∈ changes →
    p = Path.place e.job.output

lemma ready_changes (j : Job) (text : String) : t.Ready (j.changes text) := by
  unfold Job.changes FileChange.ofFile
  rw [List.append_assoc]
  refine FileTree.ready_placesAbove fun c hc => ?_
  simp only [List.singleton_append, List.mem_cons, List.not_mem_nil, or_false] at hc
  rcases hc with rfl | rfl <;> rfl

lemma own_changes {j : Job} {text content : String} {p : List String}
    (h : .file p content ∈ j.changes text) : p = Path.place j.output := by
  unfold Job.changes FileChange.ofFile at h
  simp only [List.mem_append, List.mem_map, List.mem_singleton, FileChange.file.injEq] at h
  rcases h with (⟨q, -, hq⟩ | ⟨hp, -⟩) | ⟨hp, -⟩
  · cases hq
  · exact hp
  · exact hp

lemma sound_start (j : Job) : Sound t (start j) where
  ready changes h := by cases h
  own changes h := by cases h

/-- What the next step of an emission may be. -/
lemma act_cases (h : e.act l t = .ok t') :
    (∃ file, e.left = none ∧ e.job.render l = .ok file ∧ t' = t ∧
        e.rest l = { e with left := some (e.job.changes file.2) }) ∨
      (e.left = some [] ∧ t' = t ∧ e.rest l = { e with left := some [] }) ∨
      ∃ c changes, e.left = some (c :: changes) ∧ t.change c = .ok t' ∧
        e.rest l = { e with left := some changes } := by
  unfold act at h
  unfold rest
  cases hleft : e.left with
  | none =>
    rw [hleft] at h
    cases hrender : e.job.render l with
    | error failure =>
      rw [hrender] at h
      cases h
    | ok file =>
      rw [hrender] at h
      cases h
      exact Or.inl ⟨file, rfl, rfl, rfl, rfl⟩
  | some changes =>
    rw [hleft] at h
    cases changes with
    | nil =>
      cases h
      exact Or.inr (Or.inl ⟨rfl, rfl, rfl⟩)
    | cons c changes => exact Or.inr (Or.inr ⟨c, changes, rfl, h, rfl⟩)

lemma get?_act_directory {q : List String} (h : e.act l t = .ok t')
    (hq : t.get? q = some .directory) : t'.get? q = some .directory := by
  rcases act_cases h with ⟨_, -, -, rfl, -⟩ | ⟨-, rfl, -⟩ | ⟨c, _, -, hc, -⟩
  · exact hq
  · exact hq
  · exact FileTree.get?_change_directory hc hq

lemma Sound.other (hb : b.Sound t) (h : a.act l t = .ok t') : b.Sound t' :=
  ⟨fun changes hleft => (hb.ready changes hleft).mono fun _ => get?_act_directory h, hb.own⟩

lemma Sound.rest (he : e.Sound t) (h : e.act l t = .ok t') : (e.rest l).Sound t' := by
  rcases act_cases h with ⟨file, -, -, -, hrest⟩ | ⟨-, -, hrest⟩ | ⟨c, changes, hleft, hc, hrest⟩
  · rw [hrest]
    exact ⟨fun _ heq => by cases heq; exact ready_changes _ _,
      fun _ heq _ _ hmem => by cases heq; exact own_changes hmem⟩
  · rw [hrest]
    exact ⟨fun _ heq => by cases heq; exact .nil,
      fun _ heq _ _ hmem => by cases heq; exact absurd hmem List.not_mem_nil⟩
  · rw [hrest]
    exact ⟨fun _ heq => by cases heq; exact (he.ready _ hleft).tail hc,
      fun _ heq _ _ hmem => by cases heq; exact he.own _ hleft _ _ (List.mem_cons_of_mem c hmem)⟩

lemma job_rest : (e.rest l).job = e.job := by
  unfold rest
  split <;> rfl

/-- The number of steps that are left. -/
def size (e : Emission) : Nat :=
  match e.left with
  | none => (e.job.changes "").length + 1
  | some changes => changes.length

lemma size_pos (hleft : e.left ≠ some []) : 0 < e.size := by
  unfold size
  split
  · exact Nat.succ_pos _
  · rename_i changes heq
    exact List.length_pos_of_ne_nil fun hnil => hleft (hnil ▸ heq)

lemma size_rest (hleft : e.left ≠ some []) (h : e.act l t = .ok t') :
    (e.rest l).size < e.size := by
  rcases act_cases h with ⟨file, hnone, -, -, hrest⟩ | ⟨hdone, -, -⟩ | ⟨c, changes, hmore, -, hrest⟩
  · have hlength : (e.job.changes file.2).length = (e.job.changes "").length := by
      simp [Job.changes]
    simp only [hrest, size, hnone, hlength]
    omega
  · exact absurd hdone hleft
  · simp [hrest, size, hmore]

/-- What an emission does next does not depend on the files, except for changes. -/
lemma act_shape (l : TemplateLibrary) (e : Emission) :
    (∀ t, e.act l t = .ok t) ∨ (∃ failure, ∀ t, e.act l t = .error failure) ∨
      ∃ c changes, e.left = some (c :: changes) ∧ ∀ t, e.act l t = t.change c := by
  unfold act
  cases e.left with
  | none =>
    cases e.job.render l with
    | error failure => exact Or.inr (Or.inl ⟨failure, fun _ => rfl⟩)
    | ok file => exact Or.inl fun _ => rfl
  | some changes =>
    cases changes with
    | nil => exact Or.inl fun _ => rfl
    | cons c changes => exact Or.inr (Or.inr ⟨c, changes, rfl, fun _ => rfl⟩)

/-- A step that changes no file, or fails whatever there is, can be done before or after another. -/
lemma act_comm_of_constant {f g : FileTree → Except Failure FileTree}
    (hf : (∀ t, f t = .ok t) ∨ ∃ failure, ∀ t, f t = .error failure) (t : FileTree) :
    (f t >>= g).toOption = (g t >>= f).toOption := by
  rcases hf with hf | ⟨failure, hf⟩
  · have hg : (g t >>= f) = g t := by
      cases hgt : g t with
      | error => rfl
      | ok t' => exact hf t'
    rw [hf, hg]
    rfl
  · rw [hf]
    cases g t with
    | error => rfl
    | ok t' =>
      change _ = (f t').toOption
      rw [hf]
      rfl

/-- Two emissions of different files can do their next steps in either order. -/
theorem act_act (ha : a.Sound t) (hb : b.Sound t)
    (hne : Path.place a.job.output ≠ Path.place b.job.output) :
    (a.act l t >>= b.act l).toOption = (b.act l t >>= a.act l).toOption := by
  rcases a.act_shape l with hok | herror | ⟨c, changes, hleft, hact⟩
  · exact act_comm_of_constant (Or.inl hok) t
  · exact act_comm_of_constant (Or.inr herror) t
  rcases b.act_shape l with hok | herror | ⟨c', changes', hleft', hact'⟩
  · exact (act_comm_of_constant (Or.inl hok) t).symm
  · exact (act_comm_of_constant (Or.inr herror) t).symm
  have hfile : c.place = c'.place → c.node.isDirectory ∨ c'.node.isDirectory := by
    intro hplace
    cases c with
    | directory => exact Or.inl rfl
    | file p content =>
      cases c' with
      | directory => exact Or.inr rfl
      | file p' content' =>
        have hp := ha.own _ hleft p content List.mem_cons_self
        have hp' := hb.own _ hleft' p' content' List.mem_cons_self
        exact absurd (hp ▸ hp' ▸ hplace) hne
  have hcomm := FileTree.change_change (ha.ready _ hleft).head (hb.ready _ hleft').head hfile
  rw [hact, hact', funext hact, funext hact', hcomm]

end Emission

namespace Progress

variable {s s' : Progress} {emissions : List Emission} {e : Emission} {i j : Nat}

def Sound : Progress → Prop
  | running t emissions =>
    (emissions.map fun e => Path.place e.job.output).Nodup ∧ ∀ e ∈ emissions, e.Sound t
  | failed _ => True

lemma sound_start {jobs : List Job} (h : (jobs.map fun j => Path.place j.output).Nodup) :
    (start t jobs).Sound := by
  constructor
  · rw [List.map_map]
    exact h
  · intro e he
    obtain ⟨j, -, rfl⟩ := List.mem_map.mp he
    exact Emission.sound_start j

lemma step_iff : Step l s s' ↔ ∃ t emissions i e, s = running t emissions ∧ emissions[i]? = some e ∧
    e.left ≠ some [] ∧ s' = of (e.act l t) (emissions.set i (e.rest l)) := by
  constructor
  · rintro ⟨i, h⟩
    cases s with
    | failed => cases h
    | running t emissions =>
      simp only [next?, Option.bind_eq_bind, Option.bind_eq_some_iff] at h
      obtain ⟨e, he, h⟩ := h
      split_ifs at h with hdone
      exact ⟨t, emissions, i, e, rfl, he, hdone, (Option.some.inj h).symm⟩
  · rintro ⟨t, emissions, i, e, rfl, he, hdone, rfl⟩
    refine ⟨i, ?_⟩
    simp only [next?, he, Option.bind_eq_bind, Option.bind_some, if_neg hdone]

lemma map_set_rest {α : Type} (f : Job → α) (he : emissions[i]? = some e) :
    (emissions.set i (e.rest l)).map (fun e => f e.job) = emissions.map fun e => f e.job := by
  obtain ⟨hi, rfl⟩ := List.getElem?_eq_some_iff.mp he
  rw [List.map_set, Emission.job_rest]
  exact List.ext_getElem (by simp) fun k hk hk' => by
    rw [List.getElem_set]
    split_ifs with heq
    · subst heq
      simp
    · rfl

lemma Sound.step (hs : s.Sound) (h : Step l s s') : s'.Sound := by
  obtain ⟨t, emissions, i, e, rfl, he, -, rfl⟩ := step_iff.mp h
  obtain ⟨hplaces, hsound⟩ := hs
  have hmem : e ∈ emissions := List.mem_of_getElem? he
  cases hact : e.act l t with
  | error failure => exact trivial
  | ok t' =>
    constructor
    · rw [map_set_rest (fun j => Path.place j.output) he]
      exact hplaces
    · intro e' he'
      rcases List.mem_or_eq_of_mem_set he' with he' | rfl
      · exact (hsound e' he').other hact
      · exact (hsound e hmem).rest hact

/-- The same, up to which failure is reported. -/
def Agree (s s' : Progress) : Prop :=
  s = s' ∨ ∃ failure failure', s = failed failure ∧ s' = failed failure'

lemma agree_of {x y : Except Failure FileTree} (h : x.toOption = y.toOption) :
    (of x emissions).Agree (of y emissions) := by
  cases x with
  | error failure =>
    cases y with
    | error failure' => exact Or.inr ⟨failure, failure', rfl, rfl⟩
    | ok => cases h
  | ok t =>
    cases y with
    | error => cases h
    | ok t' =>
      cases h
      exact Or.inl rfl

lemma of_goesOn (x : Except Failure FileTree) (he : emissions[i]? = some e)
    (hleft : e.left ≠ some []) :
    ReflGen (Step l) (of x emissions) (of (x >>= e.act l) (emissions.set i (e.rest l))) := by
  cases x with
  | error failure => exact .refl
  | ok t => exact .single (step_iff.mpr ⟨t, emissions, i, e, rfl, he, hleft, rfl⟩)

/-- Two steps are the same or lead on to the same, each through the other. -/
theorem diamond {s₁ s₂ : Progress} (hs : s.Sound) (h₁ : Step l s s₁) (h₂ : Step l s s₂) :
    s₁ = s₂ ∨ ∃ u v, ReflGen (Step l) s₁ u ∧ ReflGen (Step l) s₂ v ∧ u.Agree v := by
  obtain ⟨t, emissions, i, a, rfl, ha, haleft, rfl⟩ := step_iff.mp h₁
  obtain ⟨t, emissions, j, b, hrunning, hb, hbleft, rfl⟩ := step_iff.mp h₂
  cases hrunning
  by_cases hij : i = j
  · subst hij
    rw [ha] at hb
    cases hb
    exact Or.inl rfl
  · obtain ⟨hplaces, hsound⟩ := hs
    have hne : Path.place a.job.output ≠ Path.place b.job.output := by
      intro heq
      have hi : i < (emissions.map fun e => Path.place e.job.output).length := by
        rw [List.length_map]
        exact (List.getElem?_eq_some_iff.mp ha).1
      exact hij ((List.getElem?_inj hi hplaces).mp (by simp [ha, hb, heq]))
    have hb' : (emissions.set i (a.rest l))[j]? = some b := by
      rw [List.getElem?_set_ne hij, hb]
    have ha' : (emissions.set j (b.rest l))[i]? = some a := by
      rw [List.getElem?_set_ne (Ne.symm hij), ha]
    refine Or.inr ⟨_, _, of_goesOn _ hb' hbleft, of_goesOn _ ha' haleft, ?_⟩
    rw [List.set_comm _ _ hij]
    exact agree_of (Emission.act_act (hsound a (List.mem_of_getElem? ha))
      (hsound b (List.mem_of_getElem? hb)) hne)

/-- A step, or another report of a failure. -/
def Leads (l : TemplateLibrary) (s s' : Progress) : Prop :=
  s.Sound ∧ Step l s s' ∨ ∃ failure failure', s = failed failure ∧ s' = failed failure'

lemma not_step_failed {failure : Failure} : ¬Step l (failed failure) s' := by
  rintro ⟨i, h⟩
  cases h

lemma leads_of_goesOn (hs : s.Sound) (h : ReflGen (Step l) s s') : ReflGen (Leads l) s s' := by
  cases h with
  | refl => exact .refl
  | single h => exact .single (Or.inl ⟨hs, h⟩)

/-- Whatever is done first, the same can still be reached. -/
theorem join_leads {s₁ s₂ : Progress} (h₁ : ReflTransGen (Leads l) s s₁)
    (h₂ : ReflTransGen (Leads l) s s₂) : Join (ReflTransGen (Leads l)) s₁ s₂ := by
  refine church_rosser (fun a b c hb hc => ?_) h₁ h₂
  rcases hb with ⟨hsound, hb⟩ | ⟨f, f', rfl, rfl⟩ <;> rcases hc with ⟨-, hc⟩ | ⟨g, g', ha, rfl⟩
  · rcases diamond hsound hb hc with rfl | ⟨u, v, hu, hv, hagree⟩
    · exact ⟨b, .refl, .refl⟩
    · have hbu := leads_of_goesOn (hsound.step hb) hu
      have hcv := (leads_of_goesOn (hsound.step hc) hv).to_reflTransGen
      refine ⟨u, hbu, ?_⟩
      rcases hagree with rfl | ⟨f, f', rfl, rfl⟩
      · exact hcv
      · exact hcv.tail (Or.inr ⟨f', f, rfl, rfl⟩)
  · rw [ha] at hb
    exact absurd hb not_step_failed
  · exact absurd hc not_step_failed
  · exact ⟨_, .refl, .single (Or.inr ⟨g', f', rfl, rfl⟩)⟩

lemma Reaches.sound (h : Reaches l s s') (hs : s.Sound) : s'.Sound := by
  induction h with
  | refl => exact hs
  | tail _ hstep ih => exact ih.step hstep

lemma Reaches.leads (h : Reaches l s s') (hs : s.Sound) : ReflTransGen (Leads l) s s' := by
  induction h with
  | refl => exact .refl
  | tail hreaches hstep ih => exact ih.tail (Or.inl ⟨Reaches.sound hreaches hs, hstep⟩)

/-- Where nothing is left to do, the files are those that there are. -/
lemma files?_of_leads (hover : s.IsOver l) (h : ReflTransGen (Leads l) s s') :
    s'.IsOver l ∧ s'.files? = s.files? := by
  induction h with
  | refl => exact ⟨hover, rfl⟩
  | tail _ hstep ih =>
    rcases hstep with ⟨-, i, hstep⟩ | ⟨f, f', rfl, rfl⟩
    · rw [ih.1 i] at hstep
      cases hstep
    · exact ⟨fun _ => rfl, ih.2⟩

/-- All orders of steps come to the same end. -/
theorem files?_eq_of_isOver {s₁ s₂ : Progress} (hs : s.Sound) (h₁ : Reaches l s s₁)
    (h₂ : Reaches l s s₂) (hover₁ : s₁.IsOver l) (hover₂ : s₂.IsOver l) :
    s₁.files? = s₂.files? := by
  obtain ⟨u, hu₁, hu₂⟩ := join_leads (h₁.leads hs) (h₂.leads hs)
  rw [← (files?_of_leads hover₁ hu₁).2, ← (files?_of_leads hover₂ hu₂).2]

def size : Progress → Nat
  | running _ emissions => (emissions.map (·.size)).sum
  | failed _ => 0

lemma size_step (h : Step l s s') : s'.size < s.size := by
  obtain ⟨t, emissions, i, e, rfl, he, hleft, rfl⟩ := step_iff.mp h
  obtain ⟨hi, rfl⟩ := List.getElem?_eq_some_iff.mp he
  obtain ⟨before, after, heq, -, hset⟩ : ∃ before after,
      emissions = before ++ emissions[i] :: after ∧ before.length = i ∧
        emissions.set i (emissions[i].rest l) = before ++ emissions[i].rest l :: after :=
    List.exists_of_set hi
  have hsize : (running t emissions).size = (before.map (·.size)).sum +
      (emissions[i].size + (after.map (·.size)).sum) := by
    have hsum := congrArg (fun es => (es.map Emission.size).sum) heq
    simpa only [size, List.map_append, List.map_cons, List.sum_append, List.sum_cons] using hsum
  rw [hset, hsize]
  cases hact : emissions[i].act l t with
  | error failure =>
    have hpos := Emission.size_pos hleft
    simp only [of, size]
    omega
  | ok t' =>
    have hless := Emission.size_rest hleft hact
    simp only [of, size, List.map_append, List.map_cons, List.sum_append, List.sum_cons]
    omega

/-- No order of steps goes on forever. -/
theorem exists_isOver (l : TemplateLibrary) (s : Progress) :
    ∃ s', Reaches l s s' ∧ s'.IsOver l := by
  induction hn : s.size using Nat.strong_induction_on generalizing s with
  | _ n ih =>
    by_cases hover : s.IsOver l
    · exact ⟨s, .refl, hover⟩
    · obtain ⟨i, hi⟩ := not_forall.mp hover
      obtain ⟨s', hs'⟩ := Option.ne_none_iff_exists'.mp hi
      obtain ⟨s'', hreaches, hover'⟩ := ih s'.size (hn ▸ size_step ⟨i, hs'⟩) s' rfl
      exact ⟨s'', .head ⟨i, hs'⟩ hreaches, hover'⟩

lemma goesOn_at (x : Except Failure FileTree) (before after : List Emission)
    (hleft : e.left ≠ some []) :
    Reaches l (of x (before ++ e :: after)) (of (x >>= e.act l) (before ++ e.rest l :: after)) := by
  have he : (before ++ e :: after)[before.length]? = some e := by simp
  have hset :
      (before ++ e :: after).set before.length (e.rest l) = before ++ e.rest l :: after := by
    simp
  rw [← hset]
  exact (of_goesOn x he hleft).to_reflTransGen

lemma reaches_changes (x : Except Failure FileTree) (before after : List Emission) (job : Job)
    (changes : List FileChange) :
    Reaches l (of x (before ++ ⟨job, some changes⟩ :: after))
      (of (x >>= fun t => t.changeAll changes) (before ++ ⟨job, some []⟩ :: after)) := by
  induction changes generalizing x with
  | nil =>
    have hsame : (x >>= fun t => t.changeAll []) = x := by cases x <;> rfl
    rw [hsame]
    exact .refl
  | cons c changes ih =>
    have hfirst := goesOn_at (l := l) (e := ⟨job, some (c :: changes)⟩) x before after (by simp)
    have hall : (x >>= fun t => t.changeAll (c :: changes)) =
        (x >>= fun t => t.change c) >>= fun t => t.changeAll changes := by
      rw [bind_assoc]
      rfl
    rw [hall]
    exact hfirst.trans (ih _)

lemma changeAll_changes (j : Job) (text : String) :
    t.changeAll (j.changes text) = t.write j.output text := by
  unfold Job.changes FileTree.write FileChange.ofFile
  have hlast : ∀ t : FileTree, t.changeAll
      ([.file (Path.place j.output) ""] ++ [.file (Path.place j.output) text]) =
        t.changeAll [.file (Path.place j.output) text] := by
    intro t
    simp only [FileTree.changeAll, List.singleton_append, List.foldlM_cons, List.foldlM_nil,
      bind_pure, FileTree.change_file_change_file]
  rw [List.append_assoc, FileTree.changeAll_append, FileTree.changeAll_append]
  simp only [hlast]

def rendered (job : Job) (file : String × String) : Emission := ⟨job, some (job.changes file.2)⟩

lemma reaches_renders (t : FileTree) (jobs : List Job) (before : List Emission) :
    (∃ failure, jobs.mapM (·.render l) = .error failure ∧
        Reaches l (running t (before ++ jobs.map .start)) (failed failure)) ∨
      ∃ files, jobs.mapM (·.render l) = .ok files ∧
        Reaches l (running t (before ++ jobs.map .start))
          (running t (before ++ List.zipWith rendered jobs files)) := by
  induction jobs generalizing before with
  | nil => exact Or.inr ⟨[], rfl, .refl⟩
  | cons job jobs ih =>
    have hfirst := goesOn_at (l := l) (e := .start job) (.ok t) before (jobs.map .start)
      (by simp [Emission.start])
    cases hrender : job.render l with
    | error failure =>
      have hact : Emission.act l (.start job) t = .error failure := by
        simp [Emission.act, Emission.start, hrender, Except.map]
      refine Or.inl ⟨failure, by simp [hrender, bind, Except.bind], ?_⟩
      change Reaches l _ (of (Emission.act l (.start job) t) _) at hfirst
      rw [hact] at hfirst
      exact hfirst
    | ok file =>
      have hact : Emission.act l (.start job) t = .ok t := by
        simp [Emission.act, Emission.start, hrender, Except.map]
      have hrest : Emission.rest l (.start job) = rendered job file := by
        simp [Emission.rest, Emission.start, rendered, hrender, Except.toOption]
      change Reaches l _ (of (Emission.act l (.start job) t) _) at hfirst
      rw [hact, hrest, List.append_cons before (rendered job file)] at hfirst
      rcases ih (before ++ [rendered job file]) with ⟨failure, hrenders, hreaches⟩ |
        ⟨files, hrenders, hreaches⟩
      · refine Or.inl ⟨failure, by simp [hrender, hrenders, bind, Except.bind], ?_⟩
        exact hfirst.trans hreaches
      · have hrenders' : (job :: jobs).mapM (·.render l) = .ok (file :: files) := by
          simp [hrender, hrenders, bind, Except.bind, pure, Except.pure]
        refine Or.inr ⟨file :: files, hrenders', ?_⟩
        rw [List.zipWith_cons_cons, List.append_cons before (rendered job file)]
        exact hfirst.trans hreaches

lemma reaches_writes {jobs : List Job} {files : List (String × String)}
    (h : List.Forall₂ (fun job file => job.render l = .ok file) jobs files)
    (x : Except Failure FileTree) (before : List Emission) :
    Reaches l (of x (before ++ List.zipWith rendered jobs files))
      (of (x >>= fun t => files.foldlM (fun t file => t.write file.1 file.2) t)
        (before ++ jobs.map fun job => ⟨job, some []⟩)) := by
  induction h generalizing x before with
  | nil =>
    have hsame : (x >>= fun t => List.foldlM (fun (t : FileTree) (file : String × String) =>
        t.write file.1 file.2) t []) = x := by cases x <;> rfl
    rw [hsame]
    exact .refl
  | @cons job file jobs files hrender _ ih =>
    have hfirst := reaches_changes (l := l) x before (List.zipWith rendered jobs files) job
      (job.changes file.2)
    simp only [changeAll_changes] at hfirst
    have houtput : file.1 = job.output := by
      obtain ⟨text, -, heq⟩ := Outcome.bind_eq_ok.mp hrender
      cases heq
      rfl
    have hall : (x >>= fun t => (file :: files).foldlM (fun t file => t.write file.1 file.2) t) =
        (x >>= fun t => t.write job.output file.2) >>=
          fun t => files.foldlM (fun t file => t.write file.1 file.2) t := by
      rw [bind_assoc, ← houtput]
      rfl
    rw [hall, List.map_cons, List.append_cons before (⟨job, some []⟩ : Emission)]
    rw [List.append_cons before (⟨job, some []⟩ : Emission)] at hfirst
    exact hfirst.trans (ih _ _)

lemma isOver_of (x : Except Failure FileTree) (jobs : List Job) :
    (of x (jobs.map fun job => ⟨job, some []⟩)).IsOver l := by
  intro i
  cases x with
  | error => rfl
  | ok t =>
    simp only [of, next?, List.getElem?_map]
    cases jobs[i]? <;> rfl

/-- One order is to fill all templates and then to write all files. -/
theorem exists_reaches_run (l : TemplateLibrary) (t : FileTree) (jobs : List Job) :
    ∃ s, Reaches l (start t jobs) s ∧ s.IsOver l ∧ s.files? = (t.run l jobs).toOption := by
  unfold FileTree.run
  rcases reaches_renders t jobs [] with ⟨failure, hrenders, hreaches⟩ | ⟨files, hrenders, hreaches⟩
  · rw [hrenders]
    exact ⟨_, hreaches, fun _ => rfl, rfl⟩
  · have hwrites := reaches_writes (Outcome.mapM_eq_ok.mp hrenders) (.ok t) []
    rw [hrenders]
    refine ⟨_, hreaches.trans hwrites, isOver_of _ jobs, ?_⟩
    have hfiles : ∀ (x : Except Failure FileTree) emissions,
        (of x emissions).files? = x.toOption := by
      intro x emissions
      cases x <;> rfl
    exact hfiles _ _

/-- However the steps of emissions of different files are ordered, they come to an end, which is
that of writing one file after another. -/
theorem emit_in_any_order (l : TemplateLibrary) (t : FileTree) {jobs : List Job}
    (h : (jobs.map fun j => Path.place j.output).Nodup) (s : Progress)
    (hs : Reaches l (start t jobs) s) :
    (∃ s', Reaches l s s' ∧ s'.IsOver l) ∧
      (s.IsOver l → s.files? = (t.run l jobs).toOption) := by
  refine ⟨exists_isOver l s, fun hover => ?_⟩
  obtain ⟨s', hreaches, hover', hfiles⟩ := exists_reaches_run l t jobs
  rw [← hfiles]
  exact files?_eq_of_isOver (sound_start h) hs hreaches hover hover'

end Progress

end SwiftClient
