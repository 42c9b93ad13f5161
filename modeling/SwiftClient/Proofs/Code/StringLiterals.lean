import Mathlib.Data.List.Basic
import SwiftClient.Json.Lexeme

/-!
# String literals in code

The string literals of a piece of code are found and decoded character by character. Only literals
on one line that stand for one text each are read: code is refused where a literal is not closed or
has no such text, and where quotes may have another meaning.
-/
namespace SwiftClient

/-- Where a reader is in its code. -/
inductive CodeReader.Place where
  | outside
  /-- After a literal without characters, which one more quote would make the start of another. -/
  | emptied
  /-- Within a literal, after characters that stand for a text. -/
  | inside (text : List Char)
  /-- After a backslash. -/
  | escape (text : List Char)
  /-- After a backslash and the letter u. -/
  | scalar (text : List Char)
  /-- Within the braces of a scalar. -/
  | digits (text digits : List Char)

def CodeReader.Place.soFar : Place → List Char
  | outside | emptied => []
  | inside text | escape text | scalar text | digits text _ => text

structure CodeReader where
  found : List (List Char)
  place : CodeReader.Place

namespace CodeReader

/-- Comments, regular expressions, raw strings and quoted names begin with these characters, and
quotes within them begin no literal. -/
def mayHideQuotes (c : Char) : Bool := c = '/' || c = '#' || c = '\x60' || c = '\x27'

/-- The character that a backslash and one more character stand for. -/
def unescape? : Char → Option Char
  | '0' => some '\x00'
  | '\\' => some '\\'
  | 't' => some '\t'
  | 'n' => some '\n'
  | 'r' => some '\r'
  | '"' => some '"'
  | '\x27' => some '\x27'
  | _ => none

/-- The character with a number of one to eight hexadecimal digits. -/
def scalar? (digits : List Char) : Option Char := do
  let values ← digits.mapM Json.Lexeme.hexValue?
  let n : Nat := values.foldl (fun n value => n * 16 + value) 0
  if digits ≠ [] ∧ digits.length ≤ 8 ∧ n.isValidChar then some (Char.ofNat n) else none

def Place.leave (c : Char) : Option Place :=
  if c = '"' then some (.inside [])
  else if mayHideQuotes c then none
  else some .outside

def step : CodeReader → Char → Option CodeReader
  | ⟨found, .outside⟩, c => (Place.leave c).map (⟨found, ·⟩)
  -- a third quote would open a literal of many lines
  | ⟨found, .emptied⟩, c => if c = '"' then none else (Place.leave c).map (⟨found, ·⟩)
  | ⟨found, .inside text⟩, c =>
    if c = '"' then some ⟨found ++ [text], if text = [] then .emptied else .outside⟩
    else if c = '\\' then some ⟨found, .escape text⟩
    else if c = '\n' ∨ c = '\r' then none
    else some ⟨found, .inside (text ++ [c])⟩
  | ⟨found, .escape text⟩, c =>
    -- a parenthesis is refused here, since nothing is known of what is interpolated
    if c = 'u' then some ⟨found, .scalar text⟩
    else (unescape? c).map fun d => ⟨found, .inside (text ++ [d])⟩
  | ⟨found, .scalar text⟩, c => if c = '\x7b' then some ⟨found, .digits text []⟩ else none
  | ⟨found, .digits text digits⟩, c =>
    if c = '\x7d' then (scalar? digits).map fun d => ⟨found, .inside (text ++ [d])⟩
    else some ⟨found, .digits text (digits ++ [c])⟩

/-- The texts of all literals, unless the code ends within one. -/
def finish : CodeReader → Option (List String)
  | ⟨found, .outside⟩ | ⟨found, .emptied⟩ => some (found.map String.ofList)
  | ⟨_, .inside _⟩ | ⟨_, .escape _⟩ | ⟨_, .scalar _⟩ | ⟨_, .digits _ _⟩ => none

/-- The texts that the string literals of a piece of code stand for, in order. -/
def stringLiterals (code : String) : Option (List String) := do
  let reader ← code.toList.foldlM step ⟨[], .outside⟩
  reader.finish

/-- A character that has no bearing on where literals begin. -/
def isPlain (c : Char) : Bool := c != '"' && !mayHideQuotes c

variable {r r' : CodeReader} {found : List (List Char)} {place : Place} {text cs : List Char}
  {c : Char}

lemma ne_quote_of_isPlain (h : isPlain c) : c ≠ '"' :=
  bne_iff_ne.mp ((Bool.and_eq_true _ _).mp h).1

lemma step_of_isPlain (hplace : place = .outside ∨ place = .emptied) (h : isPlain c) :
    step ⟨found, place⟩ c = some ⟨found, .outside⟩ := by
  have hquote := ne_quote_of_isPlain h
  have hhide : mayHideQuotes c = false := by simpa using ((Bool.and_eq_true _ _).mp h).2
  have hleave : Place.leave c = some .outside := by
    rw [Place.leave, if_neg hquote, hhide]
    rfl
  rcases hplace with rfl | rfl
  · rw [step, hleave]
    rfl
  · rw [step, if_neg hquote, hleave]
    rfl

lemma run_of_isPlain (h : ∀ c ∈ cs, isPlain c) :
    cs.foldlM step ⟨found, .outside⟩ = some ⟨found, .outside⟩ := by
  induction cs with
  | nil => rfl
  | cons c cs ih =>
    rw [List.foldlM_cons, step_of_isPlain (Or.inl rfl) (h c List.mem_cons_self)]
    exact ih fun d hd => h d (List.mem_cons_of_mem c hd)

lemma finish_of_isPlain (hplace : place = .outside ∨ place = .emptied)
    (h : ∀ c ∈ cs, isPlain c) :
    (cs.foldlM step ⟨found, place⟩).bind finish = some (found.map String.ofList) := by
  cases cs with
  | nil => rcases hplace with rfl | rfl <;> rfl
  | cons c cs =>
    rw [List.foldlM_cons, step_of_isPlain hplace (h c List.mem_cons_self)]
    have hrun : cs.foldlM step ⟨found, .outside⟩ = some ⟨found, .outside⟩ :=
      run_of_isPlain fun d hd => h d (List.mem_cons_of_mem c hd)
    exact congrArg (Option.bind · finish) hrun

/-- Plain code before a quote leaves the reader where a literal begins. -/
lemma stringLiterals_quoted {before : String} (h : ∀ c ∈ before.toList, isPlain c)
    (body after : String) :
    stringLiterals (before ++ "\"" ++ body ++ "\"" ++ after) =
      ((body.toList ++ ['"']).foldlM step ⟨[], .inside []⟩).bind fun r =>
        (after.toList.foldlM step r).bind finish := by
  have hcode : (before ++ "\"" ++ body ++ "\"" ++ after).toList =
      before.toList ++ '"' :: ((body.toList ++ ['"']) ++ after.toList) := by
    simp [String.toList_append]
  have hopen : step ⟨[], .outside⟩ '"' = some ⟨[], .inside []⟩ := rfl
  rw [stringLiterals, hcode, List.foldlM_append, run_of_isPlain h]
  simp only [Option.bind_eq_bind, Option.bind_some, List.foldlM_cons, hopen]
  rw [List.foldlM_append, Option.bind_eq_bind, Option.bind_assoc]

/-- A literal with plain code around it is the only one, and stands for the text that is read from
what is between its quotes. -/
theorem stringLiterals_of_run {before body after : String}
    (hbefore : ∀ c ∈ before.toList, isPlain c) (hafter : ∀ c ∈ after.toList, isPlain c)
    (hbody : body.toList.foldlM step ⟨[], .inside []⟩ = some ⟨[], .inside text⟩) :
    stringLiterals (before ++ "\"" ++ body ++ "\"" ++ after) = some [String.ofList text] := by
  have hclose : step ⟨[], .inside text⟩ '"' =
      some ⟨[text], if text = [] then .emptied else .outside⟩ := rfl
  have hplace : (if text = [] then Place.emptied else .outside) = .outside ∨
      (if text = [] then Place.emptied else .outside) = .emptied := by
    split
    · exact Or.inr rfl
    · exact Or.inl rfl
  rw [stringLiterals_quoted hbefore, List.foldlM_append, hbody]
  simp only [Option.bind_eq_bind, Option.bind_some, List.foldlM_cons, List.foldlM_nil, hclose,
    Option.pure_def]
  exact finish_of_isPlain hplace hafter

example : stringLiterals "f(\"a\\tb\", \"\", \"\\u\x7b41\x7d\")" = some ["a\tb", "", "A"] := rfl

example : stringLiterals "f(\"a\\(b)\")" = none := rfl

/-- Characters that do not stand for themselves within a literal on one line. -/
def needsEscape (c : Char) : Bool := c = '"' || c = '\\' || c = '\n' || c = '\r'

lemma step_of_not_needsEscape (h : ¬needsEscape c) :
    step ⟨found, .inside text⟩ c = some ⟨found, .inside (text ++ [c])⟩ := by
  simp only [needsEscape, Bool.or_eq_true, decide_eq_true_eq, not_or] at h
  obtain ⟨⟨⟨hquote, hbackslash⟩, hfeed⟩, hreturn⟩ := h
  rw [step, if_neg hquote, if_neg hbackslash, if_neg (not_or.mpr ⟨hfeed, hreturn⟩)]

lemma run_of_not_needsEscape (h : ∀ c ∈ cs, ¬needsEscape c) :
    cs.foldlM step ⟨found, .inside text⟩ = some ⟨found, .inside (text ++ cs)⟩ := by
  induction cs generalizing text with
  | nil => rw [List.append_nil]; rfl
  | cons c cs ih =>
    rw [List.foldlM_cons, step_of_not_needsEscape (h c List.mem_cons_self)]
    refine (ih fun d hd => h d (List.mem_cons_of_mem c hd)).trans ?_
    rw [List.append_assoc]
    rfl

lemma soFar_of_leave (h : Place.leave c = some place) : place.soFar = [] := by
  rw [Place.leave] at h
  split_ifs at h
  · obtain rfl := Option.some.inj h
    rfl
  · obtain rfl := Option.some.inj h
    rfl

lemma found_of_step (h : step r c = some r') :
    (r'.found = r.found ∧ r'.place.soFar.length ≤ r.place.soFar.length + 1) ∨
      (c = '"' ∧ r'.found = r.found ++ [r.place.soFar]) := by
  obtain ⟨found, place⟩ := r
  cases place with
  | outside =>
    obtain ⟨place, hplace, rfl⟩ := Option.map_eq_some_iff.mp h
    exact Or.inl ⟨rfl, by simp [soFar_of_leave hplace]⟩
  | emptied =>
    rw [step] at h
    split_ifs at h
    obtain ⟨place, hplace, rfl⟩ := Option.map_eq_some_iff.mp h
    exact Or.inl ⟨rfl, by simp [soFar_of_leave hplace]⟩
  | inside text =>
    rw [step] at h
    split_ifs at h with hquote hempty hbackslash hline
    · obtain rfl := Option.some.inj h
      exact Or.inr ⟨hquote, rfl⟩
    · obtain rfl := Option.some.inj h
      exact Or.inr ⟨hquote, rfl⟩
    · obtain rfl := Option.some.inj h
      exact Or.inl ⟨rfl, Nat.le_succ _⟩
    · obtain rfl := Option.some.inj h
      exact Or.inl ⟨rfl, by simp [Place.soFar]⟩
  | escape text =>
    rw [step] at h
    split_ifs at h
    · obtain rfl := Option.some.inj h
      exact Or.inl ⟨rfl, Nat.le_succ _⟩
    · obtain ⟨d, -, rfl⟩ := Option.map_eq_some_iff.mp h
      exact Or.inl ⟨rfl, by simp [Place.soFar]⟩
  | scalar text =>
    rw [step] at h
    split_ifs at h
    obtain rfl := Option.some.inj h
    exact Or.inl ⟨rfl, Nat.le_succ _⟩
  | digits text digits =>
    rw [step] at h
    split_ifs at h
    · obtain ⟨d, -, rfl⟩ := Option.map_eq_some_iff.mp h
      exact Or.inl ⟨rfl, by simp [Place.soFar]⟩
    · obtain rfl := Option.some.inj h
      exact Or.inl ⟨rfl, Nat.le_succ _⟩

/-- The first literal is shorter than `n`, or will be if it is closed by one of the next `left`
characters. -/
def FallsShort (n left : ℕ) (r : CodeReader) : Prop :=
  match r.found with
  | [] => r.place.soFar.length + left ≤ n
  | first :: _ => first.length < n

variable {n left : ℕ}

lemma fallsShort_step (h : step r c = some r') (hr : r.FallsShort n (left + 1)) :
    r'.FallsShort n left := by
  unfold FallsShort at hr ⊢
  cases hfound : r.found with
  | nil =>
    rw [hfound] at hr
    obtain ⟨hfound', hlength⟩ | ⟨-, hfound'⟩ := found_of_step h
    · rw [hfound', hfound]
      dsimp only at hr ⊢
      omega
    · rw [hfound', hfound]
      dsimp only [List.nil_append] at hr ⊢
      omega
  | cons first rest =>
    rw [hfound] at hr
    obtain ⟨hfound', -⟩ | ⟨-, hfound'⟩ := found_of_step h
    · rw [hfound', hfound]
      exact hr
    · rw [hfound', hfound]
      exact hr

lemma fallsShort_run (h : cs.foldlM step r = some r') (hr : r.FallsShort n cs.length) :
    r'.FallsShort n 0 := by
  induction cs generalizing r with
  | nil =>
    obtain rfl := Option.some.inj h
    exact hr
  | cons c cs ih =>
    rw [List.foldlM_cons] at h
    obtain ⟨next, hnext, hrest⟩ := Option.bind_eq_some_iff.mp h
    exact ih hrest (fallsShort_step hnext hr)

/-- A text with a character that has to be escaped is never read whole: at the first such character
the literal is closed, broken off, or loses a character. -/
lemma fallsShort_of_needsEscape (hneeds : ∃ c ∈ cs, needsEscape c)
    (h : (cs ++ ['"']).foldlM step ⟨[], .inside text⟩ = some r) :
    r.FallsShort (text.length + cs.length) 0 := by
  induction cs generalizing text with
  | nil =>
    obtain ⟨c, hc, -⟩ := hneeds
    cases hc
  | cons c cs ih =>
    rw [List.cons_append, List.foldlM_cons] at h
    by_cases hc : needsEscape c
    · obtain ⟨next, hnext, hrest⟩ := Option.bind_eq_some_iff.mp h
      refine fallsShort_run hrest ?_
      simp only [needsEscape, Bool.or_eq_true, decide_eq_true_eq] at hc
      rcases hc with ((rfl | rfl) | rfl) | rfl
      · obtain rfl := Option.some.inj hnext
        simp [FallsShort]
      · obtain rfl := Option.some.inj hnext
        simp [FallsShort, Place.soFar]
      · cases hnext
      · cases hnext
    · rw [step_of_not_needsEscape hc] at h
      obtain ⟨d, hd, hneeds⟩ := hneeds
      obtain rfl | hd := List.mem_cons.mp hd
      · exact absurd hneeds hc
      · have hshort := ih ⟨d, hd, hneeds⟩ h
        rw [List.length_append, List.length_singleton] at hshort
        rw [List.length_cons, Nat.add_comm cs.length, ← Nat.add_assoc]
        exact hshort

lemma found_of_run (hcs : ∀ c ∈ cs, isPlain c) (h : cs.foldlM step r = some r') :
    r'.found = r.found := by
  induction cs generalizing r with
  | nil =>
    obtain rfl := Option.some.inj h
    rfl
  | cons c cs ih =>
    rw [List.foldlM_cons] at h
    obtain ⟨next, hnext, hrest⟩ := Option.bind_eq_some_iff.mp h
    rw [ih (fun d hd => hcs d (List.mem_cons_of_mem c hd)) hrest]
    obtain ⟨hfound, -⟩ | ⟨hquote, -⟩ := found_of_step hnext
    · exact hfound
    · exact absurd hquote (ne_quote_of_isPlain (hcs c List.mem_cons_self))

/-- A text that is put between quotes as it is stands for itself exactly if none of its characters
has to be escaped. -/
theorem stringLiterals_quoted_iff {before after : String}
    (hbefore : ∀ c ∈ before.toList, isPlain c) (hafter : ∀ c ∈ after.toList, isPlain c)
    (text : String) :
    stringLiterals (before ++ "\"" ++ text ++ "\"" ++ after) = some [text] ↔
      ∀ c ∈ text.toList, ¬needsEscape c := by
  constructor
  · intro h c hc hneeds
    rw [stringLiterals_quoted hbefore] at h
    obtain ⟨r, hr, hafterRun⟩ := Option.bind_eq_some_iff.mp h
    obtain ⟨r', hr', hfinish⟩ := Option.bind_eq_some_iff.mp hafterRun
    have hshort := fallsShort_of_needsEscape ⟨c, hc, hneeds⟩ hr
    have hfound : r.found.map String.ofList = [text] := by
      rw [← found_of_run hafter hr']
      obtain ⟨found, place⟩ := r'
      cases place with
      | outside | emptied => exact Option.some.inj hfinish
      | inside | escape | scalar | digits => cases hfinish
    obtain ⟨first, hfirst, rfl⟩ := List.map_eq_singleton_iff.mp hfound
    rw [FallsShort, hfirst] at hshort
    simp at hshort
  · intro h
    have hrun : text.toList.foldlM step ⟨[], .inside []⟩ = some ⟨[], .inside text.toList⟩ :=
      run_of_not_needsEscape h
    rw [stringLiterals_of_run hbefore hafter hrun, String.ofList_toList]

end CodeReader

end SwiftClient
