import SwiftClient.Proofs.Naming.Identifiers
import SwiftClient.Proofs.Naming.WordBreaks

/-!
# Names of names

A class name or identifier in ASCII is its own class name or identifier. Its words begin with
capitals, except for the first word of an identifier, which begins with a small letter or is a
number, and so the second time no letter changes its case.
-/
namespace SwiftClient.Naming

open Text

variable {c : Char} {cs w : List Char} {ws : List (List Char)}

lemma forall_alphanum {p : Char → Prop}
    (h : ∀ n < 128, (Char.ofNat n).isAlphanum → p (Char.ofNat n)) (hc : c.isAlphanum) : p c := by
  have hp := h c.toNat (toNat_lt_of_isAlphanum hc)
  rw [Char.ofNat_toNat] at hp
  exact hp hc

lemma isAlphanumeric_of_isAlphanum (hc : c.isAlphanum) : isAlphanumeric c :=
  forall_alphanum (p := (isAlphanumeric ·)) (by decide) hc

lemma upperOf_eq (hc : c.isAlphanum) : upperOf c = [c.toUpper] :=
  forall_alphanum (p := fun c => upperOf c = [c.toUpper]) (by decide +kernel) hc

lemma lowerOf_eq (hc : c.isAlphanum) : lowerOf c = [c.toLower] :=
  forall_alphanum (p := fun c => lowerOf c = [c.toLower]) (by decide +kernel) hc

lemma toUpper_toUpper (hc : c.isAlphanum) : c.toUpper.toUpper = c.toUpper :=
  forall_alphanum (p := fun c => c.toUpper.toUpper = c.toUpper) (by decide) hc

lemma toLower_toLower (hc : c.isAlphanum) : c.toLower.toLower = c.toLower :=
  forall_alphanum (p := fun c => c.toLower.toLower = c.toLower) (by decide) hc

lemma toUpper_of_isUppercase (hc : c.isAlphanum) (h : isUppercase c) : c.toUpper = c :=
  forall_alphanum (p := fun c => isUppercase c → c.toUpper = c) (by decide) hc h

lemma isDigit_of_caseless (hc : c.isAlphanum) (hupper : isUppercase c = false)
    (hlower : isLowercase c = false) : c.isDigit := by
  have hdigit := forall_alphanum (p := fun c => isUppercase c = false → isLowercase c = false →
    c.isDigit) (by decide) hc
  exact hdigit hupper hlower

lemma isSmall_toLower (hc : c.isAlphanum) : isLowercase c.toLower ∨ c.toLower.isDigit :=
  forall_alphanum (p := fun c => isLowercase c.toLower ∨ c.toLower.isDigit) (by decide) hc

/-- Without separators, only the first word may begin with anything but a capital. -/
lemma exists_capital_of_later (h : ∀ c ∈ cs, isAlphanumeric c) (hsplit : splitWords cs = w :: ws) :
    ∀ v ∈ ws, ∃ c rest, v = c :: rest ∧ isUppercase c := by
  induction cs generalizing w ws with
  | nil => cases hsplit
  | cons c cs ih =>
    rw [List.forall_mem_cons] at h
    cases cs with
    | nil =>
      obtain ⟨-, rfl⟩ : [c] = w ∧ [] = ws := by simpa [splitWords, h.1] using hsplit
      exact List.forall_mem_nil _
    | cons d rest =>
      have hd := h.2 d List.mem_cons_self
      obtain ⟨v, vs, hrest⟩ := exists_splitWords_cons hd rest
      have hlater := ih h.2 hrest
      rw [splitWords_cons_cons h.1, hd, Bool.not_true, Bool.false_or, hrest] at hsplit
      split_ifs at hsplit with hbreak
      · obtain ⟨-, rfl⟩ := List.cons.inj hsplit
        rw [breaksBetween, Bool.and_eq_true] at hbreak
        exact List.forall_mem_cons.mpr ⟨⟨d, v, rfl, hbreak.1⟩, hlater⟩
      · obtain ⟨-, rfl⟩ := List.cons.inj hsplit
        exact hlater

lemma flatMap_upperFirst_later (h : ∀ c ∈ cs, c.isAlphanum) (hsplit : splitWords cs = w :: ws) :
    ws.flatMap upperFirst = ws.flatten := by
  have hkept : ∀ v ∈ ws, upperFirst v = v := by
    intro v hv
    obtain ⟨c, rest, rfl, hc⟩ :=
      exists_capital_of_later (fun c hc => isAlphanumeric_of_isAlphanum (h c hc)) hsplit v hv
    have hword : c :: rest ∈ splitWords cs := by
      rw [hsplit]
      exact List.mem_cons_of_mem w hv
    have hmem := (mem_of_mem_splitWords hword List.mem_cons_self).1
    rw [upperFirst, upperOf_eq (h c hmem), toUpper_of_isUppercase (h c hmem) hc]
    rfl
  rw [List.flatMap_def, List.map_congr_left hkept, List.map_id']

lemma exists_words (h : ∀ d ∈ c :: cs, d.isAlphanum) :
    ∃ w ws, splitWords (c :: cs) = (c :: w) :: ws ∧
      (c :: w) ++ ws.flatMap upperFirst = c :: cs := by
  have hletters : ∀ d ∈ c :: cs, isAlphanumeric d :=
    fun d hd => isAlphanumeric_of_isAlphanum (h d hd)
  obtain ⟨w, ws, hsplit⟩ := exists_splitWords_cons (hletters c List.mem_cons_self) cs
  refine ⟨w, ws, hsplit, ?_⟩
  rw [flatMap_upperFirst_later h hsplit, ← List.flatten_cons, ← hsplit, flatten_splitWords,
    List.filter_eq_self.mpr hletters]

/-- Words are put together as they are if the first one begins with a capital or digit. -/
theorem flatMap_upperFirst_splitWords (h : ∀ d ∈ c :: cs, d.isAlphanum) (hc : c.toUpper = c) :
    (splitWords (c :: cs)).flatMap upperFirst = c :: cs := by
  obtain ⟨w, ws, hsplit, hwords⟩ := exists_words h
  rw [hsplit, List.flatMap_cons, upperFirst, upperOf_eq (h c List.mem_cons_self), hc]
  exact hwords

/-- A word that begins with a digit and has no small letters is a number, since a capital after a
digit would begin another word. -/
lemma isRun_of_isWord (hword : IsWord (c :: w)) (h : ∀ d ∈ c :: w, d.isAlphanum)
    (hlower : ∀ d ∈ c :: w, isLowercase d = false) (hc : c.isDigit) : IsRun (c :: w) := by
  induction w generalizing c with
  | nil => exact List.forall_mem_singleton.mpr hc
  | cons d w ih =>
    rw [List.forall_mem_cons] at h hlower
    obtain ⟨hbreak, hrest⟩ := hword.tail
    have hd : d.isDigit := by
      have hupper : isUppercase d = false := by simpa [breaksBetween, hc] using hbreak
      exact isDigit_of_caseless (h.2 d List.mem_cons_self) hupper (hlower.2 d List.mem_cons_self)
    exact List.forall_mem_cons.mpr ⟨hc, ih hrest h.2 hlower.2 hd⟩

/-- A word that begins with a small letter or digit stays as it is at the beginning of an
identifier. -/
lemma lowerFirst_eq_self (hword : IsWord (c :: w)) (h : ∀ d ∈ c :: w, d.isAlphanum)
    (hc : c.toLower = c) (hsmall : isLowercase c ∨ c.isDigit) : lowerFirst (c :: w) = c :: w := by
  by_cases hall : (c :: w).all fun d => !isLowercase d
  · have hlower : ∀ d ∈ c :: w, isLowercase d = false := by simpa using hall
    have hdigit : c.isDigit := by simpa [hlower c List.mem_cons_self] using hsmall
    rw [lowerFirst_of_all hall, lowerAfter_run [] (isRun_of_isWord hword h hlower hdigit)]
  · rw [lowerFirst_cons hall, lowerOf_eq (h c List.mem_cons_self), hc]
    rfl

/-- Words make the identifier that they were split from if the first one begins with a small letter
or digit. -/
theorem joinedWords_splitWords (h : ∀ d ∈ c :: cs, d.isAlphanum) (hc : c.toLower = c)
    (hsmall : isLowercase c ∨ c.isDigit) : joinedWords (splitWords (c :: cs)) = c :: cs := by
  obtain ⟨w, ws, hsplit, hwords⟩ := exists_words h
  have hmem : c :: w ∈ splitWords (c :: cs) := hsplit ▸ List.mem_cons_self
  have hfirst : lowerFirst (c :: w) = c :: w :=
    lowerFirst_eq_self (isWord_of_mem_splitWords hmem)
      (fun d hd => h d (mem_of_mem_splitWords hmem hd).1) hc hsmall
  rw [hsplit, joinedWords, hfirst, hwords]

lemma splitWords_underscore (cs : List Char) : splitWords ('_' :: cs) = splitWords cs :=
  splitWords_cons_of_not (by decide) cs

lemma splitWords_escaped (cs : List Char) : splitWords (escaped cs) = splitWords cs := by
  obtain ⟨rfl, hcs⟩ | ⟨-, hcs⟩ | ⟨-, ⟨-, hcs⟩ | ⟨-, hcs⟩⟩ := escaped_cases cs
  · rw [hcs, splitWords_underscore]
  · rw [hcs, splitWords_underscore]
  · have hbacktick : isAlphanumeric '\x60' = false := by decide
    rw [hcs, List.cons_append, splitWords_cons_of_not hbacktick, splitWords_append_cons hbacktick,
      splitWords, List.append_nil]
  · rw [hcs]

lemma splitWords_classChars (cs : List Char) :
    splitWords (classChars cs) = splitWords ((splitWords cs).flatMap upperFirst) := by
  rw [classChars]
  split_ifs with hempty
  · rw [List.isEmpty_iff.mp hempty, splitWords_underscore]
  · exact splitWords_underscore _
  · rfl

lemma isAlphanum_of_mem_splitWords (h : ∀ c ∈ cs, c.toNat < 128) (hw : w ∈ splitWords cs) {c : Char}
    (hc : c ∈ w) : c.isAlphanum := by
  obtain ⟨hmem, hkept⟩ := mem_of_mem_splitWords hw hc
  exact isAlphanum_of_ascii (h c hmem) hkept

lemma exists_cons_of_splitWords (h : ∀ c ∈ cs, c.toNat < 128) (hsplit : splitWords cs = w :: ws) :
    ∃ c rest, w = c :: rest ∧ c.isAlphanum := by
  have hword : w ∈ splitWords cs := hsplit ▸ List.mem_cons_self
  obtain ⟨c, rest, rfl⟩ := List.exists_cons_of_ne_nil (isWord_of_mem_splitWords hword).ne_nil
  exact ⟨c, rest, rfl, isAlphanum_of_mem_splitWords h hword List.mem_cons_self⟩

lemma exists_lowerFirst_cons (hc : c.isAlphanum) (w : List Char) :
    ∃ rest, lowerFirst (c :: w) = c.toLower :: rest := by
  by_cases hall : (c :: w).all fun d => !isLowercase d
  · have hsigma : c ≠ 'Σ' := by
      rintro rfl
      exact absurd hc (by decide)
    rw [lowerFirst_of_all hall, lowerAfter, if_neg hsigma, lowerOf_eq hc]
    exact ⟨_, rfl⟩
  · rw [lowerFirst_cons hall, lowerOf_eq hc]
    exact ⟨w, rfl⟩

lemma classChars_congr {cs cs' : List Char} (h : (splitWords cs).flatMap upperFirst =
    (splitWords cs').flatMap upperFirst) : classChars cs = classChars cs' := by
  rw [classChars, classChars, h]

theorem classChars_classChars (h : ∀ c ∈ cs, c.toNat < 128) :
    classChars (classChars cs) = classChars cs := by
  have hletters : ∀ d ∈ (splitWords cs).flatMap upperFirst, d.isAlphanum := by
    intro d hd
    obtain ⟨w, hw, hd⟩ := List.mem_flatMap.mp hd
    obtain ⟨a, ha, hcased⟩ := cased_of_mem_upperFirst hd
    exact hcased.isAlphanum (isAlphanum_of_mem_splitWords h hw ha)
  refine classChars_congr ?_
  rw [splitWords_classChars]
  cases hsplit : splitWords cs with
  | nil => rfl
  | cons w ws =>
    obtain ⟨c, w, rfl, hc⟩ := exists_cons_of_splitWords h hsplit
    have hbegin : ((c :: w) :: ws).flatMap upperFirst =
        c.toUpper :: (w ++ ws.flatMap upperFirst) := by
      rw [List.flatMap_cons, upperFirst, upperOf_eq hc]
      rfl
    rw [hsplit, hbegin] at hletters
    rw [hbegin]
    exact flatMap_upperFirst_splitWords hletters (toUpper_toUpper hc)

theorem identifierChars_identifierChars (h : ∀ c ∈ cs, c.toNat < 128) :
    identifierChars (identifierChars cs) = identifierChars cs := by
  have hletters : ∀ d ∈ joinedWords (splitWords cs), d.isAlphanum :=
    fun d hd => (made_of_mem_joinedWords hd).isAlphanum h
  rw [identifierChars_eq, identifierChars_eq, splitWords_escaped]
  refine congrArg escaped ?_
  cases hsplit : splitWords cs with
  | nil => rfl
  | cons w ws =>
    obtain ⟨c, w, rfl, hc⟩ := exists_cons_of_splitWords h hsplit
    obtain ⟨rest, hrest⟩ := exists_lowerFirst_cons hc w
    have hbegin : joinedWords ((c :: w) :: ws) = c.toLower :: (rest ++ ws.flatMap upperFirst) := by
      rw [joinedWords, hrest]
      rfl
    rw [hsplit, hbegin] at hletters
    rw [hbegin]
    exact joinedWords_splitWords hletters (toLower_toLower hc)
      (isSmall_toLower hc)

/-- A name in ASCII has a class name and an identifier that are their own, whether they begin with a
digit, have no letters at all or are reserved. Constants do not have this law: the last two words of
`a-b-c` are one word of its constant. -/
theorem names_of_names {name : String} (h : ∀ c ∈ name.toList, c.toNat < 128) :
    className (className name) = className name ∧
      identifier (identifier name) = identifier name := by
  simp only [className, identifier, String.toList_ofList]
  exact ⟨congrArg String.ofList (classChars_classChars h),
    congrArg String.ofList (identifierChars_identifierChars h)⟩

theorem names_of_names_2HTTPServers :
    (∀ c ∈ "2HTTP-servers".toList, c.toNat < 128) ∧
      className (className "2HTTP-servers") = className "2HTTP-servers" ∧
      identifier (identifier "2HTTP-servers") = identifier "2HTTP-servers" := by
  have h : ∀ c ∈ "2HTTP-servers".toList, c.toNat < 128 := by simp
  exact ⟨h, names_of_names h⟩

end SwiftClient.Naming
