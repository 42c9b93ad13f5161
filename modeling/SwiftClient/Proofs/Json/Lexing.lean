import Mathlib.Data.Int.Notation
import Mathlib.Data.List.Basic
import SwiftClient.Json.Lexeme
import SwiftClient.Json.Text

/-!
# Lexemes of written values

A value that is written is read back as the lexemes that it is made of. An escaped string ends at
its closing quote, and a numeral at the first character that cannot go on with it.
-/
namespace SwiftClient.Json.Lexeme

lemma pieces_escape {e c : Char} (he : unescape? e = some c) (cs : List Char) :
    pieces ('\\' :: e :: cs) = (pieces cs).map fun p => (.char c :: p.1, p.2 + 2) := by
  have hu : e ≠ 'u' := by
    rintro rfl
    cases he
  rw [pieces]
  · rw [he]
    cases pieces cs <;> rfl
  · exact fun _ _ _ _ _ h => absurd h hu

lemma pieces_unit {a b c d : Char} {n : ℕ} (h : hexUnit? a b c d = some n) (cs : List Char) :
    pieces ('\\' :: 'u' :: a :: b :: c :: d :: cs) =
      (pieces cs).map fun p => (.unit n :: p.1, p.2 + 6) := by
  rw [pieces, h]
  cases pieces cs <;> rfl

lemma pieces_plain {c : Char} (hquote : c ≠ '"') (hslash : c ≠ '\\') (hcontrol : 0x20 ≤ c.toNat)
    (cs : List Char) :
    pieces (c :: cs) = (pieces cs).map fun p => (.char c :: p.1, p.2 + 1) := by
  rw [pieces]
  · rw [if_neg (by simp [hslash, hcontrol])]
    cases pieces cs <;> rfl
  all_goals simp_all

lemma joined_char (c : Char) (ps : List Piece) :
    joined (.char c :: ps) = (joined ps).map (c :: ·) := by
  rw [joined]

lemma joined_control {c : Char} (hc : c.toNat < 0x20) (ps : List Piece) :
    joined (.unit c.toNat :: ps) = (joined ps).map (c :: ·) := by
  have hlow : isLowSurrogate c.toNat = false := by
    simp only [isLowSurrogate, Bool.and_eq_false_iff, decide_eq_false_iff_not]
    omega
  have hhigh : isHighSurrogate c.toNat = false := by
    simp only [isHighSurrogate, Bool.and_eq_false_iff, decide_eq_false_iff_not]
    omega
  rw [joined.eq_def]
  simp [hlow, hhigh]

lemma hexUnit?_control {n : ℕ} (hn : n < 0x20) :
    hexUnit? '0' '0' (hexDigit (n / 16)) (hexDigit (n % 16)) = some n := by
  revert n
  decide

lemma escapedChar_cases (c : Char) :
    (∃ e, unescape? e = some c ∧ escapedChar c = ['\\', e]) ∨
      (c.toNat < 0x20 ∧ escapedChar c =
        ['\\', 'u', '0', '0', hexDigit (c.toNat / 16), hexDigit (c.toNat % 16)]) ∨
      (c ≠ '"' ∧ c ≠ '\\' ∧ 0x20 ≤ c.toNat ∧ escapedChar c = [c]) := by
  unfold escapedChar
  split_ifs with hquote hb hf hn hr ht hcontrol
  · rcases hquote with rfl | rfl
    · exact Or.inl ⟨'"', rfl, rfl⟩
    · exact Or.inl ⟨'\\', rfl, rfl⟩
  · exact Or.inl ⟨'b', by rw [hb]; rfl, rfl⟩
  · exact Or.inl ⟨'f', by rw [hf]; rfl, rfl⟩
  · exact Or.inl ⟨'n', by rw [hn]; rfl, rfl⟩
  · exact Or.inl ⟨'r', by rw [hr]; rfl, rfl⟩
  · exact Or.inl ⟨'t', by rw [ht]; rfl, rfl⟩
  · exact Or.inr (Or.inl ⟨hcontrol, rfl⟩)
  · rw [not_or] at hquote
    exact Or.inr (Or.inr ⟨hquote.1, hquote.2, by omega, rfl⟩)

lemma pieces_escapedChar (c : Char) :
    ∃ piece, (∀ ps, joined (piece :: ps) = (joined ps).map (c :: ·)) ∧ ∀ cs,
      pieces (escapedChar c ++ cs) =
        (pieces cs).map fun p => (piece :: p.1, p.2 + (escapedChar c).length) := by
  rcases escapedChar_cases c with ⟨e, he, h⟩ | ⟨hcontrol, h⟩ | ⟨hquote, hslash, hcontrol, h⟩
  · exact ⟨.char c, joined_char c, fun cs => by rw [h]; exact pieces_escape he cs⟩
  · refine ⟨.unit c.toNat, joined_control hcontrol, fun cs => ?_⟩
    rw [h]
    exact pieces_unit (hexUnit?_control hcontrol) cs
  · refine ⟨.char c, joined_char c, fun cs => ?_⟩
    rw [h]
    exact pieces_plain hquote hslash hcontrol cs

/-- A string is read back up to its closing quote. -/
theorem pieces_string (s rest : List Char) :
    ∃ ps, joined ps = some s ∧
      pieces (s.flatMap escapedChar ++ '"' :: rest) =
        some (ps, (s.flatMap escapedChar).length + 1) := by
  induction s with
  | nil => exact ⟨[], rfl, by rw [List.flatMap_nil, List.nil_append, pieces]; rfl⟩
  | cons c s ih =>
    obtain ⟨ps, hjoined, hpieces⟩ := ih
    obtain ⟨piece, hpiece, hescaped⟩ := pieces_escapedChar c
    refine ⟨piece :: ps, ?_, ?_⟩
    · rw [hpiece, hjoined]
      rfl
    · rw [List.flatMap_cons, List.append_assoc, hescaped, hpieces, List.length_append]
      simp only [Option.map_some, Option.some.injEq, Prod.mk.injEq, true_and]
      omega

/-- What can follow a value in a text: nothing, or a separator or closing bracket. -/
def Delimited (rest : List Char) : Prop := ∀ c ∈ rest.head?, c = ',' ∨ c = ']' ∨ c = '\x7d'

lemma digitRun_append {ds rest : List Char} (hds : ∀ c ∈ ds, c.isDigit) (hrest : Delimited rest) :
    digitRun (ds ++ rest) = (ds.map digitValue, rest) := by
  have hstop : rest.takeWhile Char.isDigit = [] ∧ rest.dropWhile Char.isDigit = rest := by
    cases rest with
    | nil => exact ⟨rfl, rfl⟩
    | cons c rest =>
      have hc : c.isDigit = false := by
        rcases hrest c rfl with rfl | rfl | rfl <;> rfl
      simp [hc]
  rw [digitRun, List.takeWhile_append_of_pos hds, List.dropWhile_append_of_pos hds, hstop.1,
    hstop.2, List.append_nil]

lemma fractionPart_of_delimited {rest : List Char} (hrest : Delimited rest) :
    fractionPart rest = some (none, rest) := by
  cases rest with
  | nil => rfl
  | cons c rest => rcases hrest c rfl with rfl | rfl | rfl <;> rfl

lemma exponentPart_of_delimited {rest : List Char} (hrest : Delimited rest) :
    exponentPart rest = some (none, rest) := by
  cases rest with
  | nil => rfl
  | cons c rest => rcases hrest c rfl with rfl | rfl | rfl <;> rfl

lemma isDigit_digitsText {n : ℕ} {c : Char} (hc : c ∈ Number.digitsText n) : c.isDigit :=
  Nat.isDigit_of_mem_toDigits (by decide) (by decide) hc

/-- Only zero is written with a zero in front. -/
lemma digitsText_eq_cons {n : ℕ} (hn : 0 < n) :
    ∃ c cs, Number.digitsText n = c :: cs ∧ digitValue c ≠ 0 := by
  induction n using Nat.strongRecOn with
  | ind n ih =>
    by_cases hlt : n < 10
    · refine ⟨n.digitChar, [], Nat.toDigits_of_lt_base hlt, ?_⟩
      have hvalue : digitValue n.digitChar = n := Nat.toNat_digitChar_sub_48_of_lt_ten hlt
      omega
    · obtain ⟨c, cs, h, hc⟩ := ih (n / 10) (by omega) (by omega)
      refine ⟨c, cs ++ [(n % 10).digitChar], ?_, hc⟩
      rw [Number.digitsText, Nat.toDigits_of_base_le (by decide) (by omega)]
      rw [Number.digitsText] at h
      rw [h, List.cons_append]

lemma foldl_digitsText (n : ℕ) :
    ((Number.digitsText n).map digitValue).foldl (fun n d => n * 10 + d) 0 = n := by
  have h : Nat.ofDigitChars 10 (Number.digitsText n) 0 = n := Nat.ofDigitChars_ten_toDigits
  rw [Nat.ofDigitChars_eq_foldl] at h
  rw [List.foldl_map]
  refine Eq.trans ?_ h
  congr 1
  funext m c
  rw [Nat.mul_comm]
  rfl

lemma wholePart_digitsText (n : ℕ) {rest : List Char} (hrest : Delimited rest) :
    wholePart (Number.digitsText n ++ rest) =
      some ((Number.digitsText n).map digitValue, rest) := by
  rw [wholePart, digitRun_append (fun _ => isDigit_digitsText) hrest]
  rcases Nat.eq_zero_or_pos n with rfl | hn
  · rfl
  · obtain ⟨c, cs, h, hc⟩ := digitsText_eq_cons hn
    rw [h, List.map_cons]
    split <;> simp_all

lemma unsigned_digitsText (negative : Bool) (n : ℕ) {rest : List Char} (hrest : Delimited rest) :
    unsigned negative (Number.digitsText n ++ rest) =
      some (⟨negative, (Number.digitsText n).map digitValue, none, none⟩, rest) := by
  rw [unsigned, wholePart_digitsText n hrest]
  simp [fractionPart_of_delimited hrest, exponentPart_of_delimited hrest]

lemma digitsText_ne_minus (n : ℕ) (rest : List Char) :
    ∀ cs, Number.digitsText n ++ rest ≠ '-' :: cs := by
  intro cs h
  obtain ⟨c, ds, hds⟩ := List.exists_cons_of_ne_nil (Nat.toDigits_ne_nil (n := n) (b := 10))
  have hc : c.isDigit := isDigit_digitsText (n := n) (by rw [Number.digitsText, hds]; simp)
  rw [Number.digitsText, hds, List.cons_append, List.cons.injEq] at h
  rw [h.1] at hc
  exact absurd hc (by decide)

lemma numeral_of_ne_minus {cs : List Char} (h : ∀ rest, cs ≠ '-' :: rest) :
    numeral cs = (unsigned false cs).map fun (n, rest) => (n, cs.length - rest.length) := by
  unfold numeral
  split
  · exact absurd rfl (h _)
  · rfl

lemma wholeText_eq_cons (i : ℤ) :
    ∃ c cs, Number.wholeText i = c :: cs ∧ (c = '-' ∨ c.isDigit) := by
  unfold Number.wholeText
  split_ifs
  · exact ⟨'-', _, rfl, Or.inl rfl⟩
  · obtain ⟨c, cs, h⟩ := List.exists_cons_of_ne_nil (Nat.toDigits_ne_nil (n := i.natAbs) (b := 10))
    have hc : c ∈ Number.digitsText i.natAbs := by
      rw [Number.digitsText, h]
      exact List.mem_cons_self
    exact ⟨c, cs, h, Or.inr (isDigit_digitsText hc)⟩

/-- A whole number is read back, whatever sign it has. -/
theorem numeral_wholeText (i : ℤ) {rest : List Char} (hrest : Delimited rest) :
    numeral (Number.wholeText i ++ rest) =
      some (⟨i < 0, (Number.digitsText i.natAbs).map digitValue, none, none⟩,
        (Number.wholeText i).length) := by
  unfold Number.wholeText
  split_ifs with hi
  · rw [List.cons_append, numeral]
    simp only [unsigned_digitsText true _ hrest, hi]
    simp
    omega
  · rw [numeral_of_ne_minus fun cs => digitsText_ne_minus _ _ cs,
      unsigned_digitsText false _ hrest]
    simp [hi]

lemma ofNumeral?_wholeText {i : ℤ} (hleast : Number.least ≤ i) (hgreatest : i ≤ Number.greatest) :
    Number.ofNumeral? ⟨i < 0, (Number.digitsText i.natAbs).map digitValue, none, none⟩ =
      some (.whole i) := by
  have hdigits : Number.ofDigits? (i < 0) ((Number.digitsText i.natAbs).map digitValue) =
      some i := by
    rw [Number.ofDigits?, foldl_digitsText]
    by_cases hi : i < 0
    · have hvalue : -((i.natAbs : ℕ) : ℤ) = i := by omega
      have hpos : 0 < i.natAbs := by omega
      simp only [hi, decide_true, if_true, hvalue, hpos, hleast, and_self]
    · have hvalue : ((i.natAbs : ℕ) : ℤ) = i := by omega
      simp only [hi, decide_false, Bool.false_eq_true, if_false, hvalue, hgreatest, if_true]
  simp [Number.ofNumeral?, hdigits]

lemma at?_numeral {c : Char} {cs : List Char} {n : Decimal.Numeral} {length : ℕ}
    (hc : c = '-' ∨ c.isDigit) (h : numeral (c :: cs) = some (n, length)) :
    at? c cs = (.number (Number.ofNumeral? n), length - 1) := by
  have hne : ∀ d ∈ ['[', ']', '\x7b', '\x7d', ',', ':', '"', 'n', 't', 'f'], c ≠ d := by
    rintro d hd rfl
    rcases hc with rfl | hc
    · simp at hd
    · simp only [List.mem_cons, List.not_mem_nil, or_false] at hd
      rcases hd with rfl | rfl | rfl | rfl | rfl | rfl | rfl | rfl | rfl | rfl <;> cases hc
  have hword : ∀ d word, c ≠ d → (d :: word).isPrefixOf (c :: cs) = false := by
    intro d word hd
    simp [List.isPrefixOf, hd.symm]
  unfold at?
  split
  case h_8 =>
    have hnull : "null".toList.isPrefixOf (c :: cs) = false := hword 'n' _ (hne _ (by simp))
    have htrue : "true".toList.isPrefixOf (c :: cs) = false := hword 't' _ (hne _ (by simp))
    have hfalse : "false".toList.isPrefixOf (c :: cs) = false := hword 'f' _ (hne _ (by simp))
    simp only [hnull, htrue, hfalse, h, Bool.false_eq_true, if_false]
  all_goals exact absurd rfl (hne _ (by simp))

lemma scan_skip (cs rest : List Char) : scan cs.length (cs ++ rest) = scan 0 rest := by
  induction cs with
  | nil => rfl
  | cons c cs ih => exact ih

lemma scan_of_at? {c : Char} {rest : List Char} {lexeme : Lexeme} (cs : List Char)
    (h : at? c (cs ++ rest) = (lexeme, cs.length)) (hspace : isSpace c = false)
    (hfault : lexeme ≠ .fault) : scan 0 (c :: cs ++ rest) = lexeme :: scan 0 rest := by
  rw [List.cons_append, scan, hspace, h]
  cases lexeme with
  | fault => exact absurd rfl hfault
  | _ => simp only [Bool.false_eq_true, if_false, scan_skip]

lemma scan_null (rest : List Char) :
    scan 0 ("null".toList ++ rest) = .null :: scan 0 rest :=
  scan_of_at? ['u', 'l', 'l'] rfl rfl nofun

lemma scan_bool (b : Bool) (rest : List Char) :
    scan 0 ((if b then "true" else "false").toList ++ rest) = .bool b :: scan 0 rest := by
  cases b with
  | true => exact scan_of_at? ['r', 'u', 'e'] rfl rfl nofun
  | false => exact scan_of_at? ['a', 'l', 's', 'e'] rfl rfl nofun

lemma scan_string (s : String) (rest : List Char) :
    scan 0 (stringChars s ++ rest) = .string (some s) :: scan 0 rest := by
  obtain ⟨ps, hjoined, hpieces⟩ := pieces_string s.toList rest
  refine scan_of_at? (s.toList.flatMap escapedChar ++ ['"']) ?_ rfl nofun
  rw [List.append_assoc, List.singleton_append, at?, hpieces]
  simp [hjoined]

lemma scan_number {i : ℤ} (hleast : Number.least ≤ i) (hgreatest : i ≤ Number.greatest)
    {rest : List Char} (hrest : Delimited rest) :
    scan 0 (Number.wholeText i ++ rest) = .number (some (.whole i)) :: scan 0 rest := by
  have hnumeral := numeral_wholeText i hrest
  obtain ⟨c, cs, htext, hc⟩ := wholeText_eq_cons i
  rw [htext, List.cons_append] at hnumeral
  rw [htext]
  refine scan_of_at? cs ?_ ?_ nofun
  · rw [at?_numeral hc hnumeral, ofNumeral?_wholeText hleast hgreatest]
    rfl
  · rcases hc with rfl | hc
    · rfl
    · by_contra hspace
      simp only [isSpace, Bool.not_eq_false, Bool.or_eq_true, beq_iff_eq] at hspace
      rcases hspace with ((rfl | rfl) | rfl) | rfl <;> cases hc

end SwiftClient.Json.Lexeme
