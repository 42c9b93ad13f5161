import SwiftClient.Proofs.Json.Lexing
import SwiftClient.Proofs.Json.Spelling

/-!
# Drafts of written values

The text of a value without doubles consists of the lexemes of the value, which are those of its
draft, and nothing follows it.
-/
namespace SwiftClient.Json

mutual

/-- All numbers of the value are whole and fit in 64 bits. -/
def WithoutDoubles : Json → Prop
  | .number (.whole i) => Number.least ≤ i ∧ i ≤ Number.greatest
  | .number (.double _) => False
  | .array items => ItemsWithoutDoubles items
  | .object fields => FieldsWithoutDoubles fields
  | _ => True

def ItemsWithoutDoubles : List Json → Prop
  | [] => True
  | item :: rest => WithoutDoubles item ∧ ItemsWithoutDoubles rest

def FieldsWithoutDoubles : List (String × Json) → Prop
  | [] => True
  | (_, value) :: rest => WithoutDoubles value ∧ FieldsWithoutDoubles rest

end

mutual

def lexemes : Json → List Lexeme
  | .null => [.null]
  | .bool b => [.bool b]
  | .number n => [.number (some n)]
  | .string s => [.string (some s)]
  | .array items => .openArray :: itemLexemes items ++ [.closeArray]
  | .object fields => .openObject :: fieldLexemes fields ++ [.closeObject]

def itemLexemes : List Json → List Lexeme
  | [] => []
  | [item] => lexemes item
  | item :: next :: rest => lexemes item ++ .comma :: itemLexemes (next :: rest)

def fieldLexemes : List (String × Json) → List Lexeme
  | [] => []
  | [(key, value)] => .string (some key) :: .colon :: lexemes value
  | (key, value) :: next :: rest =>
    .string (some key) :: .colon :: lexemes value ++ .comma :: fieldLexemes (next :: rest)

end

namespace Lexeme

lemma delimited_cons {c : Char} (h : c = ',' ∨ c = ']' ∨ c = '\x7d') (rest : List Char) :
    Delimited (c :: rest) := by
  intro d hd
  obtain rfl : c = d := by simpa using hd
  exact h

section Marks

variable (rest : List Char)

lemma scan_openArray : scan 0 ('[' :: rest) = .openArray :: scan 0 rest := rfl

lemma scan_closeArray : scan 0 (']' :: rest) = .closeArray :: scan 0 rest := rfl

lemma scan_openObject : scan 0 ('\x7b' :: rest) = .openObject :: scan 0 rest := rfl

lemma scan_closeObject : scan 0 ('\x7d' :: rest) = .closeObject :: scan 0 rest := rfl

lemma scan_comma : scan 0 (',' :: rest) = .comma :: scan 0 rest := rfl

lemma scan_colon : scan 0 (':' :: rest) = .colon :: scan 0 rest := rfl

end Marks

mutual

theorem scan_chars : ∀ (v : Json), v.WithoutDoubles → ∀ rest, Delimited rest →
    scan 0 (v.chars ++ rest) = v.lexemes ++ scan 0 rest
  | .null, _, rest, _ => scan_null rest
  | .bool b, _, rest, _ => scan_bool b rest
  | .number (.whole i), h, rest, hrest => scan_number h.1 h.2 hrest
  | .string s, _, rest, _ => scan_string s rest
  | .array items, h, rest, _ => by
    have hclose : Delimited (']' :: rest) := delimited_cons (by simp) rest
    have hitems := scan_itemChars items h (']' :: rest) hclose
    rw [scan_closeArray] at hitems
    simp only [chars, lexemes, List.cons_append, List.append_assoc, List.nil_append,
      scan_openArray, hitems]
  | .object fields, h, rest, _ => by
    have hclose : Delimited ('\x7d' :: rest) := delimited_cons (by simp) rest
    have hfields := scan_fieldChars fields h ('\x7d' :: rest) hclose
    rw [scan_closeObject] at hfields
    simp only [chars, lexemes, List.cons_append, List.append_assoc, List.nil_append,
      scan_openObject, hfields]

theorem scan_itemChars : ∀ (items : List Json), ItemsWithoutDoubles items → ∀ rest,
    Delimited rest → scan 0 (itemChars items ++ rest) = itemLexemes items ++ scan 0 rest
  | [], _, _, _ => rfl
  | [item], h, rest, hrest => scan_chars item h.1 rest hrest
  | item :: next :: others, h, rest, hrest => by
    have hothers := scan_itemChars (next :: others) h.2 rest hrest
    have hitem := scan_chars item h.1 (',' :: (itemChars (next :: others) ++ rest))
      (delimited_cons (by simp) _)
    rw [scan_comma, hothers] at hitem
    simpa only [itemChars, itemLexemes, List.cons_append, List.append_assoc] using hitem

theorem scan_fieldChars : ∀ (fields : List (String × Json)), FieldsWithoutDoubles fields →
    ∀ rest, Delimited rest →
      scan 0 (fieldChars fields ++ rest) = fieldLexemes fields ++ scan 0 rest
  | [], _, _, _ => rfl
  | [(key, value)], h, rest, hrest => by
    have hvalue := scan_chars value h.1 rest hrest
    simp only [fieldChars, fieldLexemes, List.cons_append, List.append_assoc, scan_string,
      scan_colon, hvalue]
  | (key, value) :: next :: others, h, rest, hrest => by
    have hothers := scan_fieldChars (next :: others) h.2 rest hrest
    have hvalue := scan_chars value h.1 (',' :: (fieldChars (next :: others) ++ rest))
      (delimited_cons (by simp) _)
    rw [scan_comma, hothers] at hvalue
    simp only [fieldChars, fieldLexemes, List.cons_append, List.append_assoc, scan_string,
      scan_colon, hvalue]

end

end Lexeme

namespace Draft

mutual

lemma isWhole_ofJson : ∀ v : Json, (ofJson v).isWhole
  | .null | .bool _ | .number _ | .string _ => rfl
  | .array items => areWhole_ofItems items
  | .object fields => fieldsAreWhole_ofFields fields

lemma areWhole_ofItems : ∀ items : List Json, areWhole (ofItems items)
  | [] => rfl
  | item :: rest => by
    rw [ofItems, areWhole, isWhole_ofJson item, areWhole_ofItems rest]
    rfl

lemma fieldsAreWhole_ofFields : ∀ fields : List (String × Json), fieldsAreWhole (ofFields fields)
  | [] => rfl
  | (key, value) :: rest => by
    rw [ofFields, fieldsAreWhole, isWhole_ofJson value, fieldsAreWhole_ofFields rest]
    rfl

end

mutual

lemma lexemes_ofJson : ∀ v : Json, (ofJson v).lexemes = v.lexemes
  | .null | .bool _ | .number _ | .string _ => rfl
  | .array items => by rw [ofJson, lexemes, lexemesOfItems_ofItems items, Json.lexemes]
  | .object fields => by rw [ofJson, lexemes, lexemesOfFields_ofFields fields, Json.lexemes]

lemma lexemesOfItems_ofItems : ∀ items : List Json,
    lexemesOfItems (ofItems items) = itemLexemes items
  | [] => rfl
  | [item] => lexemes_ofJson item
  | item :: next :: rest => by
    have hrest := lexemesOfItems_ofItems (next :: rest)
    rw [ofItems] at hrest
    rw [ofItems, ofItems, lexemesOfItems, hrest, lexemes_ofJson item, itemLexemes]

lemma lexemesOfFields_ofFields : ∀ fields : List (String × Json),
    lexemesOfFields (ofFields fields) = fieldLexemes fields
  | [] => rfl
  | [(key, value)] => by
    rw [ofFields, ofFields, lexemesOfFields, lexemes_ofJson value, fieldLexemes]
  | (key, value) :: (key', value') :: rest => by
    have hrest := lexemesOfFields_ofFields ((key', value') :: rest)
    rw [ofFields] at hrest
    rw [ofFields, ofFields, lexemesOfFields, hrest, lexemes_ofJson value, fieldLexemes]

end

/-- The text of a value has the draft of the value. -/
theorem ofText_text {v : Json} (h : v.WithoutDoubles) : ofText v.text = (ofJson v, true) := by
  have hscan := Lexeme.scan_chars v h [] (by simp [Lexeme.Delimited])
  rw [List.append_nil, Lexeme.scan, List.append_nil] at hscan
  rw [ofText_eq_clean_iff, Lexeme.ofText, text, String.toList_ofList, hscan]
  exact ⟨isWhole_ofJson v, (lexemes_ofJson v).symm⟩

end Draft

end SwiftClient.Json
