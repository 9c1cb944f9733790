/-
  ApiPlaybook.Url.Form
  ────────────────────
  **NAMES AND VALUES IN A QUERY.**

  A query, or the body of a submitted form, holds names with values:
  `name=value&name=value`.  A blank is written as a plus sign, letters, digits
  and a few marks as they are, and everything else escaped.  A pair that was
  appended is read back behind the earlier ones (`formPairs_appendPair`).
-/
import ApiPlaybook.Text.Blank
import ApiPlaybook.Url.Percent

namespace ApiPlaybook.Url

/-! ## §1. Writing. -/

/-- Written as they are. -/
def isPlainInForm (c : Char) : Bool := c.isAlphanum || "*-._".toList.contains c

/-- A name or value as it is written. -/
def formText (cs : List Char) : List Char :=
  cs.flatMap fun c =>
    if c = ' ' then ['+'] else if isPlainInForm c then [c] else escapedChar c

/-- A pair as it is written. -/
def pairText (name value : String) : List Char :=
  formText name.toList ++ '=' :: formText value.toList

/-- Pairs with one more behind them. -/
def appendPair (text : List Char) (name value : String) : List Char :=
  if text.isEmpty then pairText name value else text ++ '&' :: pairText name value

/-- A list of pairs as it is written. -/
def formOfPairs (pairs : List (String × String)) : List Char :=
  pairs.foldl (fun text p => appendPair text p.1 p.2) []

/-! ## §2. Reading. -/

/-- A plus sign stands for a blank. -/
def plusToBlank (c : Char) : Char := if c = '+' then ' ' else c

/-- A name or value from the way it is written. -/
def formValue (cs : List Char) : String :=
  String.ofList (utf8Text (percentDecode (cs.map plusToBlank)))

/-- One pair; without an equals sign the value is empty. -/
def formPair (cs : List Char) : String × String :=
  match splitFirst '=' cs with
  | some (name, value) => (formValue name, formValue value)
  | none => (formValue cs, "")

/-- The pairs of a text; empty parts are passed over. -/
def formPairs (text : List Char) : List (String × String) :=
  ((splitAll '&' text).filter fun part => !part.isEmpty).map formPair

/-! ## §3. Reading what was written. -/

theorem hexDigit_ne_plus {n : Nat} (h : n < 16) : hexDigit n ≠ '+' :=
  (by decide : ∀ n < 16, hexDigit n ≠ '+') n h

/-- Escaped bytes have no plus sign, so none is taken for a blank. -/
theorem plusToBlank_escapedBytes {bs : List Nat} (h : ∀ b ∈ bs, b < 256) :
    (bs.flatMap escapedByte).map plusToBlank = bs.flatMap escapedByte := by
  induction bs with
  | nil => rfl
  | cons b bs ih =>
    have hb := h b List.mem_cons_self
    rw [List.flatMap_cons, List.map_append, ih fun b' hb' => h b' (List.mem_cons_of_mem _ hb')]
    simp [escapedByte, plusToBlank, hexDigit_ne_plus (show b / 16 < 16 by omega),
      hexDigit_ne_plus (show b % 16 < 16 by omega)]

theorem plusToBlank_escapedChar (c : Char) :
    (escapedChar c).map plusToBlank = escapedChar c :=
  plusToBlank_escapedBytes fun _ hb => utf8Char_lt hb

/-- The text of a form is decoded to the bytes it was made of. -/
theorem percentDecode_formText (cs rest : List Char) :
    percentDecode ((formText cs).map plusToBlank ++ rest) = utf8Bytes cs ++ percentDecode rest := by
  induction cs with
  | nil => rfl
  | cons c cs ih =>
    have e : formText (c :: cs)
        = (if c = ' ' then ['+'] else if isPlainInForm c then [c] else escapedChar c)
          ++ formText cs := rfl
    have e' : utf8Bytes (c :: cs) = utf8Char c ++ utf8Bytes cs := by simp [utf8Bytes]
    rw [e, e', List.map_append, List.append_assoc, List.append_assoc]
    split
    · next h =>
      subst h
      rw [List.map_cons, List.map_nil, show plusToBlank '+' = ' ' from rfl, List.cons_append,
        List.nil_append, percentDecode_cons (by decide), ih]
    split
    · next h hp =>
      have hplus : c ≠ '+' := by rintro rfl; exact absurd hp (by decide)
      have hpercent : c ≠ '%' := by rintro rfl; exact absurd hp (by decide)
      rw [List.map_cons, List.map_nil, plusToBlank, if_neg hplus, List.cons_append,
        List.nil_append, percentDecode_cons hpercent, ih]
    · rw [plusToBlank_escapedChar, percentDecode_escapedChar, ih]

/-- A name or value is read back. -/
theorem formValue_formText (s : String) : formValue (formText s.toList) = s := by
  have h := percentDecode_formText s.toList []
  rw [List.append_nil, show percentDecode [] = [] from rfl, List.append_nil] at h
  rw [formValue, h, utf8Text_utf8Bytes, String.ofList_toList]

theorem hexDigit_ne_separator {n : Nat} (h : n < 16) : hexDigit n ≠ '&' ∧ hexDigit n ≠ '=' :=
  (by decide : ∀ n < 16, hexDigit n ≠ '&' ∧ hexDigit n ≠ '=') n h

/-- An escaped character brings in no separator of pairs. -/
theorem escapedChar_no_separator {c d : Char} (h : d ∈ escapedChar c) : d ≠ '&' ∧ d ≠ '=' := by
  rcases mem_escapedChar h with rfl | ⟨n, hn, rfl⟩
  · decide
  · exact hexDigit_ne_separator hn

/-- No separator stands in a written name or value. -/
theorem formText_no_separator {cs : List Char} {d : Char} (h : d ∈ formText cs) :
    d ≠ '&' ∧ d ≠ '=' := by
  obtain ⟨c, _, hd⟩ := List.mem_flatMap.1 h
  split at hd
  · simp only [List.mem_singleton] at hd; subst hd; decide
  split at hd
  · next hp =>
    simp only [List.mem_singleton] at hd
    subst hd
    constructor <;> rintro rfl <;> exact absurd hp (by decide)
  · exact escapedChar_no_separator hd

theorem splitAll_ne_nil (c : Char) (cs : List Char) : splitAll c cs ≠ [] := by
  cases cs with
  | nil => simp [splitAll]
  | cons d rest =>
    rw [splitAll]
    split
    · simp
    · split <;> simp

/-- A separator cuts a text in two, each of which is cut by itself. -/
theorem splitAll_append (c : Char) (a b : List Char) :
    splitAll c (a ++ c :: b) = splitAll c a ++ splitAll c b := by
  induction a with
  | nil => simp [splitAll]
  | cons d a ih =>
    rw [List.cons_append, splitAll, ih, splitAll.eq_def c (d :: a)]
    simp only
    split
    · rfl
    · cases h : splitAll c a with
      | nil => exact absurd h (splitAll_ne_nil c a)
      | cons part parts => rfl

/-- A text without separators is not cut. -/
theorem splitAll_of_not_mem {c : Char} {cs : List Char} (h : c ∉ cs) : splitAll c cs = [cs] := by
  induction cs with
  | nil => rfl
  | cons d rest ih =>
    have hd : d ≠ c := fun e => h (e ▸ List.mem_cons_self)
    rw [splitAll, if_neg hd, ih fun hm => h (List.mem_cons_of_mem _ hm)]

/-- A pair is read back from its text. -/
theorem formPair_pairText (name value : String) : formPair (pairText name value) = (name, value) := by
  rw [formPair, pairText, splitFirst_append _ fun h => (formText_no_separator h).2 rfl]
  simp [formValue_formText]

/-- The text of a pair has no separator of pairs. -/
theorem amp_not_mem_pairText (name value : String) : '&' ∉ pairText name value := by
  intro h
  rcases List.mem_append.1 h with h | h
  · exact (formText_no_separator h).1 rfl
  · rcases List.mem_cons.1 h with h | h
    · exact absurd h (by decide)
    · exact (formText_no_separator h).1 rfl

/-- A query of one pair has this pair. -/
theorem formPairs_pairText (name value : String) :
    formPairs (pairText name value) = [(name, value)] := by
  rw [formPairs, splitAll_of_not_mem (amp_not_mem_pairText name value)]
  have h : (pairText name value).isEmpty = false := by simp [pairText]
  simp [h, formPair_pairText]

/-- A pair that was appended is read back behind the earlier ones. -/
theorem formPairs_appendPair (text : List Char) (name value : String) :
    formPairs (appendPair text name value) = formPairs text ++ [(name, value)] := by
  unfold appendPair
  split
  · next h =>
    rw [List.isEmpty_iff.1 h, formPairs_pairText]
    rfl
  · rw [formPairs, splitAll_append, List.filter_append, List.map_append, ← formPairs,
      ← formPairs, formPairs_pairText]

end ApiPlaybook.Url
