/-
  ApiPlaybook.Proofs.Json.Text
  ────────────────────────────
  **TEXTS OF VALUES ARE READ BACK.**

  The text of a value, read again, has no flaw: it gives the draft of that very
  value (`JsonText.read_text`).  Two things are asked of the value.  It must not
  be nested deeper than a reader goes, and its numbers must be read back, each
  for itself (`Number.ReadsBack`): what stands behind a number in a text cannot
  change how it is read, since that is a comma, a bracket or nothing.
-/
import Mathlib.Data.List.TakeDrop
import Mathlib.Tactic.IntervalCases
import ApiPlaybook.Json.Printer
import ApiPlaybook.Json.Reader

namespace ApiPlaybook

/-! ## §1. What is asked of a value, and what is read. -/

namespace Json

mutual

/-- What is read of the text of a value. -/
def draft : Json → Draft
  | .null => .null
  | .bool b => .bool b
  | .number n => .number n
  | .string s => .string s
  | .array items => .array false (draftItems items) none
  | .object members => .object false (draftMembers members) none

def draftItems : List Json → List Draft
  | [] => []
  | item :: rest => item.draft :: draftItems rest

def draftMembers : List (String × Json) → List (Except Flaw String × Draft)
  | [] => []
  | (name, value) :: rest => (.ok name, value.draft) :: draftMembers rest

end

mutual

/-- How deep arrays and objects are nested. -/
def depth : Json → Nat
  | .array items => itemsDepth items + 1
  | .object members => membersDepth members + 1
  | _ => 0

def itemsDepth : List Json → Nat
  | [] => 0
  | item :: rest => max item.depth (itemsDepth rest)

def membersDepth : List (String × Json) → Nat
  | [] => 0
  | (_, value) :: rest => max value.depth (membersDepth rest)

end

end Json

/-- The text of a number is read to its end, and as that number. -/
def Number.ReadsBack (n : Number) : Prop :=
  JsonText.readValue 1 0 n.render = ⟨.number n, some []⟩

instance (n : Number) : Decidable n.ReadsBack :=
  let isNumber : JsonText.Piece Draft → Bool
    | ⟨.number m, some []⟩ => m == n
    | _ => false
  decidable_of_iff (isNumber (JsonText.readValue 1 0 n.render) = true) (by
    unfold Number.ReadsBack
    generalize JsonText.readValue 1 0 n.render = p
    constructor
    · intro h
      dsimp only [isNumber] at h
      split at h
      · rw [eq_of_beq h]
      · cases h
    · rintro rfl
      exact beq_self_eq_true n)

namespace Json

mutual

/-- Every number of a value is read back. -/
def NumbersReadBack : Json → Prop
  | .number n => n.ReadsBack
  | .array items => ItemsReadBack items
  | .object members => MembersReadBack members
  | _ => True

def ItemsReadBack : List Json → Prop
  | [] => True
  | item :: rest => item.NumbersReadBack ∧ ItemsReadBack rest

def MembersReadBack : List (String × Json) → Prop
  | [] => True
  | (_, value) :: rest => value.NumbersReadBack ∧ MembersReadBack rest

end

mutual

instance decidableNumbersReadBack : (j : Json) → Decidable j.NumbersReadBack
  | .number n => inferInstanceAs (Decidable n.ReadsBack)
  | .array items => decidableItemsReadBack items
  | .object members => decidableMembersReadBack members
  | .null | .bool _ | .string _ => isTrue trivial

instance decidableItemsReadBack : (items : List Json) → Decidable (ItemsReadBack items)
  | [] => isTrue trivial
  | item :: rest =>
    @instDecidableAnd _ _ (decidableNumbersReadBack item) (decidableItemsReadBack rest)

instance decidableMembersReadBack :
    (members : List (String × Json)) → Decidable (MembersReadBack members)
  | [] => isTrue trivial
  | (_, value) :: rest =>
    @instDecidableAnd _ _ (decidableNumbersReadBack value) (decidableMembersReadBack rest)

end

end Json

namespace JsonText

open Json (escapeChar quote renderItems renderMembers draftItems draftMembers)

/-! ## §2. Strings. -/

/-- A character is read back from its escaped form, whatever follows. -/
theorem readString_escapeChar (c : Char) (acc tail : List Char) :
    readString none .plain acc (escapeChar c ++ tail) = readString none .plain (c :: acc) tail := by
  by_cases hq : c = '"'
  · subst hq
    rfl
  by_cases hb : c = '\\'
  · subst hb
    rfl
  by_cases hc : c.toNat < 0x20
  · -- a control character is escaped by a letter or by four digits
    have control (k : Nat) (hk : k < 0x20) :
        readString none .plain acc (escapeChar (Char.ofNat k) ++ tail)
          = readString none .plain (Char.ofNat k :: acc) tail := by
      interval_cases k <;> rfl
    have hof : Char.ofNat c.toNat = c := Char.ofNat_toNat c
    rw [← hof]
    exact control c.toNat hc
  · have hplain : escapeChar c = [c] := by
      unfold escapeChar
      rw [if_neg hq, if_neg hb, if_neg hc]
    rw [hplain, List.singleton_append, readString]
    simp [hq, hb, hc]

/-- Character by character, an escaped text is read back up to its closing quote. -/
theorem readString_chars (cs acc rest : List Char) :
    readString none .plain acc (cs.flatMap escapeChar ++ '"' :: rest)
      = ⟨.ok (String.ofList (acc.reverse ++ cs)), some rest⟩ := by
  induction cs generalizing acc with
  | nil =>
    rw [List.append_nil]
    rfl
  | cons c cs ih =>
    rw [List.flatMap_cons, List.append_assoc, readString_escapeChar, ih, List.reverse_cons,
      List.append_assoc, List.singleton_append]

/-- A string is read back from its quoted form behind the opening quote. -/
theorem readString_quote (s : String) (rest : List Char) :
    readString none .plain [] (s.toList.flatMap escapeChar ++ '"' :: rest)
      = ⟨.ok s, some rest⟩ := by
  rw [readString_chars, List.reverse_nil, List.nil_append, String.ofList_toList]

/-! ## §3. Numbers. -/

/-- What may stand behind a value: nothing, a comma or a closing bracket. -/
def Ends (rest : List Char) : Prop :=
  rest = [] ∨ ∃ c more, rest = c :: more ∧ (c = ',' ∨ c = ']' ∨ c = '\x7d')

/-- The end of the text ends a number. -/
theorem Ends.nil : Ends [] := .inl rfl

/-- What stands behind a value does not continue digits. -/
theorem Ends.span_append {rest : List Char} (h : Ends rest) (cs : List Char) :
    (cs ++ rest).span Char.isDigit
      = ((cs.span Char.isDigit).1, (cs.span Char.isDigit).2 ++ rest) := by
  simp only [List.span_eq_takeWhile_dropWhile]
  induction cs with
  | nil =>
    rcases h with rfl | ⟨c, more, rfl, rfl | rfl | rfl⟩ <;> rfl
  | cons c cs ih =>
    obtain ⟨htake, hdrop⟩ := (Prod.mk.injEq ..).mp ih
    by_cases hc : c.isDigit
    · simp [hc, htake, hdrop]
    · simp [hc]

/-- What is wrong where digits should stand. -/
def noDigits (rest : List Char) : Piece (Except Flaw Number) :=
  ⟨.error (if rest.isEmpty then ⟨.eofInValue, some .invalidNumber⟩ else .fatal .invalidNumber),
    none⟩

/-- The sign of an exponent, and what follows it. -/
def exponentSign : List Char → Bool × List Char
  | '+' :: rest => (false, rest)
  | '-' :: rest => (true, rest)
  | rest => (false, rest)

/-- The end of a number, where an exponent may stand. -/
def readExponent (negative : Bool) (whole : List Char) (fraction : Option (List Char))
    (rest : List Char) : Piece (Except Flaw Number) :=
  match rest with
  | c :: r =>
    if c == 'e' || c == 'E' then
      let (minus, r) := exponentSign r
      let (digits, r) := r.span Char.isDigit
      if digits.isEmpty then noDigits r
      else
        let e : Int := (Nat.ofDigitChars 10 digits 0 : Nat)
        ⟨numberOfParts negative whole fraction (some (if minus then -e else e)), some r⟩
    else ⟨numberOfParts negative whole fraction none, some rest⟩
  | [] => ⟨numberOfParts negative whole fraction none, some []⟩

/-- A number behind its whole part, where a fraction may stand. -/
def readFraction (negative : Bool) (whole rest : List Char) : Piece (Except Flaw Number) :=
  match rest with
  | '.' :: r =>
    let (digits, r) := r.span Char.isDigit
    if digits.isEmpty then noDigits r else readExponent negative whole (some digits) r
  | _ => readExponent negative whole none rest

/-- A number is read part by part. -/
theorem readNumber_eq (negative : Bool) (cs : List Char) :
    readNumber negative cs =
      let (whole, rest) := cs.span Char.isDigit
      match whole with
      | [] => noDigits rest
      | '0' :: _ :: _ => ⟨.error (.fatal .invalidNumber), none⟩
      | _ => readFraction negative whole rest := rfl

section Numbers

variable {negative : Bool} {whole cs rest : List Char} {fraction : Option (List Char)}
  {n : Number}

/-- Where digits are missing, nothing was read to the end. -/
theorem noDigits_ne (cs : List Char) : noDigits cs ≠ ⟨.ok n, some []⟩ := nofun

/-- What ends a number is no sign of an exponent. -/
theorem Ends.exponentSign_append (h : Ends rest) (cs : List Char) :
    exponentSign (cs ++ rest) = ((exponentSign cs).1, (exponentSign cs).2 ++ rest) := by
  cases cs with
  | nil => rcases h with rfl | ⟨c, more, rfl, rfl | rfl | rfl⟩ <;> rfl
  | cons c cs =>
    by_cases hp : c = '+'
    · subst hp
      rfl
    by_cases hm : c = '-'
    · subst hm
      rfl
    simp [exponentSign, hp, hm]

/-- An exponent that is read to the end of a text is read in a longer one too. -/
theorem readExponent_append (hr : Ends rest)
    (h : readExponent negative whole fraction cs = ⟨.ok n, some []⟩) :
    readExponent negative whole fraction (cs ++ rest) = ⟨.ok n, some rest⟩ := by
  cases cs with
  | nil =>
    have hn : numberOfParts negative whole fraction none = .ok n := congrArg Piece.got h
    rcases hr with rfl | ⟨c, more, rfl, rfl | rfl | rfl⟩
    · exact h
    all_goals
      show (⟨numberOfParts negative whole fraction none, _⟩ : Piece _) = _
      rw [hn]
      rfl
  | cons c cs =>
    rw [List.cons_append]
    dsimp only [readExponent] at h ⊢
    by_cases he : (c == 'e' || c == 'E') = true
    · rw [if_pos he] at h ⊢
      rw [hr.exponentSign_append, hr.span_append]
      dsimp only at h ⊢
      split at h
      · exact absurd h (noDigits_ne _)
      · next hd =>
        obtain ⟨hn, hrest⟩ := (Piece.mk.injEq ..).mp h
        rw [if_neg hd, hn, Option.some.inj hrest, List.nil_append]
    · -- the number would end before its text does
      rw [if_neg he] at h
      cases (Piece.mk.injEq ..).mp h |>.2

/-- Behind the point there must be a digit. -/
theorem readFraction_point (negative : Bool) (whole cs : List Char) :
    readFraction negative whole ('.' :: cs) =
      if (cs.span Char.isDigit).1.isEmpty then noDigits (cs.span Char.isDigit).2
      else readExponent negative whole (some (cs.span Char.isDigit).1)
        (cs.span Char.isDigit).2 := rfl

/-- A fraction that is read to the end of a text is read in a longer one too. -/
theorem readFraction_append (hr : Ends rest)
    (h : readFraction negative whole cs = ⟨.ok n, some []⟩) :
    readFraction negative whole (cs ++ rest) = ⟨.ok n, some rest⟩ := by
  have hplain {cs : List Char} (hc : ∀ more, cs ≠ '.' :: more) :
      readFraction negative whole cs = readExponent negative whole none cs := by
    unfold readFraction
    split
    · next more => exact absurd rfl (hc more)
    · rfl
  by_cases hc : ∃ more, cs = '.' :: more
  · obtain ⟨more, rfl⟩ := hc
    rw [readFraction_point] at h
    rw [List.cons_append, readFraction_point, hr.span_append]
    dsimp only
    split at h
    · exact absurd h (noDigits_ne _)
    · next hd =>
      rw [if_neg hd]
      exact readExponent_append hr h
  · have hc (more : List Char) : cs ≠ '.' :: more := fun h => hc ⟨more, h⟩
    -- no point comes from what stands behind the number either
    have hc' (more : List Char) : cs ++ rest ≠ '.' :: more := by
      cases cs with
      | nil => rcases hr with rfl | ⟨c, more', rfl, rfl | rfl | rfl⟩ <;> simp
      | cons c cs =>
        intro h
        exact hc cs (by rw [(List.cons.inj h).1])
    rw [hplain hc] at h
    rw [hplain hc']
    exact readExponent_append hr h

/-- What stands behind a number does not change how it is read. -/
theorem readNumber_append (hr : Ends rest) (h : readNumber negative cs = ⟨.ok n, some []⟩) :
    readNumber negative (cs ++ rest) = ⟨.ok n, some rest⟩ := by
  rw [readNumber_eq] at h ⊢
  rw [hr.span_append]
  rcases hs : cs.span Char.isDigit with ⟨whole, left⟩
  rw [hs] at h
  dsimp only at h ⊢
  split at h
  · exact absurd h (noDigits_ne _)
  · cases (Piece.mk.injEq ..).mp h |>.2
  · exact readFraction_append hr h

end Numbers

/-! ## §4. Values. -/

section Values

variable {steps depth : Nat} {cs rest : List Char}

/-- Behind blanks there are no blanks left. -/
theorem skipSpace_skipSpace (cs : List Char) : skipSpace (skipSpace cs) = skipSpace cs := by
  unfold skipSpace
  induction cs with
  | nil => rfl
  | cons c cs ih =>
    by_cases hc : isSpace c
    · simp [hc, ih]
    · simp [hc]

/-- Blanks in front are skipped, whatever stands behind. -/
theorem skipSpace_append {c : Char} {more : List Char} (h : skipSpace cs = c :: more)
    (rest : List Char) : skipSpace (cs ++ rest) = c :: (more ++ rest) := by
  unfold skipSpace at h ⊢
  induction cs with
  | nil => cases h
  | cons d cs ih =>
    by_cases hd : isSpace d
    · simp only [List.dropWhile_cons, hd, if_true] at h
      simpa [hd] using ih h
    · simp only [List.dropWhile_cons, hd] at h
      cases h
      simp [hd]

/-- Blanks in front of a value are of no account. -/
theorem readValue_skipSpace (steps depth : Nat) (cs : List Char) :
    readValue steps depth (skipSpace cs) = readValue steps depth cs := by
  cases steps with
  | zero => rfl
  | succ steps => simp only [readValue, skipSpace_skipSpace]

/-- Where a value can be read there is something, and no closing bracket. -/
theorem exists_of_readValue {d : Draft} (h : readValue steps depth cs = ⟨d, some rest⟩) :
    ∃ c more, skipSpace cs = c :: more ∧ c ≠ ']' := by
  cases steps with
  | zero => cases h
  | succ steps =>
    cases hs : skipSpace cs with
    | nil =>
      simp only [readValue, hs] at h
      cases h
    | cons c more =>
      refine ⟨c, more, rfl, ?_⟩
      rintro rfl
      simp only [readValue, hs] at h
      cases h

/-- A word is read as what it stands for, or as a flaw. -/
theorem readWord_got (d : Draft) (word cs : List Char) :
    (readWord d word cs).got = d ∨ ∃ f, (readWord d word cs).got = .flawed f := by
  induction word generalizing cs with
  | nil => exact .inl rfl
  | cons w ws ih =>
    cases cs with
    | nil => exact .inr ⟨_, rfl⟩
    | cons c cs =>
      unfold readWord
      split
      · exact ih cs
      · exact .inr ⟨_, rfl⟩

theorem readValue_minus {more : List Char} (hs : skipSpace cs = '-' :: more)
    (steps depth : Nat) :
    readValue (steps + 1) depth cs = (readNumber true more).toDraft := by
  simp only [readValue, hs]

theorem readValue_digit {c : Char} {more : List Char} (hs : skipSpace cs = c :: more)
    (hc : c.isDigit = true) (steps depth : Nat) :
    readValue (steps + 1) depth cs = (readNumber false (c :: more)).toDraft := by
  simp only [readValue, hs]
  split <;> first | exact absurd hc (by decide) | rw [if_pos hc]

/-- What is read as a number starts with its sign or with a digit. -/
theorem number_start {c : Char} {more : List Char} {n : Number} (hs : skipSpace cs = c :: more)
    (h : readValue 1 depth cs = ⟨.number n, some []⟩) : c = '-' ∨ c.isDigit = true := by
  have noWord {d : Draft} {word : List Char}
      (h : readWord d word more = ⟨.number n, some []⟩) (hd : d ≠ .number n) : False := by
    rcases readWord_got d word more with hg | ⟨f, hg⟩
    · rw [h] at hg
      exact hd hg.symm
    · rw [h] at hg
      cases hg
  simp only [readValue, hs] at h
  split at h
  · exact (noWord h nofun).elim
  · exact (noWord h nofun).elim
  · exact (noWord h nofun).elim
  · exact .inl rfl
  · -- a string is no number, and neither is one with a flaw
    have hgot := congrArg Piece.got h
    dsimp only at hgot
    split at hgot <;> cases hgot
  · cases h
  · cases h
  · split at h
    · next hd => exact .inr hd
    · cases h

/-- A draft of a number comes from a number that was read. -/
theorem readNumber_of_toDraft {p : Piece (Except Flaw Number)} {n : Number}
    {rest : Option (List Char)} (h : p.toDraft = ⟨.number n, rest⟩) : p = ⟨.ok n, rest⟩ := by
  obtain ⟨got, rest'⟩ := p
  cases got with
  | ok m =>
    cases h
    rfl
  | error f => cases h

/-- A number is read back within a text. -/
theorem readValue_number {n : Number} (hn : n.ReadsBack) (hr : Ends rest) (steps depth : Nat) :
    readValue (steps + 1) depth (n.render ++ rest) = ⟨.number n, some rest⟩ := by
  unfold Number.ReadsBack at hn
  obtain ⟨c, more, hs, -⟩ := exists_of_readValue hn
  have hs' := skipSpace_append hs rest
  by_cases hminus : c = '-'
  · subst hminus
    rw [readValue_minus hs] at hn
    rw [readValue_minus hs', readNumber_append hr (readNumber_of_toDraft hn)]
    rfl
  · have hdigit : c.isDigit = true := (number_start hs hn).resolve_left hminus
    rw [readValue_digit hs hdigit] at hn
    rw [readValue_digit hs' hdigit, ← List.cons_append,
      readNumber_append hr (readNumber_of_toDraft hn)]
    rfl

/-- Behind an opening bracket the first item is read as a value. -/
theorem readItems_first {d : Draft} (h : readValue steps depth cs = ⟨d, some rest⟩) :
    readItems (steps + 1) depth true cs =
      ⟨(d :: (readItems steps depth false rest).got.1, (readItems steps depth false rest).got.2),
        (readItems steps depth false rest).rest⟩ := by
  obtain ⟨c, more, hs, hc⟩ := exists_of_readValue h
  rw [← readValue_skipSpace, hs] at h
  simp only [readItems, hs, beq_iff_eq, if_neg hc, if_true, h]

/-- Behind a comma the next item is. -/
theorem readItems_next {d : Draft} (h : readValue steps depth cs = ⟨d, some rest⟩) :
    readItems (steps + 1) depth false (',' :: cs) =
      ⟨(d :: (readItems steps depth false rest).got.1, (readItems steps depth false rest).got.2),
        (readItems steps depth false rest).rest⟩ := by
  obtain ⟨c, more, hs, hc⟩ := exists_of_readValue h
  rw [← readValue_skipSpace, hs] at h
  have hcomma : skipSpace (',' :: cs) = ',' :: cs := rfl
  simp only [readItems, hcomma, hs, beq_iff_eq, if_neg hc, h]
  rfl

/-- A member is a name, a colon and a value. -/
theorem readMembers_first {d : Draft} (name : String)
    (h : readValue steps depth cs = ⟨d, some rest⟩) :
    readMembers (steps + 1) depth true (quote name ++ ':' :: cs) =
      ⟨((.ok name, d) :: (readMembers steps depth false rest).got.1,
        (readMembers steps depth false rest).got.2),
        (readMembers steps depth false rest).rest⟩ := by
  have hquote : quote name ++ ':' :: cs
      = '"' :: (name.toList.flatMap escapeChar ++ '"' :: ':' :: cs) := by
    simp [quote]
  have hs : skipSpace (quote name ++ ':' :: cs)
      = '"' :: (name.toList.flatMap escapeChar ++ '"' :: ':' :: cs) := by
    rw [hquote]
    rfl
  have hcolon : skipSpace (':' :: cs) = ':' :: cs := rfl
  simp only [readMembers, hs, readString_quote, hcolon, h]
  rfl

/-- A further member is read behind its comma. -/
theorem readMembers_next {d : Draft} (name : String)
    (h : readValue steps depth cs = ⟨d, some rest⟩) :
    readMembers (steps + 1) depth false (',' :: (quote name ++ ':' :: cs)) =
      ⟨((.ok name, d) :: (readMembers steps depth false rest).got.1,
        (readMembers steps depth false rest).got.2),
        (readMembers steps depth false rest).rest⟩ := by
  have hquote : quote name ++ ':' :: cs
      = '"' :: (name.toList.flatMap escapeChar ++ '"' :: ':' :: cs) := by
    simp [quote]
  have hcomma (cs : List Char) : skipSpace (',' :: cs) = ',' :: cs := rfl
  have hs (cs : List Char) : skipSpace ('"' :: cs) = '"' :: cs := rfl
  have hcolon : skipSpace (':' :: cs) = ':' :: cs := rfl
  rw [hquote]
  simp only [readMembers, hcomma, hs, readString_quote, hcolon, h]
  rfl

end Values

/-! ## §5. Whole texts. -/

/-- Behind an item a comma or a bracket ends its number. -/
theorem ends_renderItems (items : List Json) (rest : List Char) :
    Ends (renderItems items ++ rest) := by
  cases items with
  | nil => exact .inr ⟨']', rest, rfl, .inr (.inl rfl)⟩
  | cons item items => exact .inr ⟨',', _, rfl, .inl rfl⟩

theorem ends_renderMembers (members : List (String × Json)) (rest : List Char) :
    Ends (renderMembers members ++ rest) := by
  cases members with
  | nil => exact .inr ⟨'\x7d', rest, rfl, .inr (.inr rfl)⟩
  | cons member members => exact .inr ⟨',', _, rfl, .inl rfl⟩

/-- There is at least the closing bracket to read. -/
theorem renderItems_length_pos (items : List Json) : 0 < (renderItems items).length := by
  cases items <;> simp [renderItems]

/-- There is at least the closing brace to read. -/
theorem renderMembers_length_pos (members : List (String × Json)) :
    0 < (renderMembers members).length := by
  cases members with
  | nil => simp [renderMembers]
  | cons member members => simp [renderMembers]

/-- The text of a value is not empty. -/
theorem render_length_pos {j : Json} (hn : j.NumbersReadBack) : 0 < j.render.length := by
  cases j with
  | null => exact Nat.succ_pos _
  | bool b => cases b <;> exact Nat.succ_pos _
  | number n =>
    have hn : n.ReadsBack := hn
    obtain ⟨c, more, hs, -⟩ := exists_of_readValue hn
    refine List.length_pos_iff.mpr fun hnil => ?_
    rw [show n.render = [] from hnil] at hs
    cases hs
  | string s => exact Nat.succ_pos _
  | array items => cases items <;> exact Nat.succ_pos _
  | object members => cases members <;> exact Nat.succ_pos _

/-- An array that is not too deep. -/
theorem readValue_array {steps depth : Nat} {cs rest : List Char} {items : List Draft}
    (hdepth : depth < greatestDepth)
    (h : readItems steps (depth + 1) true cs = ⟨(items, none), some rest⟩) :
    readValue (steps + 1) depth ('[' :: cs) = ⟨.array false items none, some rest⟩ := by
  have hs : skipSpace ('[' :: cs) = '[' :: cs := rfl
  simp only [readValue, hs, h, decide_eq_false (Nat.not_lt_of_le hdepth)]

/-- An object that is not too deep. -/
theorem readValue_object {steps depth : Nat} {cs rest : List Char}
    {members : List (Except Flaw String × Draft)} (hdepth : depth < greatestDepth)
    (h : readMembers steps (depth + 1) true cs = ⟨(members, none), some rest⟩) :
    readValue (steps + 1) depth ('\x7b' :: cs) = ⟨.object false members none, some rest⟩ := by
  have hs : skipSpace ('\x7b' :: cs) = '\x7b' :: cs := rfl
  simp only [readValue, hs, h, decide_eq_false (Nat.not_lt_of_le hdepth)]

mutual

/-- The text of a value within a longer one. -/
theorem readValue_render (j : Json) (steps depth : Nat) (rest : List Char)
    (hn : j.NumbersReadBack) (hsteps : j.render.length ≤ steps)
    (hdepth : depth + j.depth ≤ greatestDepth) (hr : Ends rest) :
    readValue steps depth (j.render ++ rest) = ⟨j.draft, some rest⟩ := by
  obtain ⟨steps, rfl⟩ : ∃ s, steps = s + 1 :=
    Nat.exists_eq_succ_of_ne_zero (Nat.ne_of_gt ((render_length_pos hn).trans_le hsteps))
  -- by recursion over the value: each level takes a step from what is left and adds one to the
  -- depth
  match j with
  | .null => rfl
  | .bool true => rfl
  | .bool false => rfl
  | .number n => exact readValue_number hn hr steps depth
  | .string s =>
    have hread := readString_quote s rest
    have hquote : (Json.string s).render ++ rest
        = '"' :: (s.toList.flatMap escapeChar ++ '"' :: rest) := by
      simp [Json.render, quote]
    have hs (cs : List Char) : skipSpace ('"' :: cs) = '"' :: cs := rfl
    rw [hquote]
    simp only [readValue, hs, hread]
    rfl
  -- the step that reads the closing bracket
  | .array [] =>
    obtain ⟨steps, rfl⟩ : ∃ s, steps = s + 1 :=
      Nat.exists_eq_succ_of_ne_zero (Nat.ne_of_gt (Nat.le_of_succ_le_succ hsteps))
    exact readValue_array (Nat.lt_of_succ_le hdepth) rfl
  | .array (item :: items) =>
    obtain ⟨hitem, hitems⟩ := hn
    rw [Json.depth, Json.itemsDepth] at hdepth
    rw [Json.render, List.length_cons, List.length_append] at hsteps
    have hpos := render_length_pos hitem
    have hpos' := renderItems_length_pos items
    obtain ⟨steps, rfl⟩ : ∃ s, steps = s + 1 := ⟨steps - 1, by omega⟩
    -- the first item and those behind their commas
    have hfirst := readValue_render item steps (depth + 1) (renderItems items ++ rest) hitem
      (by omega) (by omega) (ends_renderItems items rest)
    have hrest := readItems_render items steps (depth + 1) rest hitems (by omega) (by omega)
    rw [Json.render, List.cons_append, List.append_assoc]
    refine readValue_array (by omega) ?_
    rw [readItems_first hfirst, hrest]
    rfl
  | .object [] =>
    obtain ⟨steps, rfl⟩ : ∃ s, steps = s + 1 :=
      Nat.exists_eq_succ_of_ne_zero (Nat.ne_of_gt (Nat.le_of_succ_le_succ hsteps))
    exact readValue_object (Nat.lt_of_succ_le hdepth) rfl
  | .object ((name, value) :: members) =>
    obtain ⟨hvalue, hmembers⟩ := hn
    rw [Json.depth, Json.membersDepth] at hdepth
    rw [Json.render, List.length_cons, List.length_append, List.length_cons,
      List.length_append] at hsteps
    have hpos := render_length_pos hvalue
    have hpos' := renderMembers_length_pos members
    obtain ⟨steps, rfl⟩ : ∃ s, steps = s + 1 := ⟨steps - 1, by omega⟩
    -- the first member and those behind their commas
    have hfirst := readValue_render value steps (depth + 1) (renderMembers members ++ rest)
      hvalue (by omega) (by omega) (ends_renderMembers members rest)
    have hrest := readMembers_render members steps (depth + 1) rest hmembers (by omega) (by omega)
    rw [Json.render, List.cons_append, List.append_assoc, List.cons_append, List.append_assoc]
    refine readValue_object (by omega) ?_
    rw [readMembers_first name hfirst, hrest]
    rfl

/-- The further items of an array are read back, up to its bracket. -/
theorem readItems_render (items : List Json) (steps depth : Nat) (rest : List Char)
    (hn : Json.ItemsReadBack items) (hsteps : (renderItems items).length ≤ steps)
    (hdepth : depth + Json.itemsDepth items ≤ greatestDepth) :
    readItems steps depth false (renderItems items ++ rest)
      = ⟨(draftItems items, none), some rest⟩ := by
  obtain ⟨steps, rfl⟩ : ∃ s, steps = s + 1 :=
    Nat.exists_eq_succ_of_ne_zero (Nat.ne_of_gt ((renderItems_length_pos items).trans_le hsteps))
  match items with
  | [] => rfl
  | item :: items =>
    obtain ⟨hitem, hitems⟩ := hn
    rw [Json.itemsDepth] at hdepth
    rw [renderItems, List.length_cons, List.length_append] at hsteps
    have hfirst := readValue_render item steps depth (renderItems items ++ rest) hitem
      (by omega) (by omega) (ends_renderItems items rest)
    have hrest := readItems_render items steps depth rest hitems (by omega) (by omega)
    rw [renderItems, List.cons_append, List.append_assoc, readItems_next hfirst, hrest]
    rfl

/-- The further members of an object are read back, up to its brace. -/
theorem readMembers_render (members : List (String × Json)) (steps depth : Nat)
    (rest : List Char) (hn : Json.MembersReadBack members)
    (hsteps : (renderMembers members).length ≤ steps)
    (hdepth : depth + Json.membersDepth members ≤ greatestDepth) :
    readMembers steps depth false (renderMembers members ++ rest)
      = ⟨(draftMembers members, none), some rest⟩ := by
  obtain ⟨steps, rfl⟩ : ∃ s, steps = s + 1 := Nat.exists_eq_succ_of_ne_zero
    (Nat.ne_of_gt ((renderMembers_length_pos members).trans_le hsteps))
  match members with
  | [] => rfl
  | (name, value) :: members =>
    obtain ⟨hvalue, hmembers⟩ := hn
    rw [Json.membersDepth] at hdepth
    rw [renderMembers, List.length_cons, List.length_append, List.length_cons,
      List.length_append] at hsteps
    have hfirst := readValue_render value steps depth (renderMembers members ++ rest) hvalue
      (by omega) (by omega) (ends_renderMembers members rest)
    have hrest := readMembers_render members steps depth rest hmembers (by omega) (by omega)
    rw [renderMembers, List.cons_append, List.append_assoc, List.cons_append, List.append_assoc,
      readMembers_next name hfirst, hrest]
    rfl

end

/-- **THE TEXT OF A VALUE IS READ BACK**, without a flaw and to its end. -/
theorem read_text {j : Json} (hn : j.NumbersReadBack) (hdepth : j.depth ≤ greatestDepth) :
    read j.text = ⟨j.draft, false⟩ := by
  have hread := readValue_render j (2 * j.render.length + 2) 0 [] hn (by omega) (by omega) .nil
  rw [List.append_nil] at hread
  unfold read Json.text ofChars
  rw [String.toList_ofList, hread]
  rfl

end JsonText

end ApiPlaybook
