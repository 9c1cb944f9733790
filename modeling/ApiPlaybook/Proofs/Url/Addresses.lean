/-
  ApiPlaybook.Proofs.Url.Addresses
  ────────────────────────────────
  **ADDRESSES ARE READ BACK.**

  An address of four bytes is written as four decimal numbers, and one of eight
  numbers in hexadecimal, with the first of the longest runs of zeros left out.
  What was read is in range (`ipv4?_lt`, `ipv6?_inRange`), and what is in range
  is read back as it was written (`ipv4?_text`, `ipv6?_ipv6Text`).
-/
import Mathlib.Tactic.Ring
import ApiPlaybook.Proofs.Url.Domains
import ApiPlaybook.Url.Basic

namespace ApiPlaybook.Url

/-- Parts with a mark between them are told apart. -/
theorem splitAll_intercalate {mark : Char} {parts : List (List Char)} (hsome : parts ≠ [])
    (h : ∀ part ∈ parts, mark ∉ part) : splitAll mark ([mark].intercalate parts) = parts := by
  induction parts with
  | nil => exact absurd rfl hsome
  | cons part rest ih =>
    have hpart : mark ∉ part := h part List.mem_cons_self
    by_cases hrest : rest = []
    · rw [hrest, List.intercalate_singleton, splitAll_of_not_mem hpart]
    · rw [List.intercalate_cons_of_ne_nil hrest, List.append_assoc, List.singleton_append,
        splitAll_append, splitAll_of_not_mem hpart,
        ih hrest fun p hp => h p (List.mem_cons_of_mem _ hp)]
      rfl

namespace Host

/-! ## §1. Numbers. -/

/-- A number read digit by digit: one more digit multiplies by the base and adds. -/
theorem numberIn?_append (base : Nat) (cs : List Char) (c : Char) :
    numberIn? base (cs ++ [c]) = (numberIn? base cs).bind fun n => numberIn? base [c] >>= fun d =>
      some (n * base + d) := by
  unfold numberIn?
  rw [List.foldlM_append]
  cases List.foldlM (fun n c => do
      let d ← hexValue? c
      if d < base then some (n * base + d) else none) 0 cs with
  | none => rfl
  | some n =>
    simp only [List.foldlM_cons, List.foldlM_nil]
    cases hexValue? c with
    | none => rfl
    | some d => by_cases hd : d < base <;> simp [hd]

/-- A digit that is written in a base is read back in it. -/
theorem numberIn?_digitChar {base n : Nat} (hbase : base ≤ 16) (h : n < base) :
    numberIn? base [n.digitChar] = some n := by
  have hvalue : ∀ n < 16, hexValue? n.digitChar = some n := by decide
  unfold numberIn?
  simp [hvalue n (by omega), h]

/-- A number is read back. -/
theorem numberIn?_toDigits {base : Nat} (htwo : 1 < base) (hbase : base ≤ 16) (n : Nat) :
    numberIn? base (Nat.toDigits base n) = some n := by
  induction n using Nat.strong_induction_on with
  | _ n ih =>
    rw [Nat.toDigits_eq_if htwo]
    by_cases hlt : n < base
    · rw [if_pos hlt]
      exact numberIn?_digitChar hbase hlt
    · have hmod : n % base < base := Nat.mod_lt _ (by omega)
      rw [if_neg hlt, numberIn?_append, ih (n / base) (Nat.div_lt_self (by omega) htwo),
        Option.bind_some, numberIn?_digitChar hbase hmod]
      exact congrArg some (Nat.div_add_mod' n base)

/-- A number is bounded by the number of its digits. -/
theorem numberIn?_lt {base n : Nat} {cs : List Char} (h : numberIn? base cs = some n) :
    n < base ^ cs.length := by
  -- the fold starts anywhere, so that the induction can pass a digit
  have hbound : ∀ (cs : List Char) (start : Nat), cs.foldlM (fun n c => do
      let d ← hexValue? c
      if d < base then some (n * base + d) else none) start = some n →
      n + 1 ≤ (start + 1) * base ^ cs.length := by
    intro cs
    induction cs with
    | nil =>
      intro start h
      cases h
      simp
    | cons c cs ih =>
      intro start h
      rw [List.foldlM_cons] at h
      obtain ⟨m, hm, h⟩ := Option.bind_eq_some_iff.mp h
      obtain ⟨d, -, hm⟩ := Option.bind_eq_some_iff.mp hm
      by_cases hd : d < base
      · rw [if_pos hd] at hm
        cases hm
        calc n + 1 ≤ (start * base + d + 1) * base ^ cs.length := ih _ h
          _ ≤ ((start + 1) * base) * base ^ cs.length :=
            Nat.mul_le_mul_right _ (by rw [Nat.add_mul]; omega)
          _ = (start + 1) * base ^ (c :: cs).length := by
            rw [List.length_cons, Nat.pow_succ]
            ring
      · rw [if_neg hd] at hm
        cases hm
  have h := hbound cs 0 h
  omega

/-- Every digit of a number is one of the digits below the base. -/
theorem exists_of_mem_toDigits {base n : Nat} {c : Char} (hbase : 1 < base)
    (h : c ∈ Nat.toDigits base n) : ∃ d < base, c = d.digitChar := by
  induction n using Nat.strong_induction_on with
  | _ n ih =>
    rw [Nat.toDigits_eq_if hbase] at h
    by_cases hlt : n < base
    · rw [if_pos hlt] at h
      exact ⟨n, hlt, List.mem_singleton.mp h⟩
    · rw [if_neg hlt] at h
      rcases List.mem_append.mp h with h | h
      · exact ih (n / base) (Nat.div_lt_self (by omega) hbase) h
      · exact ⟨n % base, Nat.mod_lt _ (by omega), List.mem_singleton.mp h⟩

/-- A character that is no hexadecimal digit stands in no number that is written. -/
theorem not_mem_toDigits {base n : Nat} {c : Char} (htwo : 1 < base) (hbase : base ≤ 16)
    (h : ∀ d < 16, d.digitChar ≠ c) : c ∉ Nat.toDigits base n := by
  intro hc
  obtain ⟨d, hd, rfl⟩ := exists_of_mem_toDigits htwo hc
  exact h d (by omega) rfl

/-! ## §2. Four bytes. -/

/-- The bytes of an address. -/
def bytesOf (a : Nat) : List Nat := [a / 16777216, a / 65536 % 256, a / 256 % 256, a % 256]

/-- An IPv4 address is written as its four bytes in decimal, with dots between them. -/
theorem text_ipv4 (a : Nat) :
    (Host.ipv4 a).text = ['.'].intercalate ((bytesOf a).map (Nat.toDigits 10)) :=
  rfl

theorem bytesOf_lt {a : Nat} (h : a < 2 ^ 32) : ∀ b ∈ bytesOf a, b < 256 := by
  intro b hb
  simp only [bytesOf, List.mem_cons, List.not_mem_nil, or_false] at hb
  omega

/-- A byte in decimal is read back: without a zero in front it is not taken for octal. -/
theorem ipv4Number?_toDigits {b : Nat} (h : b < 256) : ipv4Number? (Nat.toDigits 10 b) = some b :=
  (by decide +kernel : ∀ b < 256, ipv4Number? (Nat.toDigits 10 b) = some b) b h

/-- The parts of an address that is written are its four bytes. -/
theorem addressParts_text (a : Nat) :
    addressParts (Host.ipv4 a).text = (bytesOf a).map (Nat.toDigits 10) := by
  have hparts : splitAll '.' (Host.ipv4 a).text = (bytesOf a).map (Nat.toDigits 10) := by
    rw [text_ipv4]
    refine splitAll_intercalate (by simp [bytesOf]) fun part hpart => ?_
    obtain ⟨b, -, rfl⟩ := List.mem_map.mp hpart
    exact not_mem_toDigits (by decide) (by decide) (by decide)
  unfold addressParts
  rw [hparts]
  dsimp only
  split
  · next hlast => exact absurd (Option.some.inj hlast) Nat.toDigits_ne_nil
  · rfl

theorem endsInNumber_text (a : Nat) : endsInNumber (Host.ipv4 a).text = true := by
  have hdigits : (Nat.toDigits 10 (a % 256)).all Char.isDigit = true :=
    List.all_eq_true.mpr fun c hc => Nat.isDigit_of_mem_toDigits (by decide) (by decide) hc
  have hsome : (Nat.toDigits 10 (a % 256)).isEmpty = false := by
    simp [Nat.toDigits_ne_nil]
  unfold endsInNumber
  rw [addressParts_text]
  show (!(Nat.toDigits 10 (a % 256)).isEmpty && (Nat.toDigits 10 (a % 256)).all Char.isDigit
    || _) = true
  rw [hsome, hdigits]
  rfl

theorem length_of_mapM {α β : Type} {f : α → Option β} {as : List α} {bs : List β}
    (h : as.mapM f = some bs) : bs.length = as.length := by
  induction as generalizing bs with
  | nil =>
    cases h
    rfl
  | cons a as ih =>
    obtain ⟨b, bs', -, hbs, rfl⟩ := Domain.exists_of_mapM_cons h
    rw [List.length_cons, List.length_cons, ih hbs]

/-- Bytes that are read one after the other fit in as many bytes. -/
theorem foldl_bytes_lt {bytes : List Nat} (h : ∀ b ∈ bytes, b < 256) (start : Nat) :
    bytes.foldl (fun n byte => 256 * n + byte) start < (start + 1) * 256 ^ bytes.length := by
  induction bytes generalizing start with
  | nil => simp
  | cons b bytes ih =>
    have hb : b < 256 := h b List.mem_cons_self
    calc (b :: bytes).foldl (fun n byte => 256 * n + byte) start
        < (256 * start + b + 1) * 256 ^ bytes.length :=
          ih (fun c hc => h c (List.mem_cons_of_mem _ hc)) _
      _ ≤ (256 * (start + 1)) * 256 ^ bytes.length := Nat.mul_le_mul_right _ (by omega)
      _ = (start + 1) * 256 ^ (b :: bytes).length := by
        rw [List.length_cons, Nat.pow_succ]
        ring

/-- An address is a number whose last part holds the bytes that the parts before it leave. -/
theorem ipv4?_eq_some {cs : List Char} {a : Nat} :
    ipv4? cs = some a ↔ ∃ front last, (addressParts cs).mapM ipv4Number? = some (front ++ [last]) ∧
      front.length < 4 ∧ (∀ b ∈ front, b < 256) ∧ last < 256 ^ (4 - front.length) ∧
      a = front.foldl (fun n byte => 256 * n + byte) 0 * 256 ^ (4 - front.length) + last := by
  unfold ipv4?
  dsimp only
  constructor
  · -- what is read is in range, since neither test has refused it
    intro h
    split at h
    · cases h
    · next hfew =>
      obtain ⟨numbers, hnumbers, h⟩ := Option.bind_eq_some_iff.mp h
      obtain ⟨last, hlast, h⟩ := Option.bind_eq_some_iff.mp h
      obtain ⟨front, rfl⟩ := List.getLast?_eq_some_iff.mp hlast
      rw [List.dropLast_concat] at h
      split at h
      · cases h
      · next hrange =>
        cases h
        have hlength := length_of_mapM hnumbers
        rw [List.length_append, List.length_singleton] at hlength
        simp only [Bool.or_eq_true, List.any_eq_true, decide_eq_true_eq, not_or, not_exists,
          not_and, Nat.not_le] at hrange
        exact ⟨front, last, hnumbers, by omega, fun b hb => by
          have := hrange.1 b hb
          omega, hrange.2, rfl⟩
  · -- and what is in range passes both tests
    rintro ⟨front, last, hnumbers, hfew, hbytes, hlast, rfl⟩
    have hlength := length_of_mapM hnumbers
    rw [List.length_append, List.length_singleton] at hlength
    have hrange : (front.any fun b => decide (255 < b)) = false :=
      List.any_eq_false.mpr fun b hb => by
        have := hbytes b hb
        simp
        omega
    have hleft : decide (Nat.pow 256 (4 - front.length) ≤ last) = false :=
      decide_eq_false (Nat.not_le.mpr hlast)
    rw [if_neg (by omega), hnumbers]
    simp only [Option.bind_eq_bind, Option.bind_some, List.getLast?_concat, List.dropLast_concat,
      hrange, hleft]
    rfl

/-- **AN ADDRESS OF FOUR BYTES** is read back. -/
theorem ipv4?_text {a : Nat} (h : a < 2 ^ 32) : ipv4? (Host.ipv4 a).text = some a := by
  have hnumbers : (addressParts (Host.ipv4 a).text).mapM ipv4Number? = some (bytesOf a) := by
    have hsame : (bytesOf a).mapM (ipv4Number? ∘ Nat.toDigits 10) = some ((bytesOf a).map id) :=
      Domain.mapM_eq_some_of_forall fun b hb => ipv4Number?_toDigits (bytesOf_lt h b hb)
    rw [addressParts_text, List.mapM_map, hsame, List.map_id]
  rw [ipv4?_eq_some]
  refine ⟨[a / 16777216, a / 65536 % 256, a / 256 % 256], a % 256, hnumbers, by simp,
    fun b hb => ?_, ?_, ?_⟩
  · exact bytesOf_lt h b (List.mem_append_left [a % 256] hb)
  · exact Nat.mod_lt _ (by decide)
  · show a = (256 * (256 * (256 * 0 + a / 16777216) + a / 65536 % 256) + a / 256 % 256) * 256 ^ 1
      + a % 256
    omega

/-- An IPv4 address that could be read fits in 32 bits. -/
theorem ipv4?_lt {cs : List Char} {a : Nat} (h : ipv4? cs = some a) : a < 2 ^ 32 := by
  obtain ⟨front, last, -, hfew, hbytes, hlast, rfl⟩ := ipv4?_eq_some.mp h
  have hfront := foldl_bytes_lt hbytes 0
  rw [Nat.zero_add, Nat.one_mul] at hfront
  have hsplit : 256 ^ front.length * 256 ^ (4 - front.length) = 2 ^ 32 := by
    rw [← Nat.pow_add, Nat.add_sub_cancel' (Nat.le_of_lt hfew)]
    rfl
  have hstep := Nat.mul_le_mul_right (256 ^ (4 - front.length)) (Nat.succ_le_of_lt hfront)
  rw [hsplit, Nat.succ_mul] at hstep
  omega

/-! ## §3. Eight numbers. -/

/-- Eight numbers of 16 bits. -/
structure InRange (pieces : List Nat) : Prop where
  length : pieces.length = 8
  each : ∀ p ∈ pieces, p < 65536

/-- The 16-bit numbers of an IPv6 address are read back from their digits. -/
theorem pieces?_map_toDigits {pieces : List Nat} (h : ∀ p ∈ pieces, p < 65536) :
    pieces? (pieces.map (Nat.toDigits 16)) = some pieces := by
  -- a number of 16 bits has one to four digits
  have hpart {p : Nat} (hp : p < 65536) :
      ((Nat.toDigits 16 p).isEmpty || decide (4 < (Nat.toDigits 16 p).length)) = false := by
    have hlength := (Nat.length_toDigits_le_iff (by decide : 1 < 16) (by decide : 0 < 4)).mpr hp
    simp [Nat.toDigits_ne_nil]
    omega
  induction pieces with
  | nil => rfl
  | cons p rest ih =>
    have hp : p < 65536 := h p List.mem_cons_self
    have hnumber : numberIn? 16 (Nat.toDigits 16 p) = some p :=
      numberIn?_toDigits (by decide) (by decide) p
    cases rest with
    | nil =>
      -- the last part has no dot, so it is not taken for an IPv4 address
      have hdot : (Nat.toDigits 16 p).contains '.' = false := by
        simpa using not_mem_toDigits (n := p) (c := '.') (by decide : 1 < 16) (by decide) (by decide)
      show pieces? [Nat.toDigits 16 p] = _
      rw [pieces?, hdot, hpart hp, hnumber]
      rfl
    | cons q rest =>
      have hrest := ih fun r hr => h r (List.mem_cons_of_mem _ hr)
      show pieces? (Nat.toDigits 16 p :: Nat.toDigits 16 q :: rest.map (Nat.toDigits 16)) = _
      rw [pieces?, hpart hp, hnumber]
      · show (some p).bind (fun n => (pieces? ((q :: rest).map (Nat.toDigits 16))).bind _) = _
        rw [hrest]
        rfl
      · exact nofun

/-- The text of such numbers has hexadecimal digits and colons only. -/
theorem not_mem_piecesText {pieces : List Nat} {c : Char} (h : ∀ d < 16, d.digitChar ≠ c)
    (hcolon : c ≠ ':') : c ∉ piecesText pieces := by
  intro hc
  rcases Domain.mem_of_mem_intercalate hc with hc | ⟨part, hpart, hc⟩
  · exact hcolon (List.mem_singleton.mp hc)
  · obtain ⟨p, -, rfl⟩ := List.mem_map.mp hpart
    exact not_mem_toDigits (by decide) (by decide) h hc

/-- Numbers with colons between them are read back. -/
theorem piecesOf?_piecesText {pieces : List Nat} (h : ∀ p ∈ pieces, p < 65536) :
    piecesOf? (piecesText pieces) = some pieces := by
  cases pieces with
  | nil => rfl
  | cons p rest =>
    have hsplit : splitAll ':' (piecesText (p :: rest)) = (p :: rest).map (Nat.toDigits 16) := by
      refine splitAll_intercalate (by simp) fun part hpart => ?_
      obtain ⟨q, -, rfl⟩ := List.mem_map.mp hpart
      exact not_mem_toDigits (by decide) (by decide) (by decide)
    have hsome : ¬ (piecesText (p :: rest)).isEmpty = true := by
      intro hempty
      rw [List.isEmpty_iff.mp hempty] at hsplit
      exact Nat.toDigits_ne_nil (List.cons.inj hsplit).1.symm
    unfold piecesOf?
    rw [if_neg hsome, hsplit, pieces?_map_toDigits h]

/-- A text without colons is passed over in the search for two colons in a row. -/
theorem splitDoubleColon_append {part : List Char} (h : ':' ∉ part) (rest : List Char) :
    splitDoubleColon (part ++ rest) = (splitDoubleColon rest).map (Prod.map (part ++ ·) id) := by
  induction part with
  | nil =>
    rw [List.nil_append]
    cases splitDoubleColon rest <;> rfl
  | cons c part ih =>
    have hc : c ≠ ':' := (List.ne_of_not_mem_cons h).symm
    rw [List.cons_append, splitDoubleColon, ih (List.not_mem_of_not_mem_cons h), Option.map_map]
    · rfl
    · intro _ heq
      exact absurd heq hc

/-- A single colon is passed over in that search. -/
theorem splitDoubleColon_colon {c : Char} (h : c ≠ ':') (rest : List Char) :
    splitDoubleColon (':' :: c :: rest)
      = (splitDoubleColon (c :: rest)).map (Prod.map (':' :: ·) id) := by
  rw [splitDoubleColon]
  · rfl
  · intro _ _ heq
    exact absurd (List.cons.inj heq).1 h

theorem piecesText_cons_cons (p q : Nat) (more : List Nat) :
    piecesText (p :: q :: more) = Nat.toDigits 16 p ++ ':' :: piecesText (q :: more) := by
  show [':'].intercalate (_ :: _ :: _) = _
  rw [List.intercalate_cons_cons, List.append_assoc]
  rfl

theorem colon_not_mem_toDigits (p : Nat) : ':' ∉ Nat.toDigits 16 p :=
  not_mem_toDigits (by decide) (by decide) (by decide)

/-- Numbers start with a digit. -/
theorem exists_piecesText_eq (p : Nat) (more : List Nat) :
    ∃ c rest, piecesText (p :: more) = c :: rest ∧ c ≠ ':' := by
  obtain ⟨c, digits, hdigits⟩ := List.exists_cons_of_ne_nil (Nat.toDigits_ne_nil (n := p) (b := 16))
  have hc : c ≠ ':' := by
    rintro rfl
    apply colon_not_mem_toDigits p
    rw [hdigits]
    exact List.mem_cons_self
  cases more with
  | nil => exact ⟨c, digits, List.intercalate_singleton.trans hdigits, hc⟩
  | cons q more =>
    rw [piecesText_cons_cons, hdigits]
    exact ⟨c, _, rfl, hc⟩

/-- There is no double colon between numbers. -/
theorem splitDoubleColon_piecesText (pieces : List Nat) (rest : List Char) :
    splitDoubleColon (piecesText pieces ++ rest)
      = (splitDoubleColon rest).map (Prod.map (piecesText pieces ++ ·) id) := by
  induction pieces with
  | nil => exact splitDoubleColon_append List.not_mem_nil rest
  | cons p more ih =>
    cases more with
    | nil =>
      have htext : piecesText [p] = Nat.toDigits 16 p := List.intercalate_singleton
      rw [htext]
      exact splitDoubleColon_append (colon_not_mem_toDigits p) rest
    | cons q more =>
      -- behind each single colon stands a digit
      obtain ⟨c, digits, hdigits, hc⟩ := exists_piecesText_eq q more
      rw [hdigits] at ih
      rw [piecesText_cons_cons, hdigits, List.append_assoc,
        splitDoubleColon_append (colon_not_mem_toDigits p)]
      show (splitDoubleColon (':' :: c :: (digits ++ rest))).map _ = _
      rw [splitDoubleColon_colon hc, ← List.cons_append, ih, Option.map_map, Option.map_map]
      congr 1
      funext halves
      exact Prod.ext (by simp) rfl

/-- Where a run of zeros starts, zeros stand. -/
theorem drop_of_zeroRuns {pieces : List Nat} {i r : Nat} (h : (zeroRuns pieces)[i]? = some r) :
    ∃ rest, pieces.drop i = List.replicate r 0 ++ rest := by
  induction pieces generalizing i r with
  | nil => cases h
  | cons p pieces ih =>
    unfold zeroRuns at h
    cases i with
    | zero =>
      have hr : (if p = 0 then (zeroRuns pieces).headD 0 + 1 else 0) = r := Option.some.inj h
      by_cases hp : p = 0
      · rw [if_pos hp] at hr
        subst hp hr
        cases hruns : zeroRuns pieces with
        | nil => exact ⟨pieces, rfl⟩
        | cons k runs =>
          -- the run goes on behind the first zero
          obtain ⟨rest, hrest⟩ := ih (i := 0) (r := k) (by rw [hruns]; rfl)
          refine ⟨rest, ?_⟩
          show 0 :: pieces.drop 0 = List.replicate (k + 1) 0 ++ rest
          rw [hrest]
          rfl
      · rw [if_neg hp] at hr
        subst hr
        exact ⟨p :: pieces, rfl⟩
    | succ i => exact ih h

/-- The greatest number of a list, taken by a fold, is the start or one of the numbers. -/
theorem foldl_max_mem (ns : List Nat) (start : Nat) :
    ns.foldl max start = start ∨ ns.foldl max start ∈ ns := by
  induction ns generalizing start with
  | nil => exact .inl rfl
  | cons n ns ih =>
    rw [List.foldl_cons]
    rcases ih (max start n) with h | h
    · rw [h]
      rcases Nat.le_total start n with hle | hle
      · exact .inr (by rw [Nat.max_eq_right hle]; exact List.mem_cons_self)
      · exact .inl (Nat.max_eq_left hle)
    · exact .inr (List.mem_cons_of_mem _ h)

/-- The longest run of zeros stands where it is found. -/
theorem drop_of_longestRun {pieces : List Nat} {longest : Nat}
    (hlongest : (zeroRuns pieces).foldl max 0 = longest) (hsome : longest ≠ 0) :
    ∃ rest, pieces.drop ((zeroRuns pieces).findIdx (· == longest))
      = List.replicate longest 0 ++ rest := by
  have hmem : longest ∈ zeroRuns pieces := by
    rcases foldl_max_mem (zeroRuns pieces) 0 with hzero | hmem
    · exact absurd (hlongest.symm.trans hzero) hsome
    · exact hlongest ▸ hmem
  have hlt : (zeroRuns pieces).findIdx (· == longest) < (zeroRuns pieces).length :=
    List.findIdx_lt_length_of_exists ⟨longest, hmem, beq_self_eq_true _⟩
  refine drop_of_zeroRuns (List.getElem?_eq_some_iff.mpr ⟨hlt, ?_⟩)
  exact eq_of_beq (List.findIdx_getElem (w := hlt))

/-- The double colon is read as the zeros that are missing. -/
theorem ipv6?_doubleColon {front back : List Nat} (hroom : front.length + back.length < 8)
    (hfront : ∀ p ∈ front, p < 65536) (hback : ∀ p ∈ back, p < 65536) :
    ipv6? (piecesText front ++ "::".toList ++ piecesText back)
      = some (front ++ List.replicate (8 - front.length - back.length) 0 ++ back) := by
  have hsplit : splitDoubleColon (piecesText front ++ "::".toList ++ piecesText back)
      = some (piecesText front, piecesText back) := by
    rw [List.append_assoc, splitDoubleColon_piecesText]
    show some (piecesText front ++ [], piecesText back) = _
    rw [List.append_nil]
  have hdot : (piecesText front).contains '.' = false := by
    have hnot : '.' ∉ piecesText front := not_mem_piecesText (by decide) (by decide)
    simpa using hnot
  unfold ipv6?
  rw [hsplit]
  dsimp only
  rw [hdot, piecesOf?_piecesText hfront, piecesOf?_piecesText hback]
  simp only [Bool.false_eq_true, if_false, Option.bind_eq_bind, Option.bind_some, guard,
    if_pos hroom]
  rfl

/-- **AN ADDRESS OF EIGHT NUMBERS** is read back. -/
theorem ipv6?_ipv6Text {pieces : List Nat} (h : InRange pieces) :
    ipv6? (ipv6Text pieces) = some pieces := by
  unfold ipv6Text
  dsimp only
  split
  · -- all numbers are written
    have hsplit : splitDoubleColon (piecesText pieces) = none := by
      have hsplit := splitDoubleColon_piecesText pieces []
      rwa [List.append_nil] at hsplit
    unfold ipv6?
    rw [hsplit]
    dsimp only
    rw [piecesOf?_piecesText h.each]
    simp [h.length]
  · next hlongest =>
    generalize hlong : (zeroRuns pieces).foldl max 0 = longest at hlongest ⊢
    obtain ⟨rest, hrest⟩ := drop_of_longestRun hlong (by omega)
    generalize (zeroRuns pieces).findIdx (· == longest) = start at hrest ⊢
    have hback : pieces.drop (start + longest) = rest := by
      rw [← List.drop_drop, hrest, List.drop_left' (List.length_replicate)]
    have hwhole : pieces.take start ++ List.replicate longest 0 ++ rest = pieces := by
      rw [List.append_assoc, ← hrest, List.take_append_drop]
    have hlengths : (pieces.take start).length + longest + rest.length = 8 := by
      rw [← h.length, ← congrArg List.length hwhole, List.length_append, List.length_append,
        List.length_replicate]
    have hzeros : 8 - (pieces.take start).length - rest.length = longest := by omega
    rw [hback, ipv6?_doubleColon (by omega), hzeros, hwhole]
    · exact fun p hp => h.each p (List.mem_of_mem_take hp)
    · exact fun p hp => h.each p (List.mem_of_mem_drop (hback ▸ hp))

/-- A byte of an embedded IPv4 address is below 256. -/
theorem byte?_lt {cs : List Char} {n : Nat} (h : byte? cs = some n) : n < 256 := by
  unfold byte? at h
  split at h
  · cases h
  · obtain ⟨m, -, h⟩ := Option.bind_eq_some_iff.mp h
    split at h
    · cases h
    · cases h
      omega

/-- The two numbers of an embedded IPv4 address have 16 bits. -/
theorem embedded?_lt {cs : List Char} {pieces : List Nat} (h : embedded? cs = some pieces) :
    ∀ p ∈ pieces, p < 65536 := by
  unfold embedded? at h
  obtain ⟨bytes, hbytes, h⟩ := Option.bind_eq_some_iff.mp h
  have hlt : ∀ b ∈ bytes, b < 256 := fun b hb => by
    obtain ⟨part, -, hpart⟩ := Domain.exists_of_mem_mapM hbytes hb
    exact byte?_lt hpart
  split at h
  · next a b c d =>
    cases h
    have ha := hlt a (by simp)
    have hb := hlt b (by simp)
    have hc := hlt c (by simp)
    have hd := hlt d (by simp)
    intro p hp
    simp only [List.mem_cons, List.not_mem_nil, or_false] at hp
    omega
  · cases h

/-- At most four hexadecimal digits are a number of 16 bits. -/
theorem numberIn?_piece_lt {cs : List Char} {n : Nat}
    (hshort : ¬ (cs.isEmpty || decide (4 < cs.length)) = true) (h : numberIn? 16 cs = some n) :
    n < 65536 := by
  have hlength : cs.length ≤ 4 := by
    simp only [Bool.or_eq_true, decide_eq_true_eq, not_or, Nat.not_lt] at hshort
    exact hshort.2
  calc n < 16 ^ cs.length := numberIn?_lt h
    _ ≤ 16 ^ 4 := Nat.pow_le_pow_right (by decide) hlength

/-- All numbers that are read between colons have 16 bits. -/
theorem pieces?_lt {parts : List (List Char)} {pieces : List Nat} (h : pieces? parts = some pieces) :
    ∀ p ∈ pieces, p < 65536 := by
  induction parts generalizing pieces with
  | nil =>
    cases h
    exact nofun
  | cons part rest ih =>
    cases rest with
    | nil =>
      rw [pieces?] at h
      split at h
      · -- only the last part may be an IPv4 address
        exact embedded?_lt h
      · split at h
        · cases h
        · next hpart =>
          obtain ⟨n, hn, h⟩ := Option.map_eq_some_iff.mp h
          cases h
          intro p hp
          rw [List.mem_singleton.mp hp]
          exact numberIn?_piece_lt hpart hn
    | cons second rest =>
      rw [pieces?] at h
      · split at h
        · cases h
        · next hpart =>
          obtain ⟨n, hn, h⟩ := Option.bind_eq_some_iff.mp h
          obtain ⟨more, hmore, h⟩ := Option.bind_eq_some_iff.mp h
          cases h
          intro p hp
          rcases List.mem_cons.mp hp with rfl | hp
          · exact numberIn?_piece_lt hpart hn
          · exact ih hmore p hp
      · exact nofun

theorem piecesOf?_lt {cs : List Char} {pieces : List Nat} (h : piecesOf? cs = some pieces) :
    ∀ p ∈ pieces, p < 65536 := by
  unfold piecesOf? at h
  split at h
  · cases h
    exact nofun
  · exact pieces?_lt h

/-- What was read as an address of eight numbers is one. -/
theorem ipv6?_inRange {cs : List Char} {pieces : List Nat} (h : ipv6? cs = some pieces) :
    InRange pieces := by
  unfold ipv6? at h
  split at h
  · obtain ⟨read, hread, h⟩ := Option.bind_eq_some_iff.mp h
    obtain ⟨u, hlength, h⟩ := Option.bind_eq_some_iff.mp h
    cases h
    exact ⟨eq_of_beq ((Option.guard_eq_some' u).mp hlength), piecesOf?_lt hread⟩
  · -- with two colons in a row, zeros fill up the eight numbers
    next front back _ =>
    split at h
    · cases h
    · obtain ⟨first, hfirst, h⟩ := Option.bind_eq_some_iff.mp h
      obtain ⟨last, hlast, h⟩ := Option.bind_eq_some_iff.mp h
      obtain ⟨u, hroom, h⟩ := Option.bind_eq_some_iff.mp h
      cases h
      have hroom := (Option.guard_eq_some' u).mp hroom
      constructor
      · simp
        omega
      · intro p hp
        rcases List.mem_append.mp hp with hp | hp
        · rcases List.mem_append.mp hp with hp | hp
          · exact piecesOf?_lt hfirst p hp
          · rw [List.eq_of_mem_replicate hp]
            decide
        · exact piecesOf?_lt hlast p hp

end Host

end ApiPlaybook.Url
