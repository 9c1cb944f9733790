/-
  ApiPlaybook.Proofs.Url.Punycode
  ───────────────────────────────
  **A LABEL IN ASCII LETTERS IS READ BACK.**

  The writer goes through the code points of a label in increasing order and, for
  each, through the whole label; what it counts on the way it writes as numbers.
  The reader inserts one character for each number.  At any time

      the reader has the characters that the writer has written, and it stands
      as many insertions behind the writer as the writer has counted
      (`IsBehind`),

  and each step of the writer keeps this (`IsBehind.pass`, `IsBehind.next`), so
  in the end the reader has the label (`decode?_encode`).
-/
import Mathlib.Data.List.TakeWhile
import Mathlib.Tactic.Ring
import ApiPlaybook.Url.Punycode

namespace ApiPlaybook.Url.Punycode

/-! ## §1. Distances. -/

/-- A digit as it is written. -/
def IsDigit (c : Char) : Prop := c.isLower = true ∨ c.isDigit = true

/-- What is written for a number below 36 is a digit. -/
theorem isDigit_digit {n : Nat} (h : n < 36) : IsDigit (digit n) :=
  (by decide : ∀ n < 36, (digit n).isLower = true ∨ (digit n).isDigit = true) n h

/-- A digit is read back as its number. -/
theorem digitValue?_digit {n : Nat} (h : n < 36) : digitValue? (digit n) = some n :=
  (by decide : ∀ n < 36, digitValue? (digit n) = some n) n h

/-- A distance is written in digits only. -/
theorem isDigit_of_mem_distance {bias k q : Nat} {c : Char} (h : c ∈ distance bias k q) :
    IsDigit c := by
  induction k, q using distance.induct bias with
  | case1 k q t hlt =>
    have hle := threshold_le k bias
    rw [distance, if_pos hlt] at h
    rw [List.mem_singleton.mp h]
    exact isDigit_digit (by omega)
  | case2 k q t hlt ih =>
    have hpos := threshold_pos k bias
    have hle := threshold_le k bias
    have hmod : (q - threshold k bias) % (36 - threshold k bias) < 36 - threshold k bias :=
      Nat.mod_lt _ (by omega)
    rw [distance, if_neg hlt] at h
    rcases List.mem_cons.mp h with rfl | h
    · exact isDigit_digit (by omega)
    · exact ih h

/-- A distance is written in at least one digit. -/
theorem distance_ne_nil (bias k q : Nat) : distance bias k q ≠ [] := by
  unfold distance
  dsimp only
  split <;> exact nofun

/-- A distance is read back, whatever digits follow. -/
theorem readDistance_distance (bias k q weight value : Nat) (rest : List Char) :
    readDistance bias k weight value (distance bias k q ++ rest) = some (value + q * weight, rest) := by
  induction k, q using distance.induct bias generalizing weight value with
  | case1 k q t hlt =>
    have hle := threshold_le k bias
    rw [distance, if_pos hlt, List.cons_append, readDistance, digitValue?_digit (by omega)]
    exact if_pos hlt
  | case2 k q t hlt ih =>
    have hpos := threshold_pos k bias
    have hle := threshold_le k bias
    have hmod : (q - threshold k bias) % (36 - threshold k bias) < 36 - threshold k bias :=
      Nat.mod_lt _ (by omega)
    have hnot : ¬ threshold k bias + (q - threshold k bias) % (36 - threshold k bias)
        < threshold k bias := by omega
    rw [distance, if_neg hlt, List.cons_append, readDistance, digitValue?_digit (by omega)]
    refine (if_neg hnot).trans ?_
    rw [ih]
    -- the two parts of the quotient with remainder
    have hparts := Nat.mod_add_div (q - threshold k bias) (36 - threshold k bias)
    have hq : q = threshold k bias + (q - threshold k bias) := by omega
    refine congrArg (fun n => some (n, rest)) ?_
    calc value + (threshold k bias + (q - threshold k bias) % (36 - threshold k bias)) * weight
          + (q - threshold k bias) / (36 - threshold k bias) * (weight * (36 - threshold k bias))
        = value + (threshold k bias + ((q - threshold k bias) % (36 - threshold k bias)
            + (36 - threshold k bias)
              * ((q - threshold k bias) / (36 - threshold k bias)))) * weight := by ring
      _ = value + q * weight := by rw [hparts, ← hq]

/-! ## §2. Reader and writer. -/

/-- Where the reading of a label stands. -/
structure Reader where
  label : List Nat
  /-- The code point of the last insertion. -/
  last : Nat
  /-- The position behind the last insertion. -/
  place : Nat
  bias : Nat

def Reader.read (r : Reader) (digits : List Char) : Option (List Nat) :=
  readInsertions r.label r.last r.place r.bias digits

/-- What the writer adds from one state to another takes the reader from one to another. -/
def Advances (w w' : Writer) (r r' : Reader) : Prop :=
  ∃ digits, w'.written = w.written ++ digits ∧ (∀ c ∈ digits, IsDigit c) ∧
    ∀ rest, r.read (digits ++ rest) = r'.read rest

/-- A writer that has written nothing leaves the reader where it is. -/
theorem Advances.of_written {w w' : Writer} (r : Reader) (h : w'.written = w.written) :
    Advances w w' r r :=
  ⟨[], by rw [h, List.append_nil], nofun, fun _ => rfl⟩

/-- What is written in two steps is read in two steps. -/
theorem Advances.trans {w w' w'' : Writer} {r r' r'' : Reader} (h : Advances w w' r r')
    (h' : Advances w' w'' r' r'') : Advances w w'' r r'' := by
  obtain ⟨digits, hwritten, hdigits, hread⟩ := h
  obtain ⟨digits', hwritten', hdigits', hread'⟩ := h'
  refine ⟨digits ++ digits', ?_, ?_, ?_⟩
  · rw [hwritten', hwritten, List.append_assoc]
  · intro c hc
    exact (List.mem_append.mp hc).elim (hdigits c) (hdigits' c)
  · intro rest
    rw [List.append_assoc, hread, hread']

/-- The writer is at the code point `n` and has passed the front of the label; the reader has what
was written, and what the writer has counted leads to where the writer is. -/
structure IsBehind (basic n : Nat) (front back : List Nat) (w : Writer) (r : Reader) : Prop where
  label : r.label = front.filter (· ≤ n) ++ back.filter (· < n)
  count : w.count = r.label.length
  last : r.last ≤ n
  counted : r.place + w.delta
    = (n - r.last) * (w.count + 1) + (front.filter (· ≤ n)).length
  bias : r.bias = w.bias
  basic_le : basic ≤ w.count
  first : r.place = 0 ↔ w.count = basic

/-- An insertion behind a front stands between the front and the rest. -/
theorem insertIdx_length (front back : List Nat) (n : Nat) :
    (front ++ back).insertIdx front.length n = front ++ n :: back := by
  induction front with
  | nil => rfl
  | cons m front ih =>
    rw [List.cons_append, List.length_cons, List.insertIdx_succ_cons, ih]
    rfl

section Steps

variable {basic n m : Nat} {front back : List Nat} {w : Writer} {r : Reader}

/-- The number that the writer has counted makes the reader insert the code point. -/
theorem IsBehind.read (h : IsBehind basic n front back w r) (hn : n.isValidChar)
    (rest : List Char) :
    r.read (distance w.bias 36 w.delta ++ rest)
      = Reader.read ⟨front.filter (· ≤ n) ++ n :: back.filter (· < n), n,
          (front.filter (· ≤ n)).length + 1,
          adapt w.delta (w.count + 1) (w.count == basic)⟩ rest := by
  have hlength : (front.filter (· ≤ n)).length ≤ w.count := by
    rw [h.count, h.label, List.length_append]
    exact Nat.le_add_right _ _
  -- the number holds how far to go on and where to insert, as quotient and remainder
  have hdiv : (r.place + w.delta) / (w.count + 1) = n - r.last := by
    rw [h.counted, Nat.mul_comm, Nat.mul_add_div (Nat.succ_pos _),
      Nat.div_eq_of_lt (Nat.lt_succ_of_le hlength), Nat.add_zero]
  have hmod : (r.place + w.delta) % (w.count + 1) = (front.filter (· ≤ n)).length := by
    rw [h.counted, Nat.mul_comm, Nat.mul_add_mod, Nat.mod_eq_of_lt (Nat.lt_succ_of_le hlength)]
  have hlast : r.last + (n - r.last) = n := Nat.add_sub_cancel' h.last
  have hvalid : ¬ ((decide (0x10ffff < n) || (decide (0xd800 ≤ n) && decide (n ≤ 0xdfff))) = true) := by
    have hn : n < 0xd800 ∨ 0xdfff < n ∧ n < 0x110000 := hn
    simp
    omega
  have hfirst : (r.place == 0) = (w.count == basic) := by
    rw [Bool.eq_iff_iff, beq_iff_eq, beq_iff_eq]
    exact h.first
  have hinsert : r.label.insertIdx (front.filter (· ≤ n)).length n
      = front.filter (· ≤ n) ++ n :: back.filter (· < n) := by
    rw [h.label]
    exact insertIdx_length _ _ _
  obtain ⟨c, cs, hcs⟩ := List.exists_cons_of_ne_nil (distance_ne_nil w.bias 36 w.delta)
  have hdistance : readDistance r.bias 36 1 0 (c :: (cs ++ rest)) = some (w.delta, rest) := by
    rw [← List.cons_append, ← hcs, h.bias, readDistance_distance]
    simp
  unfold Reader.read
  rw [hcs, List.cons_append, readInsertions]
  split
  · next hnone =>
    rw [hdistance] at hnone
    cases hnone
  · next delta digits hsome =>
    rw [hdistance] at hsome
    cases hsome
    dsimp only
    rw [← h.count, hdiv, hmod, hlast, hinsert, hfirst]
    exact if_neg hvalid

/-- **A STEP OF THE WRITER** over one character of the label. -/
theorem IsBehind.pass (h : IsBehind basic n front (m :: back) w r) (hn : n.isValidChar) :
    ∃ r', Advances w (w.pass basic n m) r r' ∧
      IsBehind basic n (front ++ [m]) back (w.pass basic n m) r' := by
  unfold Writer.pass
  by_cases hlt : m < n
  · -- counted, as the reader has it
    have hle : m ≤ n := Nat.le_of_lt hlt
    rw [if_pos hlt]
    refine ⟨r, .of_written r rfl, ?_, h.count, h.last, ?_, h.bias, h.basic_le, h.first⟩
    · rw [h.label]
      simp [hlt, hle]
    · have hcounted := h.counted
      simp only [List.filter_append, List.length_append]
      simp [hle]
      omega
  · rw [if_neg hlt]
    by_cases heq : m = n
    · -- written
      subst heq
      rw [if_pos rfl]
      refine ⟨⟨front.filter (· ≤ m) ++ m :: back.filter (· < m), m,
        (front.filter (· ≤ m)).length + 1, adapt w.delta (w.count + 1) (w.count == basic)⟩,
        ⟨_, rfl, fun c => isDigit_of_mem_distance, fun rest => ?_⟩, ?_⟩
      · rw [h.read hn]
        simp
      · have hcount := h.count
        have hbasic := h.basic_le
        rw [h.label] at hcount
        simp at hcount
        refine ⟨?_, ?_, Nat.le_refl m, ?_, rfl, Nat.le_succ_of_le hbasic, ?_⟩
        · simp
        · simp
          omega
        · simp
        · simp
          omega
    · -- passed over, as the reader does not have it
      have hgt : ¬ m ≤ n := fun hle => heq (Nat.le_antisymm hle (Nat.le_of_not_lt hlt))
      rw [if_neg heq]
      refine ⟨r, .of_written r rfl, ?_, h.count, h.last, ?_, h.bias, h.basic_le, h.first⟩
      · rw [h.label]
        simp [hlt, hgt]
      · rw [h.counted]
        simp [hgt]

/-- One round of the writer over the label is read to its end. -/
theorem IsBehind.passAll (h : IsBehind basic n front back w r) (hn : n.isValidChar) :
    ∃ r', Advances w (back.foldl (Writer.pass basic n) w) r r' ∧
      IsBehind basic n (front ++ back) [] (back.foldl (Writer.pass basic n) w) r' := by
  induction back generalizing front w r with
  | nil => exact ⟨r, .of_written r rfl, by rwa [List.append_nil]⟩
  | cons m back ih =>
    obtain ⟨r', hadvances, hbehind⟩ := h.pass hn
    obtain ⟨r'', hadvances', hbehind'⟩ := ih hbehind
    refine ⟨r'', hadvances.trans hadvances', ?_⟩
    rwa [List.append_assoc] at hbehind'

/-- Nothing is written for code points that the label does not have. -/
theorem IsBehind.skip {label : List Nat} {next : Nat} (h : IsBehind basic next [] label w r)
    (hle : next ≤ n) (hnone : ∀ m ∈ label, next ≤ m → n ≤ m) :
    IsBehind basic n [] label { w with delta := w.delta + (n - next) * (w.count + 1) } r := by
  have hfilter : label.filter (· < n) = label.filter (· < next) := by
    refine List.filter_congr fun m hm => ?_
    have := hnone m hm
    simp
    omega
  refine ⟨?_, h.count, Nat.le_trans h.last hle, ?_, h.bias, h.basic_le, h.first⟩
  · rw [h.label, hfilter]
    simp
  · have hsplit : n - r.last = (n - next) + (next - r.last) := by
      have := h.last
      omega
    have hcounted := h.counted
    show r.place + (w.delta + (n - next) * (w.count + 1)) = (n - r.last) * (w.count + 1) + 0
    rw [hsplit, Nat.add_mul]
    simp at hcounted
    omega

/-- Behind the end of the label the writer goes on with the next code point. -/
theorem IsBehind.next {label : List Nat} (h : IsBehind basic n label [] w r) :
    IsBehind basic (n + 1) [] label { w with delta := w.delta + 1 } r := by
  have hfilter : label.filter (· < n + 1) = label.filter (· ≤ n) :=
    List.filter_congr fun m _ => decide_eq_decide.mpr Nat.lt_succ_iff
  have hlabel : r.label = label.filter (· ≤ n) := by simpa using h.label
  refine ⟨?_, h.count, Nat.le_succ_of_le h.last, ?_, h.bias, h.basic_le, h.first⟩
  · rw [hlabel, hfilter]
    simp
  · have hsplit : n + 1 - r.last = (n - r.last) + 1 := by
      have := h.last
      omega
    have hcounted := h.counted
    rw [← hlabel, ← h.count] at hcounted
    show r.place + (w.delta + 1) = (n + 1 - r.last) * (w.count + 1) + 0
    rw [hsplit, Nat.add_mul]
    omega

end Steps

/-- **A RUN OF THE WRITER** over the code points that are left takes the reader to the label. -/
theorem IsBehind.write {label rest : List Nat} {basic next : Nat} {w : Writer} {r : Reader}
    (h : IsBehind basic next [] label w r) (hvalid : ∀ n ∈ rest, n.isValidChar)
    (hsorted : rest.Pairwise (· < ·)) (hnext : ∀ n ∈ rest, next ≤ n)
    (hall : ∀ m ∈ label, next ≤ m → m ∈ rest) :
    ∃ r', Advances w (Writer.write label basic next w rest) r r' ∧ r'.label = label := by
  induction rest generalizing next w r with
  | nil =>
    refine ⟨r, .of_written r rfl, ?_⟩
    rw [h.label, List.filter_nil, List.nil_append, List.filter_eq_self]
    intro m hm
    have hnot : ¬ next ≤ m := fun hle => nomatch hall m hm hle
    simpa using hnot
  | cons n rest ih =>
    obtain ⟨hleast, hsorted⟩ := List.pairwise_cons.mp hsorted
    -- no code point of the label is between the last one written and this one
    have hskip := h.skip (hnext n List.mem_cons_self) fun m hm hle => by
      rcases List.mem_cons.mp (hall m hm hle) with rfl | hmem
      · exact Nat.le_refl m
      · exact Nat.le_of_lt (hleast m hmem)
    obtain ⟨r', hadvances, hbehind⟩ := hskip.passAll (hvalid n List.mem_cons_self)
    -- behind this round the next one starts at the following code point
    obtain ⟨r'', hadvances', hlabel⟩ := ih (IsBehind.next hbehind)
      (fun k hk => hvalid k (List.mem_cons_of_mem _ hk)) hsorted hleast fun m hm hlt => by
        rcases List.mem_cons.mp (hall m hm ((hnext n List.mem_cons_self).trans
          (Nat.le_of_succ_le hlt))) with rfl | hmem
        · exact absurd hlt (Nat.not_succ_le_self m)
        · exact hmem
    exact ⟨r'', hadvances.trans hadvances', hlabel⟩

/-! ## §3. Labels. -/

/-- Code points in increasing order, each once. -/
theorem pairwise_eraseDups (ns : List Nat) (h : ns.Pairwise (· ≤ ·)) :
    ns.eraseDups.Pairwise (· < ·) := by
  induction hlength : ns.length using Nat.strong_induction_on generalizing ns with
  | _ k ih =>
    cases ns with
    | nil => exact List.Pairwise.nil
    | cons n rest =>
      obtain ⟨hleast, hrest⟩ := List.pairwise_cons.mp h
      rw [List.eraseDups_cons, List.pairwise_cons]
      constructor
      · intro m hm
        obtain ⟨hmem, hne⟩ := List.mem_filter.mp (List.mem_eraseDups.mp hm)
        have hne : m ≠ n := by simpa using hne
        exact Nat.lt_of_le_of_ne (hleast m hmem) hne.symm
      · refine ih _ ?_ _ (hrest.sublist List.filter_sublist) rfl
        rw [← hlength]
        exact Nat.lt_succ_of_le (List.length_filter_le _ _)

/-- The code points that are written as distances. -/
def othersOf (label : List Nat) : List Nat :=
  ((label.filter (0x80 ≤ ·)).mergeSort).eraseDups

/-- The rounds are those of the code points that are not in ASCII. -/
theorem mem_othersOf {label : List Nat} {n : Nat} : n ∈ othersOf label ↔ n ∈ label ∧ 0x80 ≤ n := by
  unfold othersOf
  rw [List.mem_eraseDups, List.mem_mergeSort, List.mem_filter, decide_eq_true_eq]

/-- They come in ascending order, each once. -/
theorem othersOf_sorted (label : List Nat) : (othersOf label).Pairwise (· < ·) := by
  apply pairwise_eraseDups
  have hsorted : ((label.filter (0x80 ≤ ·)).mergeSort).Pairwise fun a b => decide (a ≤ b) = true :=
    List.pairwise_mergeSort (by simpa using fun a b c => Nat.le_trans)
      (by simpa using Nat.le_total) (label.filter (0x80 ≤ ·))
  exact hsorted.imp of_decide_eq_true

/-- What stands in front of the distances. -/
def frontOf (label : List Nat) : List Char :=
  (label.filter (· < 0x80)).map Char.ofNat
    ++ if (label.filter (· < 0x80)).isEmpty then [] else ['-']

/-- A label is written as its ASCII characters and digits that take the reader to it. -/
theorem encode_eq {label : List Nat} (h : ∀ n ∈ label, n.isValidChar) :
    ∃ digits, encode label = frontOf label ++ digits ∧ (∀ c ∈ digits, IsDigit c) ∧
      readInsertions (label.filter (· < 0x80)) 0x80 0 72 digits = some label := by
  have hstart : IsBehind (label.filter (· < 0x80)).length 0x80 [] label
      ⟨frontOf label, 0, 72, (label.filter (· < 0x80)).length⟩
      ⟨label.filter (· < 0x80), 0x80, 0, 72⟩ :=
    ⟨rfl, rfl, Nat.le_refl _, by simp, rfl, Nat.le_refl _, by simp⟩
  have hvalid : ∀ n ∈ othersOf label, n.isValidChar := fun n hn => h n (mem_othersOf.mp hn).1
  obtain ⟨r, ⟨digits, hwritten, hdigits, hread⟩, hlabel⟩ :=
    hstart.write hvalid (othersOf_sorted label) (fun n hn => (mem_othersOf.mp hn).2)
      fun m hm hle => mem_othersOf.mpr ⟨hm, hle⟩
  refine ⟨digits, hwritten, hdigits, ?_⟩
  have hend := hread []
  rw [List.append_nil] at hend
  refine hend.trans ?_
  unfold Reader.read
  rw [readInsertions, hlabel]

/-- A valid code point is that of its character. -/
theorem toNat_ofNat {n : Nat} (h : n.isValidChar) : (Char.ofNat n).toNat = n := by
  unfold Char.ofNat
  rw [dif_pos h]
  rfl

/-- No digit is the hyphen that stands before the digits. -/
theorem IsDigit.ne_hyphen {c : Char} (h : IsDigit c) : c ≠ '-' := by
  rintro rfl
  rcases h with h | h
  · exact absurd h (by decide)
  · exact absurd h (by decide)

/-- The digits of a label are told from what stands in front of them. -/
theorem decode?_frontOf {label : List Nat} {digits : List Char} (h : ∀ c ∈ digits, IsDigit c) :
    decode? (frontOf label ++ digits) = readInsertions (label.filter (· < 0x80)) 0x80 0 72 digits := by
  have hbasic : ((label.filter (· < 0x80)).map Char.ofNat).map Char.toNat
      = label.filter (· < 0x80) := by
    rw [List.map_map]
    refine (List.map_congr_left fun n hn => ?_).trans (List.map_id _)
    have hlt : n < 0x80 := by simpa using (List.mem_filter.mp hn).2
    exact toNat_ofNat (.inl (by omega))
  have hascii : (label.filter (· < 0x80)).all (· < 0x80) = true := by
    simp
  have hplain : ∀ c ∈ digits.reverse, (c != '-') = true := fun c hc => by
    simpa using (h c (List.mem_reverse.mp hc)).ne_hyphen
  have hdigits : digits.reverse.takeWhile (· != '-') = digits.reverse :=
    List.takeWhile_eq_self_iff.mpr hplain
  by_cases hnone : label.filter (· < 0x80) = []
  · have hfront : frontOf label = [] := by
      unfold frontOf
      rw [hnone]
      rfl
    unfold decode?
    rw [hfront, hnone, List.nil_append, hdigits, List.reverse_reverse]
    dsimp only
    rw [Nat.sub_self]
    rfl
  · have hfront : frontOf label = (label.filter (· < 0x80)).map Char.ofNat ++ ['-'] := by
      unfold frontOf
      rw [if_neg (by simpa using hnone)]
    -- the hyphen in front of the digits is the last one
    have hbehind : ((frontOf label ++ digits).reverse.takeWhile (· != '-')).reverse = digits := by
      rw [hfront, List.reverse_append, List.takeWhile_append_of_pos hplain, List.reverse_append]
      simp
    have hbefore : (frontOf label ++ digits).take
        ((frontOf label ++ digits).length - digits.length - 1)
        = (label.filter (· < 0x80)).map Char.ofNat := by
      rw [List.length_append, Nat.add_sub_cancel, hfront, List.length_append, List.length_singleton,
        Nat.add_sub_cancel, List.append_assoc, List.take_left]
    unfold decode?
    dsimp only
    rw [hbehind, hbefore, hbasic, if_pos hascii, if_neg (by simpa using hnone)]

/-- **A LABEL IN ASCII LETTERS IS READ BACK.** -/
theorem decode?_encode {label : List Nat} (h : ∀ n ∈ label, n.isValidChar) :
    decode? (encode label) = some label := by
  obtain ⟨digits, hencode, hdigits, hread⟩ := encode_eq h
  rw [hencode, decode?_frontOf hdigits, hread]

end ApiPlaybook.Url.Punycode
