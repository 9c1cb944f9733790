/-
  ApiPlaybook.Proofs.Url.Domains
  ──────────────────────────────
  **AN ASCII FORM IS ITS OWN ASCII FORM.**

  A name is mapped, cut into labels, and each label is given a meaning, from its
  Punycode or as it is.  What a meaning has to satisfy (`IsMeaning`) does not
  depend on how it was given.  So

      the written form of a meaning has that meaning (`labelMeaning?_labelText`),
      a name made of meanings is mapped to itself (`toAscii?_nameText`),

  and a name that was brought into its ASCII form stays as it is when it is read
  again (`toAscii?_of_toAscii?`).
-/
import ApiPlaybook.Proofs.Url.Punycode
import ApiPlaybook.Url.Domain

namespace ApiPlaybook.Url.Domain

/-! ## §1. Texts in parts. -/

section Lists

variable {α β : Type}

/-- A list of elements that can all be mapped can be mapped. -/
theorem mapM_eq_some_of_forall {f : α → Option β} {g : α → β} {as : List α}
    (h : ∀ a ∈ as, f a = some (g a)) : as.mapM f = some (as.map g) := by
  induction as with
  | nil => rfl
  | cons a as ih =>
    rw [List.mapM_cons, h a List.mem_cons_self, ih fun b hb => h b (List.mem_cons_of_mem _ hb)]
    rfl

/-- A list that could be mapped has a first element that could be. -/
theorem exists_of_mapM_cons {f : α → Option β} {a : α} {as : List α} {bs : List β}
    (h : (a :: as).mapM f = some bs) :
    ∃ b bs', f a = some b ∧ as.mapM f = some bs' ∧ bs = b :: bs' := by
  rw [List.mapM_cons] at h
  obtain ⟨b, hb, h⟩ := Option.bind_eq_some_iff.mp h
  obtain ⟨bs', hbs, h⟩ := Option.bind_eq_some_iff.mp h
  cases h
  exact ⟨b, bs', hb, hbs, rfl⟩

/-- Every element of what was mapped comes from one of the list. -/
theorem exists_of_mem_mapM {f : α → Option β} {as : List α} {bs : List β} {b : β}
    (h : as.mapM f = some bs) (hb : b ∈ bs) : ∃ a ∈ as, f a = some b := by
  induction as generalizing bs with
  | nil =>
    cases h
    cases hb
  | cons a as ih =>
    obtain ⟨c, cs, hc, hcs, rfl⟩ := exists_of_mapM_cons h
    rcases List.mem_cons.mp hb with rfl | hb
    · exact ⟨a, List.mem_cons_self, hc⟩
    · obtain ⟨a', ha', hb⟩ := ih hcs hb
      exact ⟨a', List.mem_cons_of_mem _ ha', hb⟩

/-- Mapping goes through the separators and the parts. -/
theorem map_intercalate (f : α → β) (sep : List α) (parts : List (List α)) :
    (sep.intercalate parts).map f = (sep.map f).intercalate (parts.map (·.map f)) := by
  induction parts with
  | nil => rfl
  | cons part rest ih =>
    by_cases hrest : rest = []
    · rw [hrest]
      simp
    · have hmap : rest.map (·.map f) ≠ [] := by simpa using hrest
      rw [List.intercalate_cons_of_ne_nil hrest, List.map_cons,
        List.intercalate_cons_of_ne_nil hmap, List.map_append, List.map_append, ih]

/-- An element of a joined list is of the separator or of a part. -/
theorem mem_of_mem_intercalate {sep : List α} {parts : List (List α)} {a : α}
    (h : a ∈ sep.intercalate parts) : a ∈ sep ∨ ∃ part ∈ parts, a ∈ part := by
  induction parts with
  | nil => cases h
  | cons part rest ih =>
    by_cases hrest : rest = []
    · rw [hrest, List.intercalate_singleton] at h
      exact .inr ⟨part, List.mem_cons_self, h⟩
    · rw [List.intercalate_cons_of_ne_nil hrest] at h
      rcases List.mem_append.mp h with h | h
      · rcases List.mem_append.mp h with h | h
        · exact .inr ⟨part, List.mem_cons_self, h⟩
        · exact .inl h
      · exact (ih h).imp_right fun ⟨p, hp, ha⟩ => ⟨p, List.mem_cons_of_mem _ hp, ha⟩

end Lists

theorem labels_ne_nil (ns : List Nat) : labels ns ≠ [] := by
  cases ns with
  | nil => exact nofun
  | cons n rest =>
    unfold labels
    split
    · exact nofun
    · split <;> exact nofun

theorem labels_append (ns ms : List Nat) :
    labels (ns ++ 0x2e :: ms) = labels ns ++ labels ms := by
  induction ns with
  | nil => rfl
  | cons n ns ih =>
    rw [List.cons_append, labels, ih, labels.eq_def (n :: ns)]
    dsimp only
    split
    · rfl
    · cases h : labels ns with
      | nil => exact absurd h (labels_ne_nil ns)
      | cons label more => rfl

/-- A name without dots is one label. -/
theorem labels_of_not_mem {ns : List Nat} (h : 0x2e ∉ ns) : labels ns = [ns] := by
  induction ns with
  | nil => rfl
  | cons n ns ih =>
    have hn : n ≠ 0x2e := (List.ne_of_not_mem_cons h).symm
    rw [labels, if_neg hn, ih (List.not_mem_of_not_mem_cons h)]

/-- Labels with full stops between them are told apart. -/
theorem labels_intercalate {parts : List (List Nat)} (hsome : parts ≠ [])
    (h : ∀ part ∈ parts, 0x2e ∉ part) : labels ([0x2e].intercalate parts) = parts := by
  induction parts with
  | nil => exact absurd rfl hsome
  | cons part rest ih =>
    have hpart : 0x2e ∉ part := h part List.mem_cons_self
    by_cases hrest : rest = []
    · rw [hrest, List.intercalate_singleton, labels_of_not_mem hpart]
    · rw [List.intercalate_cons_of_ne_nil hrest, List.append_assoc, List.singleton_append,
        labels_append, labels_of_not_mem hpart,
        ih hrest fun p hp => h p (List.mem_cons_of_mem _ hp)]
      rfl

/-- A label is a part of the name, without full stops. -/
theorem mem_labels {ns label : List Nat} (h : label ∈ labels ns) :
    (∀ n ∈ label, n ∈ ns) ∧ 0x2e ∉ label := by
  induction ns generalizing label with
  | nil =>
    rw [List.mem_singleton.mp h]
    exact ⟨nofun, nofun⟩
  | cons n ns ih =>
    rw [labels] at h
    split at h
    · -- a dot starts a new label
      rcases List.mem_cons.mp h with rfl | h
      · exact ⟨nofun, nofun⟩
      · exact (ih h).imp_left fun hall m hm => List.mem_cons_of_mem _ (hall m hm)
    · next hn =>
      cases hlabels : labels ns with
      | nil => exact absurd hlabels (labels_ne_nil ns)
      | cons first more =>
        rw [hlabels] at h ih
        rcases List.mem_cons.mp h with rfl | h
        · -- another code point goes to the first label
          obtain ⟨hall, hdot⟩ := ih List.mem_cons_self
          constructor
          · intro m hm
            rcases List.mem_cons.mp hm with rfl | hm
            · exact List.mem_cons_self
            · exact List.mem_cons_of_mem _ (hall m hm)
          · intro hm
            rcases List.mem_cons.mp hm with hm | hm
            · exact hn hm.symm
            · exact hdot hm
        · exact (ih (List.mem_cons_of_mem _ h)).imp_left fun hall m hm =>
            List.mem_cons_of_mem _ (hall m hm)

/-! ## §2. Characters. -/

/-- A code point in ASCII that a name keeps as it is, and that is no full stop. -/
structure IsPlain (n : Nat) : Prop where
  ascii : n < 0x80
  kept : form? n = some [n]
  allowed : isForbidden n = false
  dotless : n ≠ 0x2e

/-- The characters of Punycode are plain. -/
theorem isPlain_of_range {n : Nat} (h : (97 ≤ n ∧ n ≤ 122) ∨ (48 ≤ n ∧ n ≤ 57) ∨ n = 45) :
    IsPlain n := by
  have hall : ∀ n < 0x80, (97 ≤ n ∧ n ≤ 122) ∨ (48 ≤ n ∧ n ≤ 57) ∨ n = 45 →
      form? n = some [n] ∧ isForbidden n = false ∧ n ≠ 0x2e := by decide
  have hlt : n < 0x80 := by omega
  obtain ⟨hkept, hallowed, hdot⟩ := hall n hlt h
  exact ⟨hlt, hkept, hallowed, hdot⟩

theorem isPlain_of_isDigit {c : Char} (h : Punycode.IsDigit c) : IsPlain c.toNat := by
  apply isPlain_of_range
  rcases h with h | h
  · obtain ⟨hlow, hhigh⟩ := Bool.and_eq_true_iff.mp h
    exact .inl ⟨of_decide_eq_true hlow, of_decide_eq_true hhigh⟩
  · exact .inr (.inl (Char.isDigit_iff_toNat.mp h))

/-- A text in ASCII that mapping keeps. -/
theorem mapped?_of_plain {ns : List Nat} (hascii : isAscii ns = true)
    (h : ∀ n ∈ ns, form? n = some [n]) : mapped? ns = some ns := by
  unfold mapped?
  rw [mapM_eq_some_of_forall h]
  show some (composed (ns.map fun n => [n]).flatten) = some ns
  rw [← List.flatMap_def, List.flatMap_singleton', composed, if_pos hascii]

/-- A label in ASCII has no joiners, so nothing is asked of their neighbours. -/
theorem joinersFit_of_ascii (before : List Nat) {ns : List Nat} (h : isAscii ns = true) :
    joinersFit before ns = true := by
  induction ns generalizing before with
  | nil => rfl
  | cons n ns ih =>
    obtain ⟨hn, hns⟩ := Bool.and_eq_true_iff.mp (List.all_cons.symm.trans h)
    have hlt : n < 0x80 := of_decide_eq_true hn
    rw [joinersFit, if_neg (by omega), if_neg (by omega), ih _ hns]
    rfl

/-- A label in ASCII is sound when every code point of it is kept. -/
theorem isSound_of_ascii {ns : List Nat} (hascii : isAscii ns = true)
    (h : ∀ n ∈ ns, isKept n = true) : isSound ns = true := by
  have hmark : ns.head?.any isMark = false := by
    cases ns with
    | nil => rfl
    | cons n ns =>
      have hlt : n < 0x80 := of_decide_eq_true (List.all_eq_true.mp hascii n List.mem_cons_self)
      have hnot : ¬ 0x80 ≤ n := Nat.not_le.mpr hlt
      show (decide (0x80 ≤ n) && _) = false
      rw [decide_eq_false hnot, Bool.false_and]
  unfold isSound isValid composed
  rw [List.all_eq_true.mpr h, if_pos hascii, hmark, joinersFit_of_ascii _ hascii]
  simp

/-! ## §3. Meanings. -/

/-- What every meaning of a label satisfies. -/
structure IsMeaning (m : List Nat) : Prop where
  sound : isSound m = true
  allowed : ∀ n ∈ m, isForbidden n = false
  dotless : 0x2e ∉ m
  /-- In ASCII it is no Punycode. -/
  noCode : isAscii m = true → ¬ [0x78, 0x6e, 0x2d, 0x2d] <+: m

namespace IsMeaning

variable {m : List Nat}

/-- Every code point of a meaning is a character that the mapping keeps. -/
theorem kept (h : IsMeaning m) : ∀ n ∈ m, n.isValidChar ∧ form? n = some [n] := by
  intro n hn
  have hvalid : isValid m = true := by
    have hsound := h.sound
    unfold isSound at hsound
    exact (Bool.and_eq_true_iff.mp (Bool.and_eq_true_iff.mp hsound).1).1
  have hkept := List.all_eq_true.mp (Bool.and_eq_true_iff.mp hvalid).1 n hn
  obtain ⟨hchar, hform⟩ := Bool.and_eq_true_iff.mp hkept
  exact ⟨of_decide_eq_true hchar, eq_of_beq hform⟩

/-- The code points of a meaning are those of its characters. -/
theorem toNat_ofNat (h : IsMeaning m) : (m.map Char.ofNat).map Char.toNat = m := by
  rw [List.map_map]
  refine (List.map_congr_left fun n hn => ?_).trans (List.map_id _)
  exact Punycode.toNat_ofNat (h.kept n hn).1

/-- The code points of a meaning that are in ASCII are plain. -/
theorem isPlain (h : IsMeaning m) {n : Nat} (hn : n ∈ m) (hascii : n < 0x80) : IsPlain n :=
  ⟨hascii, (h.kept n hn).2, h.allowed n hn, fun hdot => h.dotless (hdot ▸ hn)⟩

/-- The Punycode of a meaning is plain. -/
theorem isPlain_encode (h : IsMeaning m) : ∀ c ∈ Punycode.encode m, IsPlain c.toNat := by
  intro c hc
  obtain ⟨digits, hencode, hdigits, -⟩ := Punycode.encode_eq fun n hn => (h.kept n hn).1
  rw [hencode] at hc
  rcases List.mem_append.mp hc with hc | hc
  · rcases List.mem_append.mp hc with hc | hc
    · -- an ASCII character of the label
      obtain ⟨n, hn, rfl⟩ := List.mem_map.mp hc
      obtain ⟨hn, hlt⟩ := List.mem_filter.mp hn
      rw [Punycode.toNat_ofNat (h.kept n hn).1]
      exact h.isPlain hn (of_decide_eq_true hlt)
    · split at hc
      · cases hc
      · rw [List.mem_singleton.mp hc]
        exact isPlain_of_range (.inr (.inr rfl))
  · exact isPlain_of_isDigit (hdigits c hc)

/-- The written form of a meaning is plain. -/
theorem isPlain_labelText (h : IsMeaning m) : ∀ n ∈ (labelText m).map Char.toNat, IsPlain n := by
  intro n hn
  unfold labelText at hn
  split at hn
  · next hascii =>
    rw [h.toNat_ofNat] at hn
    exact h.isPlain hn (of_decide_eq_true (List.all_eq_true.mp hascii n hn))
  · obtain ⟨c, hc, rfl⟩ := List.mem_map.mp hn
    rcases List.mem_append.mp hc with hc | hc
    · have hcode : c.toNat ∈ [0x78, 0x6e, 0x2d, 0x2d] := List.mem_map_of_mem hc
      apply isPlain_of_range
      simp at hcode
      omega
    · exact h.isPlain_encode c hc

end IsMeaning

theorem isAscii_of_isPlain {ns : List Nat} (h : ∀ n ∈ ns, IsPlain n) : isAscii ns = true :=
  List.all_eq_true.mpr fun n hn => decide_eq_true (h n hn).ascii

/-- A label that could be read has a meaning, of its own or in Punycode. -/
theorem isMeaning_of_labelMeaning? {label m : List Nat}
    (hallowed : ∀ n ∈ label, isForbidden n = false) (hdot : 0x2e ∉ label)
    (h : labelMeaning? label = some m) : IsMeaning m := by
  unfold labelMeaning? at h
  split at h
  · -- Punycode, whose meaning is not in ASCII
    next rest =>
    obtain ⟨meaning, -, h⟩ := Option.bind_eq_some_iff.mp h
    obtain ⟨u, hascii, h⟩ := Option.bind_eq_some_iff.mp h
    obtain ⟨v, hfree, h⟩ := Option.bind_eq_some_iff.mp h
    obtain ⟨w, hsound, h⟩ := Option.bind_eq_some_iff.mp h
    cases h
    have hascii := (Bool.and_eq_true_iff.mp ((Option.guard_eq_some' u).mp hascii)).2
    obtain ⟨hforbidden, hdot⟩ := Bool.and_eq_true_iff.mp ((Option.guard_eq_some' v).mp hfree)
    refine ⟨(Option.guard_eq_some' w).mp hsound, ?_, ?_, ?_⟩
    · intro n hn
      exact Bool.eq_false_iff.mpr fun hn' => by
        rw [List.any_eq_true.mpr ⟨n, hn, hn'⟩] at hforbidden
        cases hforbidden
    · simpa using hdot
    · intro h
      rw [h] at hascii
      cases hascii
  · next hother =>
    obtain ⟨u, hsound, h⟩ := Option.bind_eq_some_iff.mp h
    cases h
    refine ⟨(Option.guard_eq_some' u).mp hsound, hallowed, hdot, ?_⟩
    rintro - ⟨rest, hrest⟩
    exact hother rest hrest.symm

/-- **THE WRITTEN FORM OF A MEANING** has that meaning. -/
theorem IsMeaning.labelMeaning?_labelText {m : List Nat} (h : IsMeaning m) :
    labelMeaning? ((labelText m).map Char.toNat) = some m := by
  have hplain := h.isPlain_labelText
  -- in ASCII a meaning is written as it is, otherwise in Punycode
  by_cases hascii : isAscii m = true
  · have htext : (labelText m).map Char.toNat = m := by
      unfold labelText
      rw [if_pos hascii, h.toNat_ofNat]
    rw [htext]
    unfold labelMeaning?
    split
    · next rest => exact absurd (List.prefix_append _ rest) (h.noCode hascii)
    · rw [h.sound]
      rfl
  · have htext : (labelText m).map Char.toNat
        = 0x78 :: 0x6e :: 0x2d :: 0x2d :: (Punycode.encode m).map Char.toNat := by
      unfold labelText
      rw [if_neg hascii, List.map_append]
      rfl
    have hcode : ((Punycode.encode m).map Char.toNat).map Char.ofNat = Punycode.encode m := by
      rw [List.map_map]
      exact (List.map_congr_left fun c _ => Char.ofNat_toNat c).trans (List.map_id _)
    have hforbidden : m.any isForbidden = false :=
      List.any_eq_false.mpr fun n hn => by simp [h.allowed n hn]
    have hdot : m.contains 0x2e = false := by simpa using h.dotless
    rw [htext] at hplain ⊢
    have hcodeless : isAscii m = false := Bool.eq_false_iff.mpr hascii
    rw [labelMeaning?, hcode, Punycode.decode?_encode fun n hn => (h.kept n hn).1,
      isAscii_of_isPlain hplain]
    simp only [Option.bind_eq_bind, Option.bind_some, hcodeless, hforbidden, hdot, h.sound]
    rfl

/-! ## §4. Names. -/

/-- Meanings that may stand in one name. -/
structure AreMeanings (meanings : List (List Nat)) : Prop where
  nonempty : meanings ≠ []
  each : ∀ m ∈ meanings, IsMeaning m
  direction : (!(meanings.any (·.any isRightToLeft)) || meanings.all followsDirectionRule) = true

/-- Names in ASCII have no direction. -/
theorem areMeanings_of_ascii {meanings : List (List Nat)} (hsome : meanings ≠ [])
    (h : ∀ m ∈ meanings, IsMeaning m) (hascii : ∀ m ∈ meanings, isAscii m = true) :
    AreMeanings meanings := by
  have hnone : meanings.any (·.any isRightToLeft) = false := by
    refine List.any_eq_false.mpr fun m hm hany => ?_
    obtain ⟨n, hn, hright⟩ := List.any_eq_true.mp hany
    have hlt : n < 0x80 := of_decide_eq_true (List.all_eq_true.mp (hascii m hm) n hn)
    have hle : 0x80 ≤ n := of_decide_eq_true (Bool.and_eq_true_iff.mp hright).1
    omega
  exact ⟨hsome, h, by rw [hnone]; rfl⟩

/-- The written form of a name. -/
def nameText (meanings : List (List Nat)) : List Char := ['.'].intercalate (meanings.map labelText)

/-- An ASCII form is made of meanings. -/
theorem exists_areMeanings {cs out : List Char} (h : toAscii? cs = some out) :
    ∃ meanings, AreMeanings meanings ∧ out = nameText meanings := by
  unfold toAscii? at h
  obtain ⟨ns, -, h⟩ := Option.bind_eq_some_iff.mp h
  obtain ⟨u, hallowed, h⟩ := Option.bind_eq_some_iff.mp h
  obtain ⟨meanings, hmeanings, h⟩ := Option.bind_eq_some_iff.mp h
  obtain ⟨v, hdirection, h⟩ := Option.bind_eq_some_iff.mp h
  cases h
  have hallowed : ns.any isForbidden = false := by
    simpa using (Option.guard_eq_some' u).mp hallowed
  refine ⟨meanings, ⟨?_, fun m hm => ?_, (Option.guard_eq_some' v).mp hdirection⟩, rfl⟩
  · -- there is a label, if an empty one
    rintro rfl
    obtain ⟨label, rest, hlabels⟩ := List.exists_cons_of_ne_nil (labels_ne_nil ns)
    rw [hlabels] at hmeanings
    obtain ⟨_, _, -, -, hnil⟩ := exists_of_mapM_cons hmeanings
    cases hnil
  · obtain ⟨label, hlabel, hm⟩ := exists_of_mem_mapM hmeanings hm
    obtain ⟨hall, hdot⟩ := mem_labels hlabel
    refine isMeaning_of_labelMeaning? (fun n hn => ?_) hdot hm
    exact Bool.eq_false_iff.mpr fun hforbidden =>
      absurd (List.any_eq_true.mpr ⟨n, hall n hn, hforbidden⟩) (by simp [hallowed])

/-- The written form of a name is plain, but for its full stops. -/
theorem AreMeanings.mem_nameText {meanings : List (List Nat)} (h : AreMeanings meanings)
    {c : Char} (hc : c ∈ nameText meanings) : c = '.' ∨ IsPlain c.toNat := by
  rcases mem_of_mem_intercalate hc with hc | ⟨text, htext, hc⟩
  · exact .inl (List.mem_singleton.mp hc)
  · obtain ⟨m, hm, rfl⟩ := List.mem_map.mp htext
    exact .inr ((h.each m hm).isPlain_labelText _ (List.mem_map_of_mem hc))

/-- **A NAME MADE OF MEANINGS** is its own ASCII form. -/
theorem AreMeanings.toAscii?_nameText {meanings : List (List Nat)} (h : AreMeanings meanings) :
    toAscii? (nameText meanings) = some (nameText meanings) := by
  have hcodes : (nameText meanings).map Char.toNat
      = [0x2e].intercalate (meanings.map fun m => (labelText m).map Char.toNat) := by
    unfold nameText
    rw [map_intercalate, List.map_map]
    rfl
  -- the text is in ASCII, and mapping leaves it as it is
  have hascii : ∀ n ∈ (nameText meanings).map Char.toNat,
      n < 0x80 ∧ form? n = some [n] ∧ isForbidden n = false := by
    intro n hn
    obtain ⟨c, hc, rfl⟩ := List.mem_map.mp hn
    rcases h.mem_nameText hc with rfl | hplain
    · decide
    · exact ⟨hplain.ascii, hplain.kept, hplain.allowed⟩
  have hmapped : mapped? ((nameText meanings).map Char.toNat)
      = some ((nameText meanings).map Char.toNat) :=
    mapped?_of_plain (List.all_eq_true.mpr fun n hn => decide_eq_true (hascii n hn).1)
      fun n hn => (hascii n hn).2.1
  have hallowed : ((nameText meanings).map Char.toNat).any isForbidden = false :=
    List.any_eq_false.mpr fun n hn => by simp [(hascii n hn).2.2]
  -- its labels are those that were joined, as none of them has a dot
  have hlabels : labels ((nameText meanings).map Char.toNat)
      = meanings.map fun m => (labelText m).map Char.toNat := by
    rw [hcodes]
    apply labels_intercalate
    · simpa using h.nonempty
    · intro part hpart hdot
      obtain ⟨m, hm, rfl⟩ := List.mem_map.mp hpart
      exact ((h.each m hm).isPlain_labelText _ hdot).dotless rfl
  have hmeanings : (labels ((nameText meanings).map Char.toNat)).mapM labelMeaning?
      = some meanings := by
    have hsame : meanings.mapM (labelMeaning? ∘ fun m => (labelText m).map Char.toNat)
        = some (meanings.map id) :=
      mapM_eq_some_of_forall fun m hm => (h.each m hm).labelMeaning?_labelText
    rw [hlabels, List.mapM_map, hsame, List.map_id]
  unfold toAscii?
  simp only [hmapped, hallowed, hmeanings, h.direction, Option.bind_eq_bind, Option.bind_some]
  rfl

/-- **AN ASCII FORM IS ITS OWN ASCII FORM.** -/
theorem toAscii?_of_toAscii? {cs out : List Char} (h : toAscii? cs = some out) :
    toAscii? out = some out := by
  obtain ⟨meanings, hmeanings, rfl⟩ := exists_areMeanings h
  exact hmeanings.toAscii?_nameText

end ApiPlaybook.Url.Domain
