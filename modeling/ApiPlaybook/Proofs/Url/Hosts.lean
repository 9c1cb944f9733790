/-
  ApiPlaybook.Proofs.Url.Hosts
  ────────────────────────────
  **HOSTS ARE READ BACK.**

  A host that was read is written so that it is read as the same host again, and
  so that it can be told from what stands around it in an authority
  (`Host.Rereads`): a name is in its ASCII form or has its characters escaped, an
  address is in range.
-/
import ApiPlaybook.Proofs.Url.Addresses
import ApiPlaybook.Url.Reader

namespace ApiPlaybook.Url

/-! ## §1. Texts without escapes. -/

/-- A text without percent signs is decoded to its bytes. -/
theorem percentDecode_of_not_mem {cs : List Char} (h : '%' ∉ cs) :
    percentDecode cs = utf8Bytes cs := by
  induction cs with
  | nil => rfl
  | cons c cs ih =>
    rw [percentDecode_cons (List.ne_of_not_mem_cons h).symm, ih (List.not_mem_of_not_mem_cons h)]
    rfl

/-- The bytes of a text are read back as this text. -/
theorem utf8Text?_utf8Bytes (cs : List Char) : utf8Text? (utf8Bytes cs) = some cs := by
  have hsame : cs.mapM (id ∘ some) = some (cs.map id) :=
    Domain.mapM_eq_some_of_forall fun _ _ => rfl
  unfold utf8Text?
  rw [decodeUtf8_utf8Bytes, List.mapM_map, hsame, List.map_id]

/-- Characters that are no brackets, and no colons outside of brackets, are passed over. -/
theorem splitPort_append {part : List Char} (h : ∀ c ∈ part, c ≠ '[' ∧ c ≠ ']')
    {b : Bool} (hcolon : b = true ∨ ':' ∉ part) (rest : List Char) :
    splitPort b (part ++ rest) = (part ++ (splitPort b rest).1, (splitPort b rest).2) := by
  induction part with
  | nil => rfl
  | cons c part ih =>
    obtain ⟨hopen, hclose⟩ := h c List.mem_cons_self
    have hnot : ¬ (c = ':' ∧ (!b) = true) := by
      rintro ⟨rfl, hb⟩
      rcases hcolon with rfl | hcolon
      · cases hb
      · exact hcolon List.mem_cons_self
    rw [List.cons_append, splitPort, if_neg hnot, if_neg hopen, if_neg hclose,
      ih (fun d hd => h d (List.mem_cons_of_mem _ hd))
        (hcolon.imp_right List.not_mem_of_not_mem_cons)]
    rfl

/-! ## §2. Hosts. -/

/-- The host of a URL. -/
def hostOf (special : Bool) (cs : List Char) : Except UrlError Host :=
  if special then Host.ofSpecial cs else Host.ofOther cs

/-- A character that may stand in a host: visible, and no mark of another part of a URL. -/
def IsHostChar (c : Char) : Prop := ' ' < c ∧ c ∉ ['/', '\\', '@', '?', '#']

instance (c : Char) : Decidable (IsHostChar c) := inferInstanceAs (Decidable (_ ∧ _))

namespace Host

/-- The text of a host is read as this host, and is told from what stands around it. -/
structure Rereads (special : Bool) (h : Host) : Prop where
  reads : hostOf special h.text = .ok h
  visible : ∀ c ∈ h.text, IsHostChar c
  split : ∀ rest, splitPort false (h.text ++ rest)
    = (h.text ++ (splitPort false rest).1, (splitPort false rest).2)

/-! ### Addresses in brackets -/

/-- The text of an IPv6 address is read back between brackets. -/
theorem bracketed_ipv6Text {pieces : List Nat} (h : InRange pieces) :
    bracketed (ipv6Text pieces ++ [']']) = .ok (.ipv6 pieces) := by
  have hreverse : (ipv6Text pieces ++ [']']).reverse = ']' :: (ipv6Text pieces).reverse :=
    List.reverse_append
  unfold bracketed
  rw [hreverse]
  split
  · next inner heq =>
    cases heq
    rw [List.reverse_reverse, ipv6?_ipv6Text h]
  · next hnot => exact absurd rfl (hnot _)

/-- What is read between brackets is an IPv6 address in range. -/
theorem exists_inRange_of_bracketed {cs : List Char} {h : Host} (hread : bracketed cs = .ok h) :
    ∃ pieces, InRange pieces ∧ h = .ipv6 pieces := by
  unfold bracketed at hread
  split at hread
  · split at hread
    · next pieces hpieces =>
      cases hread
      exact ⟨pieces, ipv6?_inRange hpieces, rfl⟩
    · cases hread
  · cases hread

/-- The characters of an address: colons and digits. -/
theorem mem_ipv6Text {pieces : List Nat} {c : Char} (h : c ∈ ipv6Text pieces) :
    c = ':' ∨ ∃ d < 16, c = d.digitChar := by
  have hpieces {ps : List Nat} (h : c ∈ piecesText ps) : c = ':' ∨ ∃ d < 16, c = d.digitChar := by
    rcases Domain.mem_of_mem_intercalate h with h | ⟨part, hpart, h⟩
    · exact .inl (List.mem_singleton.mp h)
    · obtain ⟨p, -, rfl⟩ := List.mem_map.mp hpart
      exact .inr (exists_of_mem_toDigits (by decide) h)
  unfold ipv6Text at h
  dsimp only at h
  split at h
  · exact hpieces h
  · rcases List.mem_append.mp h with h | h
    · rcases List.mem_append.mp h with h | h
      · exact hpieces h
      · left
        simpa using h
    · exact hpieces h

/-- An IPv6 address is read back as the host it is. -/
theorem rereads_ipv6 {pieces : List Nat} (h : InRange pieces) (special : Bool) :
    (Host.ipv6 pieces).Rereads special where
  reads := by
    unfold hostOf
    show (if special = true then bracketed _ else bracketed _) = _
    rw [ite_self, bracketed_ipv6Text h]
  visible := by
    intro c hc
    rcases List.mem_cons.mp hc with rfl | hc
    · decide
    · rcases List.mem_append.mp hc with hc | hc
      · rcases mem_ipv6Text hc with rfl | ⟨d, hd, rfl⟩
        · decide
        · exact (by decide : ∀ d < 16, IsHostChar d.digitChar) d hd
      · rw [List.mem_singleton.mp hc]
        decide
  split := by
    intro rest
    -- the colons stand between the brackets
    have hinner : ∀ c ∈ ipv6Text pieces, c ≠ '[' ∧ c ≠ ']' := by
      intro c hc
      rcases mem_ipv6Text hc with rfl | ⟨d, hd, rfl⟩
      · decide
      · exact (by decide : ∀ d < 16, d.digitChar ≠ '[' ∧ d.digitChar ≠ ']') d hd
    have hclose : splitPort true (']' :: rest)
        = (']' :: (splitPort false rest).1, (splitPort false rest).2) := rfl
    have hopen (cs : List Char) : splitPort false ('[' :: cs)
        = ('[' :: (splitPort true cs).1, (splitPort true cs).2) := rfl
    show splitPort false ('[' :: (ipv6Text pieces ++ [']'] ++ rest)) = _
    rw [hopen, List.append_assoc, List.singleton_append, splitPort_append hinner (.inl rfl), hclose]
    simp [text]

/-! ### Names -/

/-- A text without brackets and colons is told from a port. -/
theorem Rereads.of_chars {special : Bool} {h : Host} (hreads : hostOf special h.text = .ok h)
    (hall : ∀ c ∈ h.text, IsHostChar c ∧ c ∉ ['[', ']', ':']) : h.Rereads special where
  reads := hreads
  visible := fun c hc => (hall c hc).1
  split := by
    intro rest
    refine splitPort_append (fun c hc => ?_) (.inr fun hc => ?_) rest
    · have hnot := (hall c hc).2
      simp only [List.mem_cons, not_or] at hnot
      exact ⟨hnot.1, hnot.2.1⟩
    · exact (hall ':' hc).2 (by decide)

/-- A text without refused characters is the name of a host, escaped. -/
theorem ofOther_of_name {cs : List Char} (h : ∀ c ∈ cs, isRefused c = false) :
    ofOther cs = .ok (.name (escape escapedAlways cs)) := by
  have hnone : cs.any isRefused = false :=
    List.any_eq_false.mpr fun c hc => by simp [h c hc]
  unfold ofOther
  split
  · next rest => exact absurd (h '[' List.mem_cons_self) (by decide)
  · rw [hnone]
    rfl

/-- A character that such a name may have is one of hosts, and no bracket or colon. -/
theorem isHostChar_of_not_refused {c : Char} (hrefused : isRefused c = false)
    (hplain : escapedAlways c = false) : IsHostChar c ∧ c ∉ ['[', ']', ':'] := by
  have hlt : c.toNat < 0x80 := Nat.lt_succ_of_lt (escapedAlways_eq_false.mp hplain).2
  exact forall_of_ascii (P := fun c => isRefused c = false → escapedAlways c = false →
    IsHostChar c ∧ c ∉ ['[', ']', ':']) (by decide) hlt hrefused hplain

/-- **A HOST UNDER ANY SCHEME** is read back. -/
theorem rereads_ofOther {cs : List Char} {h : Host} (hread : ofOther cs = .ok h) :
    h.Rereads false := by
  unfold ofOther at hread
  split at hread
  · obtain ⟨pieces, hpieces, rfl⟩ := exists_inRange_of_bracketed hread
    exact rereads_ipv6 hpieces false
  · split at hread
    · cases hread
    · next hnone =>
      cases hread
      have hrefused : ∀ c ∈ cs, isRefused c = false := by simpa using hnone
      have hplain : ∀ c ∈ escape escapedAlways cs,
          isRefused c = false ∧ escapedAlways c = false :=
        forall_mem_escape (fun c hc hplain => ⟨hrefused c hc, hplain⟩) (by decide) (by decide)
      refine .of_chars ?_ fun c hc => isHostChar_of_not_refused (hplain c hc).1 (hplain c hc).2
      -- what is escaped once stays as it is
      refine (ofOther_of_name fun c hc => (hplain c hc).1).trans ?_
      rw [escape_eq_self fun c hc => (hplain c hc).2]

/-! ### Domains -/

/-- So is one that a domain may have, and it is no percent sign either. -/
theorem isHostChar_of_allowed {c : Char} (hascii : c.toNat < 0x80)
    (hallowed : Domain.isForbidden c.toNat = false) : IsHostChar c ∧ c ∉ ['[', ']', ':', '%'] := by
  exact forall_of_ascii (P := fun c => Domain.isForbidden c.toNat = false →
    IsHostChar c ∧ c ∉ ['[', ']', ':', '%']) (by decide) hascii hallowed

theorem isHostChar_of_mem_nameText {meanings : List (List Nat)}
    (h : Domain.AreMeanings meanings) {c : Char} (hc : c ∈ Domain.nameText meanings) :
    IsHostChar c ∧ c ∉ ['[', ']', ':', '%'] := by
  rcases h.mem_nameText hc with rfl | hplain
  · decide
  · exact isHostChar_of_allowed hplain.ascii hplain.allowed

/-- A name in its ASCII form is read as it is, or as an address. -/
theorem ofSpecial_nameText {meanings : List (List Nat)} (h : Domain.AreMeanings meanings)
    (hsome : Domain.nameText meanings ≠ []) :
    ofSpecial (Domain.nameText meanings)
      = if endsInNumber (Domain.nameText meanings) then
          match ipv4? (Domain.nameText meanings) with
          | some address => .ok (.ipv4 address)
          | none => .error .badIpv4
        else .ok (.name (Domain.nameText meanings)) := by
  have hplain {c : Char} (hc : c ∈ Domain.nameText meanings) : c ∉ ['[', ']', ':', '%'] :=
    (isHostChar_of_mem_nameText h hc).2
  have hpercent : '%' ∉ Domain.nameText meanings := fun hc => hplain hc (by decide)
  -- nothing is decoded, and the domain is what it was
  have hread : (utf8Text? (percentDecode (Domain.nameText meanings))).bind Domain.toAscii?
      = some (Domain.nameText meanings) := by
    rw [percentDecode_of_not_mem hpercent, utf8Text?_utf8Bytes]
    exact h.toAscii?_nameText
  obtain ⟨c, rest, hname⟩ := List.exists_cons_of_ne_nil hsome
  rw [hname] at hread hplain ⊢
  -- so it is not taken for an IPv6 address
  have hc : c ≠ '[' := by
    rintro rfl
    exact hplain List.mem_cons_self (by decide)
  unfold ofSpecial
  split
  · next heq => exact absurd (List.cons.inj heq).1 hc
  · generalize (utf8Text? (percentDecode (c :: rest))).bind Domain.toAscii? = read at hread ⊢
    subst hread
    rfl

/-- Digits are a label with the meaning that they show. -/
theorem isMeaning_digits (b : Nat) :
    Domain.IsMeaning ((Nat.toDigits 10 b).map Char.toNat) ∧
      Domain.isAscii ((Nat.toDigits 10 b).map Char.toNat) = true := by
  have hrange : ∀ n ∈ (Nat.toDigits 10 b).map Char.toNat, 48 ≤ n ∧ n ≤ 57 := by
    intro n hn
    obtain ⟨c, hc, rfl⟩ := List.mem_map.mp hn
    exact Char.isDigit_iff_toNat.mp (Nat.isDigit_of_mem_toDigits (by decide) (by decide) hc)
  have hplain : ∀ n ∈ (Nat.toDigits 10 b).map Char.toNat, Domain.IsPlain n := fun n hn =>
    Domain.isPlain_of_range (.inr (.inl (hrange n hn)))
  have hascii := Domain.isAscii_of_isPlain hplain
  refine ⟨⟨Domain.isSound_of_ascii hascii fun n hn => ?_, fun n hn => (hplain n hn).allowed,
    fun hdot => (hplain _ hdot).dotless rfl, fun _ hcode => ?_⟩, hascii⟩
  · have hvalid : n.isValidChar := .inl (by have := hrange n hn; omega)
    unfold Domain.isKept
    rw [decide_eq_true hvalid, (hplain n hn).kept, beq_self_eq_true]
    rfl
  · -- no digit is an `x`
    have hx := hrange 0x78 (hcode.subset List.mem_cons_self)
    omega

/-- An IPv4 address is written as a domain with its bytes as labels. -/
theorem nameText_bytesOf (a : Nat) :
    Domain.AreMeanings ((bytesOf a).map fun b => (Nat.toDigits 10 b).map Char.toNat) ∧
    Domain.nameText ((bytesOf a).map fun b => (Nat.toDigits 10 b).map Char.toNat)
      = (Host.ipv4 a).text := by
  constructor
  · apply Domain.areMeanings_of_ascii
    · exact nofun
    · intro m hm
      obtain ⟨b, -, rfl⟩ := List.mem_map.mp hm
      exact (isMeaning_digits b).1
    · intro m hm
      obtain ⟨b, -, rfl⟩ := List.mem_map.mp hm
      exact (isMeaning_digits b).2
  · have hlabel (b : Nat) :
        Domain.labelText ((Nat.toDigits 10 b).map Char.toNat) = Nat.toDigits 10 b := by
      unfold Domain.labelText
      rw [if_pos (isMeaning_digits b).2, List.map_map]
      exact (List.map_congr_left fun c _ => Char.ofNat_toNat c).trans (List.map_id _)
    unfold Domain.nameText
    rw [text_ipv4, List.map_map]
    exact congrArg _ (List.map_congr_left fun b _ => hlabel b)

/-- An IPv4 address is read back as the host it is. -/
theorem rereads_ipv4 {a : Nat} (h : a < 2 ^ 32) : (Host.ipv4 a).Rereads true := by
  obtain ⟨hmeanings, htext⟩ := nameText_bytesOf a
  have hchars : ∀ c ∈ (Host.ipv4 a).text, IsHostChar c ∧ c ∉ ['[', ']', ':'] := by
    intro c hc
    obtain ⟨hchar, hnot⟩ := isHostChar_of_mem_nameText hmeanings (htext ▸ hc)
    exact ⟨hchar, fun hmem => hnot (List.mem_append_left ['%'] hmem)⟩
  have hsome : Domain.nameText ((bytesOf a).map fun b => (Nat.toDigits 10 b).map Char.toNat) ≠ [] := by
    intro hnil
    have hends := endsInNumber_text a
    rw [← htext, hnil] at hends
    exact absurd hends (by decide)
  refine .of_chars ?_ hchars
  have hread := ofSpecial_nameText hmeanings hsome
  rw [htext, endsInNumber_text, ipv4?_text h] at hread
  exact hread

/-- **A HOST UNDER A SPECIAL SCHEME** is read back. -/
theorem rereads_ofSpecial {cs : List Char} {h : Host} (hread : ofSpecial cs = .ok h) :
    h.Rereads true ∧ h.isEmpty = false := by
  unfold ofSpecial at hread
  split at hread
  · obtain ⟨pieces, hpieces, rfl⟩ := exists_inRange_of_bracketed hread
    exact ⟨rereads_ipv6 hpieces true, rfl⟩
  · split at hread
    · cases hread
    · cases hread
    · next domain hsome hdomain =>
      obtain ⟨text, -, hascii⟩ := Option.bind_eq_some_iff.mp hdomain
      obtain ⟨meanings, hmeanings, rfl⟩ := Domain.exists_areMeanings hascii
      -- the name in its ASCII form decides once more whether it is an address
      have hreads := ofSpecial_nameText hmeanings hsome
      split at hread
      · split at hread
        · next address haddress =>
          cases hread
          exact ⟨rereads_ipv4 (ipv4?_lt haddress), rfl⟩
        · cases hread
      · next hname =>
        cases hread
        rw [if_neg hname] at hreads
        refine ⟨.of_chars hreads fun c hc => ?_, ?_⟩
        · obtain ⟨hchar, hnot⟩ := isHostChar_of_mem_nameText hmeanings hc
          exact ⟨hchar, fun hmem => hnot (List.mem_append_left ['%'] hmem)⟩
        · simpa [isEmpty] using hsome

end Host

end ApiPlaybook.Url
