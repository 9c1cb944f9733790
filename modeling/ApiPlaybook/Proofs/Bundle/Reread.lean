/-
  ApiPlaybook.Proofs.Bundle.Reread
  ────────────────────────────────
  **A BUNDLE THAT WAS WRITTEN IS READ AGAIN AS THE SAME BUNDLE.**

  A bundle that was read out of a text is written as a JSON text, with its
  members in any order, and read again.  It comes back as itself exactly when
  no variable that it imports declares a null as its default, and that is so
  unless a YAML text holds a number that JSON does not have or a quoted null
  (`Bundle.ofText_rereads_iff`).  The writer of numbers is not looked into: the
  numbers of the bundle must be read back one by one.
-/
import ApiPlaybook.Bundle.Text
import ApiPlaybook.Proofs.Bundle.Normal
import ApiPlaybook.Proofs.Yaml.Places

namespace ApiPlaybook

/-! ## §1. Bundles that were read. -/

section Reader

/-- Another wording of the error leaves what was read. -/
theorem mapError_eq_ok {ε ε' α : Type} {f : ε → ε'} {e : Except ε α} {v : α}
    (h : e.mapError f = .ok v) : e = .ok v := by
  cases e with
  | error e => cases h
  | ok v' =>
    cases h
    rfl

variable {α : Type} {read : Reader α} {s : String} {v : α}

/-- What was read is what the reader of the format it has gives. -/
theorem Reader.text_of_ofText {format : Option Format} {actual : Format}
    (h : Reader.ofText read format s = .ok (v, actual)) : read.text actual s = .ok v := by
  cases format with
  | some format =>
    have h : (read.text format s).map (fun v => (v, format)) = .ok (v, actual) := h
    cases hread : read.text format s with
    | error e =>
      rw [hread] at h
      cases h
    | ok v' =>
      rw [hread] at h
      cases h
      exact hread
  | none =>
    -- without a format JSON is tried first, and YAML where that fails
    have h : read.anyText s = .ok (v, actual) := h
    unfold Reader.anyText at h
    dsimp only at h
    split at h
    · next hread =>
      cases h
      exact hread
    · split at h
      · next hread =>
        cases h
        exact hread
      · cases h

/-- What is read out of a JSON text was read from its root. -/
theorem Reader.json_eq_ok (h : read.json s = .ok v) :
    read Draft (JsonText.read s).root = .ok v := by
  obtain ⟨v', hv, h⟩ := exists_of_bind_eq_ok (mapError_eq_ok h)
  dsimp only at h
  split at h
  · cases h
  · cases h
    exact hv

/-- What is read out of a YAML text was read from the root of its document. -/
theorem Reader.yaml_eq_ok (h : read.yaml s = .ok v) :
    ∃ d, Yaml.Document.ofText? s = some d ∧ read Yaml.Place (.ofDocument d) = .ok v := by
  have h : Yaml.decodeDocument (read Yaml.Place) s = .ok v := mapError_eq_ok h
  unfold Yaml.decodeDocument at h
  split at h
  · next d hd => exact ⟨d, hd, h⟩
  · cases h

end Reader

namespace Bundle

variable {format : Option Format} {actual : Format} {s : String} {b : Bundle}

/-- A bundle that was read is normal, whatever it was read from. -/
theorem exists_normal (h : Bundle.ofText format s = .ok (b, actual)) :
    ∃ Allowed, b.IsNormal Allowed := by
  have hread := Reader.text_of_ofText h
  cases actual with
  | json => exact ⟨_, Draft.lawful.bundle _ b trivial (Reader.json_eq_ok hread)⟩
  | yaml =>
    obtain ⟨d, -, hd⟩ := Reader.yaml_eq_ok hread
    exact ⟨_, Yaml.Place.lawful_any.bundle _ b trivial hd⟩

/-- A default that is null comes from a number that JSON does not have, or from a quoted
null. -/
theorem declaresNoNull_of_ofText (h : Bundle.ofText format s = .ok (b, actual))
    (hyaml : actual = .yaml → ∀ d, Yaml.Document.ofText? s = some d →
      d.IsFinite ∧ d.HasPlainNulls) : b.DeclaresNoNull := by
  have hread := Reader.text_of_ofText h
  cases actual with
  | json => exact (Draft.lawful.bundle _ b trivial (Reader.json_eq_ok hread)).declaresNoNull
  | yaml =>
    obtain ⟨d, hd, hb⟩ := Reader.yaml_eq_ok hread
    obtain ⟨hfinite, hplain⟩ := hyaml rfl d hd
    have hfit := Yaml.Place.isFit_ofDocument hd hfinite hplain
    exact (Yaml.Place.lawful.bundle _ b hfit hb).declaresNoNull

/-! ## §2. Bundles that are read again. -/

/-- The text of a normal bundle without null defaults is read as the bundle. -/
theorem IsNormal.ofText_text (h : b.IsNormal (· ≠ .null)) {j : Json} (hj : j.Arranges b.toJson)
    (hnumbers : j.NumbersReadBack) (hdepth : j.depth ≤ JsonText.greatestDepth) :
    Bundle.ofText (some .json) j.text = .ok (b, .json) := by
  have hread : decodeText Bundle.decode (JsonText.read j.text) = .ok b :=
    decodeText_text hnumbers hdepth (h.recovers j hj)
  show ((decodeText Bundle.decode (JsonText.read j.text)).mapError DocumentError.json).map _ = _
  rw [hread]
  rfl

/-- Written in a certain way, the bundle is read again as itself, and then written as the same
text. -/
def Rereads (write : Bundle → Json) (b : Bundle) : Prop :=
  ∃ b', Bundle.ofText (some .json) (write b).text = .ok (b', .json) ∧ b' = b ∧
    (write b').text = (write b).text

/-- **A BUNDLE THAT WAS READ IS WRITTEN AND READ AGAIN AS ITSELF** exactly when no default that
it declares is null; and so it is, unless a YAML text holds a number that JSON does not have or
a quoted null.  The members of objects may be written in any order. -/
theorem ofText_rereads_iff (h : Bundle.ofText format s = .ok (b, actual))
    {write : Bundle → Json} (hwrite : ∀ b, (write b).Arranges b.toJson)
    (hnumbers : (write b).NumbersReadBack) (hdepth : (write b).depth ≤ JsonText.greatestDepth) :
    (b.Rereads write ↔ b.DeclaresNoNull) ∧
      ((actual = .yaml → ∀ d, Yaml.Document.ofText? s = some d →
        d.IsFinite ∧ d.HasPlainNulls) → b.DeclaresNoNull) := by
  refine ⟨⟨?_, fun hn => ?_⟩, declaresNoNull_of_ofText h⟩
  · -- what is read out of a JSON text declares no null
    rintro ⟨_, hread, rfl, -⟩
    exact declaresNoNull_of_ofText hread nofun
  · obtain ⟨Allowed, hnormal⟩ := exists_normal h
    have hread := (hnormal.withoutNull hn).ofText_text (hwrite b) hnumbers hdepth
    exact ⟨b, hread, rfl, rfl⟩

/-! ## §3. Two texts. -/

/-- Whether a text is read as YAML, and its document and its bundle pass; the numbers of the
bundle are read back, and its parts are not nested too deep. -/
def readsAsYaml (s : String) (q : Yaml.Document → Bool) (p : Bundle → Bool) : Bool :=
  (Yaml.Document.ofText? s).any q && (Bundle.ofText none s).toOption.any fun r =>
    r.2 == .yaml && p r.1 && decide r.1.toJson.NumbersReadBack
      && decide (r.1.toJson.depth ≤ JsonText.greatestDepth)

/-- What the check of a text says about the text: it is read as YAML, as a bundle with these
properties. -/
theorem exists_of_readsAsYaml {q : Yaml.Document → Bool} {p : Bundle → Bool}
    (h : readsAsYaml s q p = true) :
    ∃ d b, Yaml.Document.ofText? s = some d ∧ q d = true ∧
      Bundle.ofText none s = .ok (b, .yaml) ∧ p b = true ∧
      b.toJson.NumbersReadBack ∧ b.toJson.depth ≤ JsonText.greatestDepth := by
  obtain ⟨hdocument, hbundle⟩ := Bool.and_eq_true_iff.mp h
  obtain ⟨d, hd, hq⟩ := (Option.any_eq_true _ _).mp hdocument
  obtain ⟨⟨b, actual⟩, hb, hfits⟩ := (Option.any_eq_true _ _).mp hbundle
  simp only [Bool.and_eq_true, beq_iff_eq, decide_eq_true_eq] at hfits
  obtain ⟨⟨⟨rfl, hp⟩, hnumbers⟩, hdepth⟩ := hfits
  refine ⟨d, b, hd, hq, ?_, hp, hnumbers, hdepth⟩
  cases hread : Bundle.ofText none s with
  | error e =>
    rw [hread] at hb
    cases hb
  | ok r =>
    rw [hread] at hb
    cases hb
    rfl

/-- A YAML text with a number as the default of a variable. -/
def numberDefaultText : String :=
  "environments: \x7be: \x7bvariables: \x7bv: \x7bname: X, default: 1.5\x7d\x7d\x7d\x7d"

/-- A YAML text whose default is a number is read again as the same bundle. -/
theorem numberDefaultText_rereads : ∃ b, Bundle.ofText none numberDefaultText = .ok (b, .yaml) ∧
    b.DeclaresNoNull ∧ b.Rereads Bundle.toJson := by
  have hreads : readsAsYaml numberDefaultText (fun d => d.root.allScalars Yaml.isFinite
      && d.root.allScalars Yaml.isPlainIfNull) (fun _ => true) = true := by
    decide +kernel
  obtain ⟨d, b, hd, hplain, hb, -, hnumbers, hdepth⟩ := exists_of_readsAsYaml hreads
  obtain ⟨hiff, hnull⟩ := ofText_rereads_iff hb (fun b => .refl b.toJson) hnumbers hdepth
  have hdeclares : b.DeclaresNoNull := by
    refine hnull fun _ d' hd' => ?_
    rw [hd] at hd'
    cases hd'
    exact Bool.and_eq_true_iff.mp hplain
  exact ⟨b, hb, hdeclares, hiff.mpr hdeclares⟩

/-- A YAML text with a quoted null as the default of a variable. -/
def quotedNullText : String :=
  "environments: \x7be: \x7bvariables: \x7bv: \x7bname: X, default: !!null 'null'\x7d\x7d\x7d\x7d"

/-- Its numbers are those of JSON, and yet it is not read again as the same bundle. -/
theorem quotedNullText_not_rereads : ∃ d b, Yaml.Document.ofText? quotedNullText = some d ∧
    d.IsFinite ∧ Bundle.ofText none quotedNullText = .ok (b, .yaml) ∧
    b.toJson.NumbersReadBack ∧ b.toJson.depth ≤ JsonText.greatestDepth ∧
    ∀ write, ¬ b.Rereads write := by
  have hreads : readsAsYaml quotedNullText (fun d => d.root.allScalars Yaml.isFinite)
      (fun b => decide ¬ b.DeclaresNoNull) = true := by
    decide +kernel
  obtain ⟨d, b, hd, hfinite, hb, hnull, hnumbers, hdepth⟩ := exists_of_readsAsYaml hreads
  refine ⟨d, b, hd, hfinite, hb, hnumbers, hdepth, ?_⟩
  -- what is read out of a JSON text declares no null
  rintro write ⟨_, hagain, rfl, -⟩
  exact of_decide_eq_true hnull (declaresNoNull_of_ofText hagain nofun)

end Bundle

end ApiPlaybook
