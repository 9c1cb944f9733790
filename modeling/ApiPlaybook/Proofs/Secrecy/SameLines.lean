/-
  ApiPlaybook.Proofs.Secrecy.SameLines
  ────────────────────────────────────
  **RUNS THAT SHOW THE SAME LINES.**

  Two runs of which one has other secrets than the other are compared step by
  step.  They start at moments that differ in nothing but the values kept for
  hidden keys, and go on in step:

      both succeed or both fail, event by event with the same line, and they
      come to such moments again (`Outcome.Alike`); steps that do so can be put
      one behind another (`Step.Alike.bind`).

  Both runs have the same transport, and its answers are written in advance
  (`Transport.Scripted`): they depend on how many requests were sent, not on
  what is in them.
-/
import Mathlib.Data.List.Forall2
import Mathlib.Data.Option.Basic
import ApiPlaybook.Proofs.Run.Outcome
import ApiPlaybook.Run.Line

namespace ApiPlaybook

variable {α β : Type}

/-! ## §1. Lines. -/

/-- Events that are shown on the same line, with the same indentation before and
behind them. -/
structure Event.SameLine (e e' : Event) : Prop where
  line_eq : e.line = e'.line
  depthOf_eq : ∀ n : Nesting, n.depthOf e = n.depthOf e'

namespace Event.SameLine

/-- An event shows the line it shows. -/
theorem refl (e : Event) : e.SameLine e := ⟨rfl, fun _ => rfl⟩

theorem credentialFromCache (auth value value' : String) :
    (Event.credentialFromCache auth value).SameLine (.credentialFromCache auth value') :=
  ⟨rfl, fun _ => rfl⟩

theorem credentialSubstituted (auth value value' : String) (stack stack' : ScopeStack)
    (found found' : List FoundVariable) {missing missing' : List MissingVariable}
    (hm : missing = missing') :
    (Event.credentialSubstituted auth value stack found missing).SameLine
      (.credentialSubstituted auth value' stack' found' missing') := by
  rw [hm]
  exact ⟨rfl, fun _ => rfl⟩

/-- Of a payload only the missing names are shown. -/
theorem payloadSubstituted (stack stack' : ScopeStack) (found found' : List FoundVariable)
    {missing missing' : List MissingVariable} (hm : missing = missing') :
    (Event.payloadSubstituted stack found missing).SameLine
      (.payloadSubstituted stack' found' missing') := by
  rw [hm]
  exact ⟨rfl, fun _ => rfl⟩

/-- Of a request its method and its URL are shown. -/
theorem requestPrepared {http http' : HttpRequest} (hm : http.method = http'.method)
    (hu : http.url = http'.url) (operation : Option String) :
    (Event.requestPrepared http operation).SameLine (.requestPrepared http' operation) := by
  refine ⟨?_, fun _ => rfl⟩
  show _ ++ (" " ++ http.method ++ " " ++ http.url) = _ ++ (" " ++ http'.method ++ " " ++ http'.url)
  rw [hm, hu]
  rfl

end Event.SameLine

/-- Event by event the same line. -/
def SameLines (x y : List Event) : Prop := List.Forall₂ Event.SameLine x y

namespace SameLines

variable {x x' y y' : List Event}

theorem nil : SameLines [] [] := List.Forall₂.nil

theorem single {e e' : Event} (h : e.SameLine e') : SameLines [e] [e'] := .cons h .nil

theorem append (h : SameLines x y) (h' : SameLines x' y') : SameLines (x ++ x') (y ++ y') :=
  List.rel_append h h'

/-- The lines of a trace from some depth on. -/
theorem lines_eq (h : SameLines x y) (n : Nesting) :
    x.zipWith (fun e depth => e.indentedLine depth) (n.depths x)
      = y.zipWith (fun e depth => e.indentedLine depth) (n.depths y) := by
  induction h generalizing n with
  | nil => rfl
  | @cons e e' rest rest' he _ ih =>
    have hline : e.indentedLine (n.depthOf e).1 = e'.indentedLine (n.depthOf e').1 := by
      unfold Event.indentedLine
      rw [he.line_eq, he.depthOf_eq]
    unfold Nesting.depths
    rw [List.zipWith_cons_cons, List.zipWith_cons_cons, hline, ih, he.depthOf_eq]

/-- The lines of two such traces are the same, with the same depths. -/
theorem traceLines_eq (h : SameLines x y) : traceLines x = traceLines y := h.lines_eq ⟨0⟩

end SameLines

/-! ## §2. Moments and outcomes. -/

/-- Transports whose answers depend only on the number of requests sent before. -/
def Transport.Scripted (t : Transport) : Prop :=
  ∀ sent sent' request request', sent.length = sent'.length → t sent request = t sent' request'

/-- A mock always gives the same answer. -/
theorem Transport.scripted_mock : Transport.mock.Scripted := fun _ _ _ _ _ => rfl

/-- Answers that are given in advance do not depend on the requests. -/
theorem Transport.scripted_ofAnswers (answers : List TransportAnswer) :
    (Transport.ofAnswers answers).Scripted := by
  intro sent sent' request request' h
  unfold Transport.ofAnswers
  rw [h]

variable {hidden : CredentialKey → Prop} {t : Transport} {R : α → α → Prop} {S : β → β → Prop}

/-- The same keys, with the same values but for those that are hidden. -/
def CredentialCache.Alike (hidden : CredentialKey → Prop) (cache cache' : CredentialCache) : Prop :=
  ∀ key, Option.Rel (fun v v' => hidden key ∨ v = v') (cache.get? key) (cache'.get? key)

/-- Both keep a value, which may differ for a hidden key. -/
theorem CredentialCache.Alike.insert {cache cache' : CredentialCache}
    (h : cache.Alike hidden cache') {key : CredentialKey} {value value' : String}
    (hv : hidden key ∨ value = value') :
    (cache.insert key value).Alike hidden (cache'.insert key value') := by
  intro other
  rw [CredentialCache.get?_insert, CredentialCache.get?_insert]
  by_cases ho : other = key
  · rw [if_pos ho, if_pos ho, ho]
    exact .some hv
  · rw [if_neg ho, if_neg ho]
    exact h other

/-- As many requests were sent, and the same credentials are kept. -/
structure Moment.Alike (hidden : CredentialKey → Prop) (m m' : Moment) : Prop where
  cache : m.cache.Alike hidden m'.cache
  sent : m.sent.length = m'.sent.length

theorem Moment.Alike.refl (m : Moment) : m.Alike hidden m := by
  refine ⟨fun key => ?_, rfl⟩
  cases m.cache.get? key with
  | none => exact .none
  | some v => exact .some (.inr rfl)

/-- One more request is sent on both sides, whatever is in it. -/
theorem Moment.Alike.sending {m m' : Moment} (h : m.Alike hidden m') (http http' : HttpRequest) :
    (m.sending http).Alike hidden (m'.sending http') := by
  refine ⟨h.cache, ?_⟩
  unfold Moment.sending
  rw [List.length_append, List.length_append, h.sent]
  rfl

/-- Both succeed, with values that are related, or both fail. -/
inductive Outcome.Alike (hidden : CredentialKey → Prop) (R : α → α → Prop) :
    Outcome α → Outcome α → Prop where
  | some {v v' : α} {x y : List Event} {m m' : Moment} (hv : R v v') (hx : SameLines x y)
      (hm : m.Alike hidden m') : Alike hidden R ⟨.some v, x, m⟩ ⟨.some v', y, m'⟩
  | none {x y : List Event} {m m' : Moment} (hx : SameLines x y) (hm : m.Alike hidden m') :
      Alike hidden R ⟨.none, x, m⟩ ⟨.none, y, m'⟩

/-- Events with the same lines in front of outcomes that are alike. -/
theorem Outcome.Alike.reporting {o o' : Outcome α} (h : o.Alike hidden R o') {x y : List Event}
    (hxy : SameLines x y) : (o.reporting x).Alike hidden R (o'.reporting y) := by
  cases h with
  | some hv hx hm => exact .some hv (hxy.append hx) hm
  | none hx hm => exact .none (hxy.append hx) hm

/-! ## §3. Steps. -/

/-- Two steps that do alike from any two moments that are. -/
def Step.Alike (hidden : CredentialKey → Prop) (t : Transport) (R : α → α → Prop)
    (x y : Step α) : Prop :=
  ∀ m m', m.Alike hidden m' → (x.outcome t m).Alike hidden R (y.outcome t m')

namespace Step.Alike

/-- Values that are related are alike as steps. -/
theorem pure {v v' : α} (h : R v v') : Step.Alike hidden t R (Pure.pure v) (Pure.pure v') := by
  intro m m' hm
  exact .some h .nil hm

/-- **ONE STEP AFTER ANOTHER**: what follows has to be alike only for values that the
first steps may come to. -/
theorem bind {x y : Step α} {f g : α → Step β} (h : Step.Alike hidden t R x y)
    (hf : ∀ v v', R v v' → Step.Alike hidden t S (f v) (g v')) :
    Step.Alike hidden t S (x >>= f) (y >>= g) := by
  intro m m' hm
  have hx := h m m' hm
  rw [Step.outcome_bind, Step.outcome_bind]
  generalize x.outcome t m = o at hx ⊢
  generalize y.outcome t m' = o' at hx ⊢
  cases hx with
  | some hv hx hm => exact (hf _ _ hv _ _ hm).reporting hx
  | none hx hm => exact .none hx hm

theorem report {e e' : Event} (h : e.SameLine e') :
    Step.Alike hidden t (fun _ _ => True) (Step.report e) (Step.report e') := by
  intro m m' hm
  exact .some trivial (.single h) hm

theorem fail {e e' : Event} (h : e.SameLine e') :
    Step.Alike hidden t R (Step.fail e) (Step.fail e') := by
  intro m m' hm
  exact .none (.single h) hm

/-- The same names are missing, so both go on or both fail, which tells these names. -/
theorem unless_missing {missing missing' : List MissingVariable} {e : List MissingVariable → Event}
    {f g : Unit → Step β} (hm : missing = missing') (hf : Step.Alike hidden t S (f ()) (g ())) :
    Step.Alike hidden t S
      (if (!missing.isEmpty) = true then Step.fail (e missing) >>= f else f ())
      (if (!missing'.isEmpty) = true then Step.fail (e missing') >>= g else g ()) := by
  rw [hm]
  split
  · exact .bind (R := fun _ _ => True) (.fail (.refl _)) fun _ _ _ => hf
  · exact hf

/-- Values with warnings, whatever is warned of. -/
theorem ofWarned {w w' : Warned α} (h : R w.value w'.value) :
    Step.Alike hidden t R (Step.ofCourse (.ofWarned w)) (Step.ofCourse (.ofWarned w')) := by
  intro m m' hm
  rw [Step.outcome_ofWarned, Step.outcome_ofWarned]
  exact .some h .nil hm

theorem warnAll (ws : List Warning) :
    Step.Alike hidden t (fun _ _ => True) (Step.ofCourse (Course.warnAll ws))
      (Step.ofCourse (Course.warnAll ws)) := by
  intro m m' hm
  rw [Step.outcome_warnAll, Step.outcome_warnAll]
  exact .some trivial .nil hm

/-- A credential is kept on both sides or on neither, with one value unless it is hidden. -/
theorem kept? (key : CredentialKey) :
    Step.Alike hidden t (Option.Rel fun v v' => hidden key ∨ v = v') (Step.kept? key)
      (Step.kept? key) := by
  intro m m' hm
  exact .some (hm.cache key) .nil hm

/-- Both keep a value, which may differ for a hidden key. -/
theorem keep {key : CredentialKey} {value value' : String} (hv : hidden key ∨ value = value') :
    Step.Alike hidden t (fun _ _ => True) (Step.keep key value) (Step.keep key value') := by
  intro m m' hm
  exact .some trivial .nil ⟨hm.cache.insert hv, hm.sent⟩

/-- The answer was written before the request was. -/
theorem send (ht : t.Scripted) (http http' : HttpRequest) :
    Step.Alike hidden t Eq (Step.send http) (Step.send http') := by
  intro m m' hm
  exact .some (ht _ _ _ _ hm.sent) .nil (hm.sending http http')

theorem orFail {x y : Step α} (h : Step.Alike hidden t R x y) (e : Event) :
    Step.Alike hidden t R (x.orFail e) (y.orFail e) := by
  intro m m' hm
  have hx := h m m' hm
  rw [Step.outcome_orFail, Step.outcome_orFail]
  generalize x.outcome t m = o at hx ⊢
  generalize y.outcome t m' = o' at hx ⊢
  cases hx with
  | some hv hx hm => exact .some hv hx hm
  | none hx hm => exact .none (hx.append (.single (.refl e))) hm

end Step.Alike

end ApiPlaybook
