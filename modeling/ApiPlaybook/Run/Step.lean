/-
  ApiPlaybook.Run.Step
  ────────────────────
  **STEPS OF A RUN.**

  A step is a part of a run that may fail and that knows the credentials
  obtained so far.  What it obtained before it failed is kept.
-/
import ApiPlaybook.Run.Course

namespace ApiPlaybook

/-- What all steps of a run read and none changes. -/
structure Setup where
  bundle : Bundle
  api : ApiDocument
  /-- Asked instead of the servers of the API, unless it is blank. -/
  server : String

/-- A part of a run. -/
abbrev Step := OptionT (StateT CredentialCache Course)

namespace Step

variable {α : Type}

/-- Do what a course does. -/
def ofCourse (c : Course α) : Step α := OptionT.lift (StateT.lift c)

/-- Report an event. -/
def report (e : Event) : Step Unit := ofCourse (.report e (.done ()))

/-- Report a failure, and fail. -/
def fail (e : Event) : Step α := do
  report e
  failure

/-- Send a request. -/
def send (request : HttpRequest) : Step TransportAnswer := ofCourse (.send request .done)

/-- Do a step, and fail with an event of its own if it fails. -/
def orFail (step : Step α) (e : Event) : Step α := OptionT.mk do
  match ← step.run with
  | some v => return some v
  | none => (fail e).run

/-- The value under a key of the credentials obtained so far. -/
def kept? (key : CredentialKey) : Step (Option String) := return (← get).get? key

/-- Keep the value of a credential. -/
def keep (key : CredentialKey) (value : String) : Step Unit := modify (·.insert key value)

end Step

end ApiPlaybook
