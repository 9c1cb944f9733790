/-
  ApiPlaybook.Run.Course
  ──────────────────────
  **THE COURSE OF A RUN.**

  A course reports events, gives warnings and sends requests, one after the
  other, until it ends with a value.  What it does after a request may depend
  on the answer and on nothing else, so a course is the same whatever transport
  it is run with.  Running one course after another puts together what they
  report (`Course.run_bind`).
-/
import ApiPlaybook.Run.Event

namespace ApiPlaybook

/-- What a transport says to a request. -/
abbrev TransportAnswer := Except TransportError Reply

/-- Whoever answers requests, from those sent before and the one at hand. -/
abbrev Transport := List HttpRequest → HttpRequest → TransportAnswer

namespace Transport

/-- Nothing is ever sent. -/
def mock : Transport := fun _ _ => .ok .mock

/-- Each request gets the next answer of a list, and when the list has ended
the last one again. -/
def ofAnswers (answers : List TransportAnswer) : Transport := fun sent _ =>
  (answers[sent.length]?.or answers.getLast?).getD (.ok .mock)

end Transport

/-- What a run does. -/
inductive Course (α : Type) where
  | done (value : α)
  | report (event : Event) (next : Course α)
  | warn (warning : Warning) (next : Course α)
  | send (request : HttpRequest) (next : TransportAnswer → Course α)

namespace Course

variable {α β γ : Type}

/-- Do one thing after another. -/
def bind (f : α → Course β) : Course α → Course β
  | .done v => f v
  | .report e next => .report e (bind f next)
  | .warn w next => .warn w (bind f next)
  | .send r next => .send r fun a => bind f (next a)

instance : Monad Course where
  pure := .done
  bind c f := bind f c

@[simp] theorem done_bind (v : α) (f : α → Course β) : (Course.done v >>= f) = f v := rfl

@[simp] theorem report_bind (e : Event) (c : Course α) (f : α → Course β) :
    (Course.report e c >>= f) = .report e (c >>= f) := rfl

@[simp] theorem warn_bind (w : Warning) (c : Course α) (f : α → Course β) :
    (Course.warn w c >>= f) = .warn w (c >>= f) := rfl

@[simp] theorem send_bind (r : HttpRequest) (k : TransportAnswer → Course α) (f : α → Course β) :
    (Course.send r k >>= f) = .send r fun a => k a >>= f := rfl

/-- Going on with what was returned changes nothing. -/
theorem bind_done (c : Course α) : (c >>= Course.done) = c := by
  induction c with
  | done v => rfl
  | report e next ih => rw [report_bind, ih]
  | warn w next ih => rw [warn_bind, ih]
  | send r next ih => rw [send_bind]; congr; funext a; exact ih a

/-- A course in three steps may be cut behind the first one or behind the second. -/
theorem bind_bind (c : Course α) (f : α → Course β) (g : β → Course γ) :
    ((c >>= f) >>= g) = (c >>= fun v => f v >>= g) := by
  induction c with
  | done v => rfl
  | report e next ih => simp only [report_bind, ih]
  | warn w next ih => simp only [warn_bind, ih]
  | send r next ih => simp only [send_bind]; congr; funext a; exact ih a

instance : LawfulMonad Course := LawfulMonad.mk' Course bind_done (fun _ _ => rfl) bind_bind

/-- All warnings of a list. -/
def warnAll : List Warning → Course Unit
  | [] => .done ()
  | w :: rest => .warn w (warnAll rest)

/-- The value of a computation that warns. -/
def ofWarned (w : Warned α) : Course α := do
  warnAll w.warnings
  return w.value

end Course

/-- What came of a course. -/
structure Ran (α : Type) where
  value : α
  trace : List Event
  warnings : List Warning
  /-- All requests sent so far. -/
  sent : List HttpRequest

namespace Course

variable {α β : Type}

/-- Run a course when some requests have been sent. -/
def run (t : Transport) (sent : List HttpRequest) : Course α → Ran α
  | .done v => ⟨v, [], [], sent⟩
  | .report e next =>
    let r := run t sent next
    { r with trace := e :: r.trace }
  | .warn w next =>
    let r := run t sent next
    { r with warnings := w :: r.warnings }
  | .send request next => run t (sent ++ [request]) (next (t sent request))

/-- The events of a course that is cancelled as soon as it has reported that
many. -/
def runUntil (t : Transport) : Nat → List HttpRequest → Course α → List Event
  | 0, _, _ => []
  | _ + 1, _, .done _ => []
  | limit + 1, sent, .report e next => e :: runUntil t limit sent next
  | limit + 1, sent, .warn _ next => runUntil t (limit + 1) sent next
  | limit + 1, sent, .send request next =>
    runUntil t (limit + 1) (sent ++ [request]) (next (t sent request))

/-- A run of two steps reports, warns and sends as the first one does and then as the second. -/
theorem run_bind (t : Transport) (sent : List HttpRequest) (c : Course α) (f : α → Course β) :
    (c >>= f).run t sent =
      let r := c.run t sent
      let r' := (f r.value).run t r.sent
      ⟨r'.value, r.trace ++ r'.trace, r.warnings ++ r'.warnings, r'.sent⟩ := by
  induction c generalizing sent with
  | done v => rfl
  | report e next ih => simp [run, ih]
  | warn w next ih => simp [run, ih]
  | send r next ih => simp [run, ih]

end Course

end ApiPlaybook
