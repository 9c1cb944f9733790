/-
  ApiPlaybook.Proofs.Lines.Shown
  ──────────────────────────────
  **WHAT A LINE SHOWS AS IT IS GIVEN.**

  The line of an event consists of fixed words and of texts.  Some of the texts
  the run makes itself: numbers, the names of references, the method and the URL
  of a request that was built.  All others are shown as they are given, and
  nothing in them is escaped (`Event.shown`).

  So where the texts that the run makes are without line breaks
  (`Event.IsRegular`), a line has exactly the line breaks of the texts that are
  given (`Event.lineBreaks_indentedLine`), and printing a trace takes one line
  for each event and one more for each of these breaks
  (`lineBreaks_printed_traceLines`).
-/
import Mathlib.Algebra.Ring.Nat
import Mathlib.Data.List.Basic
import ApiPlaybook.Run.Line

namespace ApiPlaybook

/-! ## §1. Line breaks. -/

/-- How many line breaks a text has. -/
def lineBreaks (s : String) : Nat := s.toList.count '\n'

/-- A text on one line has no newline. -/
theorem lineBreaks_eq_zero {s : String} : lineBreaks s = 0 ↔ '\n' ∉ s.toList := List.count_eq_zero

/-- The line breaks of two texts add up. -/
@[simp] theorem lineBreaks_append (s t : String) :
    lineBreaks (s ++ t) = lineBreaks s + lineBreaks t := by
  simp [lineBreaks]

@[simp] theorem lineBreaks_singleQuoted (s : String) :
    lineBreaks (singleQuoted s) = lineBreaks s := by
  have hquote : lineBreaks (String.singleton (Char.ofNat 39)) = 0 := by decide
  unfold singleQuoted
  rw [lineBreaks_append, lineBreaks_append, hquote, Nat.zero_add, Nat.add_zero]

@[simp] theorem lineBreaks_decimal (n : Nat) : lineBreaks (decimal n) = 0 := by
  rw [lineBreaks_eq_zero]
  intro h
  unfold decimal at h
  rw [String.toList_ofList] at h
  have hdigit := Nat.isDigit_of_mem_toDigits (by decide) (by decide) h
  revert hdigit
  decide

/-- Commas between texts bring no line break. -/
@[simp] theorem lineBreaks_commas (texts : List String) :
    lineBreaks (", ".intercalate texts) = (texts.map lineBreaks).sum := by
  induction texts with
  | nil => rfl
  | cons text rest ih =>
    by_cases hrest : rest = []
    · rw [hrest, String.intercalate_singleton]
      rfl
    · have hcomma : lineBreaks ", " = 0 := by decide
      rw [String.intercalate_cons_of_ne_nil hrest, lineBreaks_append, lineBreaks_append, hcomma, ih,
        List.map_cons, List.sum_cons, Nat.add_zero]

/-! ## §2. Texts that are given. -/

def ExtractionFault.shown : ExtractionFault → List String
  | .nothingThere _ path _ => [path]
  | .badJsonPath path => [path]
  | .badPattern pattern => [pattern]
  | .noMatch pattern => [pattern]
  | .emptyBody _ | .badJson .. | .badUrl _ => []

def BuildError.shown : BuildError → List String
  | .unknownOperation id => [id]
  | .missingServer operation => [operation]
  | .badUrl url _ => [url]
  | .missingPathParameter name => [name]
  | .badMethod method => [method]
  | .badBody mediaType => [mediaType]
  | .missingUrl => []

def RunError.shown : RunError → List String
  | .requestNotFound ref => [ref.id]
  | .unknownCredential name => [name]
  | .unknownMethod key => [key.method, key.credential]
  | .acquisitionFailed auth => [auth]
  | .credentialVariablesMissing auth _ => [auth]
  | .credentialsUnavailable auths => auths
  | .build error => error.shown
  | .unexpectedStatus _ expected => [expected.text]
  | .extraction error => error.name :: error.fault.shown
  | .tooDeep | .noReference _ | .variablesMissing _ => []

def TransportError.shown : TransportError → List String
  | .network detail | .invalidRequest detail | .other detail => [detail]
  | .timeout | .tooLarge _ => []

/-- The texts that the line of an event shows as they are given. -/
def Event.shown : Event → List String
  | .playbookStarted name => [name]
  | .requestStarted ref => [ref.id]
  | .authStarted auth | .credentialFromCache auth _ | .credentialSubstituted auth .. => [auth]
  | .variablesAssigned scope => scope.assignments.map (·.name)
  | .playbookAborted error | .authAborted error | .prepareFailed error
  | .processingFailed error => error.shown
  | .transportFailed error => error.shown
  | .playbookFinished | .authFinished | .payloadSubstituted .. | .requestPrepared ..
  | .responseReceived _ => []

/-! ## §3. Texts that a run makes. -/

/-- A fault names a URL without line breaks. -/
def ExtractionFault.IsRegular : ExtractionFault → Prop
  | .badUrl url => lineBreaks url = 0
  | _ => True

/-- What the run itself adds to an error has no line breaks. -/
def RunError.IsRegular : RunError → Prop
  | .credentialVariablesMissing _ names | .variablesMissing names => lineBreaks names = 0
  | .extraction error => error.fault.IsRegular
  | _ => True

/-- What the run itself adds to an event has no line breaks: the names without a value, the
method and the URL of a request. -/
def Event.IsRegular : Event → Prop
  | .credentialSubstituted _ _ _ _ missing | .payloadSubstituted _ _ missing =>
    lineBreaks (missingNamesText missing) = 0
  | .requestPrepared request _ => lineBreaks request.method = 0 ∧ lineBreaks request.url = 0
  | .playbookAborted error | .authAborted error | .prepareFailed error
  | .processingFailed error => error.IsRegular
  | _ => True

/-! ## §4. The line breaks of a line. -/

/-- A fixed wording has no line break. -/
theorem lineBreaks_fixed {s : String} (h : '\n' ∉ s.toList) : lineBreaks s = 0 :=
  lineBreaks_eq_zero.mpr h

/-- What is wrong with a JSON text is told in fixed words and numbers. -/
theorem SyntaxError.lineBreaks_message (e : SyntaxError) : lineBreaks e.message = 0 := by
  cases e <;> decide

/-- What is wrong with a URL is told in fixed words. -/
theorem Url.UrlError.lineBreaks_message (e : Url.UrlError) : lineBreaks e.message = 0 := by
  cases e <;> decide

theorem Location.lineBreaks_phrase (l : Location) : lineBreaks l.phrase = 0 := by
  cases l <;> decide

theorem Side.lineBreaks_phrase (s : Side) : lineBreaks s.phrase = 0 := by
  cases s <;> decide

/-- A fault of a rule shows the path, the pattern or the URL it is about. -/
theorem ExtractionFault.lineBreaks_message {f : ExtractionFault} (h : f.IsRegular) :
    lineBreaks f.message = (f.shown.map lineBreaks).sum := by
  unfold message shown
  cases f with
  | badUrl url =>
    have h : lineBreaks url = 0 := h
    simp (disch := decide) [lineBreaks_fixed, h]
  | _ =>
    simp (disch := decide) [lineBreaks_fixed, Location.lineBreaks_phrase, Side.lineBreaks_phrase,
      SyntaxError.lineBreaks_message]

/-- A request that cannot be built shows the name or the text that is at fault. -/
theorem BuildError.lineBreaks_message (e : BuildError) :
    lineBreaks e.message = (e.shown.map lineBreaks).sum := by
  unfold message shown
  cases e <;> simp (disch := decide) [lineBreaks_fixed, Url.UrlError.lineBreaks_message]

/-- A transport that refuses shows what it says itself. -/
theorem TransportError.lineBreaks_message (e : TransportError) :
    lineBreaks e.message = (e.shown.map lineBreaks).sum := by
  unfold message shown
  cases e <;> simp (disch := decide) [lineBreaks_fixed]

/-- A reference shows the name it refers to. -/
theorem RequestRef.lineBreaks_text (r : RequestRef) : lineBreaks r.text = lineBreaks r.id := by
  obtain ⟨kind, id⟩ := r
  unfold RequestRef.text
  cases kind <;> simp (disch := decide) [RefKind.word, lineBreaks_fixed]

/-- An error shows what it is about, and the error behind it. -/
theorem RunError.lineBreaks_message {e : RunError} (h : e.IsRegular) :
    lineBreaks e.message = (e.shown.map lineBreaks).sum := by
  unfold message shown
  cases e with
  | credentialVariablesMissing auth names =>
    have h : lineBreaks names = 0 := h
    simp (disch := decide) [lineBreaks_fixed, h]
  | variablesMissing names =>
    have h : lineBreaks names = 0 := h
    simp (disch := decide) [lineBreaks_fixed, h]
  | build error => exact error.lineBreaks_message
  | extraction error =>
    have h : error.fault.IsRegular := h
    simp (disch := decide) [ExtractionError.message, lineBreaks_fixed,
      ExtractionFault.lineBreaks_message h]
  | requestNotFound ref => simp (disch := decide) [lineBreaks_fixed, RequestRef.lineBreaks_text]
  | _ => simp (disch := decide) [lineBreaks_fixed]

/-- The tag of an event is a fixed word. -/
theorem Event.lineBreaks_tag (e : Event) : lineBreaks e.tag = 0 := by
  unfold tag
  cases e <;> simp (disch := decide) only [lineBreaks_fixed]

/-- The list of missing names is put in brackets. -/
theorem lineBreaks_missingText {missing : List MissingVariable}
    (h : lineBreaks (missingNamesText missing) = 0) : lineBreaks (missingText missing) = 0 := by
  unfold missingText
  split
  · rfl
  · simp (disch := decide) [lineBreaks_fixed, h]

/-- **THE LINE BREAKS OF A LINE** are those of the texts that it shows. -/
theorem Event.lineBreaks_lineText {e : Event} (h : e.IsRegular) :
    lineBreaks e.lineText = (e.shown.map lineBreaks).sum := by
  have hspace : lineBreaks " " = 0 := by decide
  have hcolon : lineBreaks ": " = 0 := by decide
  unfold lineText shown
  -- all other events consist of fixed words and of what they show
  cases e with
  | credentialSubstituted auth value stack found missing =>
    simp [hspace, lineBreaks_missingText h]
  | payloadSubstituted stack found missing => exact lineBreaks_missingText h
  | requestPrepared request operation => simp [hspace, h.1, h.2]
  | responseReceived reply => cases reply <;> simp (disch := decide) [lineBreaks_fixed]
  | variablesAssigned scope =>
    obtain ⟨id, vars, assignments⟩ := scope
    cases assignments with
    | nil => rfl
    | cons first rest => simp [hspace]
  | playbookAborted error => simp [hcolon, RunError.lineBreaks_message h]
  | authAborted error => simp [hcolon, RunError.lineBreaks_message h]
  | prepareFailed error => simp [hcolon, RunError.lineBreaks_message h]
  | processingFailed error => simp [hcolon, RunError.lineBreaks_message h]
  | transportFailed error => simp [hcolon, error.lineBreaks_message]
  | requestStarted ref => simp [hspace, RequestRef.lineBreaks_text]
  | _ => simp (disch := decide) [lineBreaks_fixed]

/-- **A LINE** has the line breaks of the texts that it shows as they are given, and no others. -/
theorem Event.lineBreaks_indentedLine {e : Event} (h : e.IsRegular) (depth : Nat) :
    lineBreaks (e.indentedLine depth) = (e.shown.map lineBreaks).sum := by
  have hindent : lineBreaks (String.ofList (List.replicate (2 * depth) ' ')) = 0 := by
    rw [lineBreaks_eq_zero, String.toList_ofList, List.mem_replicate]
    exact fun hmem => absurd hmem.2 (by decide)
  unfold indentedLine line
  rw [lineBreaks_append, lineBreaks_append, hindent, e.lineBreaks_tag, e.lineBreaks_lineText h,
    Nat.zero_add, Nat.zero_add]

/-! ## §5. Printed traces. -/

/-- Texts as they are printed, a line break behind each. -/
def printed : List String → String
  | [] => ""
  | text :: rest => text ++ "\n" ++ printed rest

/-- Each event takes a line, whatever the depth it is shown at. -/
theorem lineBreaks_printed_lines {trace : List Event} (h : ∀ e ∈ trace, e.IsRegular)
    (n : Nesting) :
    lineBreaks (printed (trace.zipWith (fun e depth => e.indentedLine depth) (n.depths trace)))
      = trace.length + ((trace.flatMap Event.shown).map lineBreaks).sum := by
  -- the depth of an event depends on those before it, so the nesting varies
  induction trace generalizing n with
  | nil => rfl
  | cons e rest ih =>
    obtain ⟨he, hrest⟩ := List.forall_mem_cons.mp h
    have hbreak : lineBreaks "\n" = 1 := by decide
    rw [Nesting.depths, List.zipWith_cons_cons, printed, lineBreaks_append, lineBreaks_append,
      Event.lineBreaks_indentedLine he, hbreak, ih hrest, List.flatMap_cons, List.map_append,
      List.sum_append, List.length_cons]
    omega

/-- **PRINTING A TRACE** takes a line for each event, and one for each line break of a text that
is shown as it is given. -/
theorem lineBreaks_printed_traceLines {trace : List Event} (h : ∀ e ∈ trace, e.IsRegular) :
    lineBreaks (printed (traceLines trace))
      = trace.length + ((trace.flatMap Event.shown).map lineBreaks).sum :=
  lineBreaks_printed_lines h ⟨0⟩

end ApiPlaybook
