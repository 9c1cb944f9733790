/-
  ApiPlaybook.Exchange
  ────────────────────
  **REQUESTS AND REPLIES.**

  What is handed to a transport and what comes back.  A transport may answer
  with a mock reply, which says that nothing was sent.  Header names are equal
  when they differ only in the case of ASCII letters.
-/
import ApiPlaybook.Json.Basic
import ApiPlaybook.Text.Blank

namespace ApiPlaybook

/-- The value of the first header, in name order, of that name. -/
def findHeader (headers : NameMap String) (name : String) : Option String :=
  (headers.find? fun n => sameIgnoringCase n name).map (·.2)

/-- A request as it is sent. -/
structure HttpRequest where
  method : String
  url : String
  headers : NameMap String
  body : Option String
deriving Inhabited, BEq

def HttpRequest.header? (r : HttpRequest) (name : String) : Option String :=
  findHeader r.headers name

/-- A response. -/
structure HttpResponse where
  status : Nat
  headers : NameMap String
  body : String
deriving Inhabited, BEq

def HttpResponse.header? (r : HttpResponse) (name : String) : Option String :=
  findHeader r.headers name

/-- One more line of headers, its name in lower case: a further value of a name goes behind the
earlier ones.  The value is a text that has been read already: one with a character that is not
visible ASCII cannot be read, and there is no line for it. -/
def withHeaderLine (headers : NameMap String) (line : String × String) : NameMap String :=
  let name := lowerAscii line.1
  match headers.get? name with
  | some earlier => headers.insert name (earlier ++ ", " ++ line.2)
  | none => headers.insert name line.2

/-- The headers of a response whose lines came in this order, without the lines whose values
cannot be read. -/
def headersOfLines (lines : List (String × String)) : NameMap String :=
  lines.foldl withHeaderLine .empty

/-- What a transport answers. -/
inductive Reply where
  | response (r : HttpResponse)
  /-- Nothing was sent. -/
  | mock
deriving Inhabited, BEq

/-- Why a transport has no answer. -/
inductive TransportError where
  | timeout
  | network (detail : String)
  | tooLarge (maxBytes : Nat)
  | invalidRequest (detail : String)
  | other (detail : String)
deriving Inhabited, BEq

def TransportError.message : TransportError → String
  | .timeout => "timeout"
  | .network detail => "connect/dns/tls error: " ++ detail
  | .tooLarge maxBytes => "response too large (>" ++ decimal maxBytes ++ " bytes)"
  | .invalidRequest detail => "invalid request: " ++ detail
  | .other detail => "http error: " ++ detail

end ApiPlaybook
