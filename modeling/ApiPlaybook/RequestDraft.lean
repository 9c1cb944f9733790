/-
  ApiPlaybook.RequestDraft
  ────────────────────────
  **A REQUEST IN THE MAKING.**

  A draft starts from a URL.  The parameters of a template and the credentials
  of a request add pairs to the query, headers and cookies; the cookies become
  one header when the draft is finished.
-/
import ApiPlaybook.Credential
import ApiPlaybook.Exchange
import ApiPlaybook.Json.Printer
import ApiPlaybook.Text.Base64
import ApiPlaybook.Url.Basic
import ApiPlaybook.Warning

namespace ApiPlaybook

/-! ## §1. Errors. -/

/-- Why a request cannot be made. -/
inductive BuildError where
  | unknownOperation (id : String)
  | missingServer (operation : String)
  | missingUrl
  | badUrl (url : String) (error : Url.UrlError)
  | missingPathParameter (name : String)
  | badMethod (method : String)
  | badBody (mediaType : String)
deriving DecidableEq, Inhabited

def BuildError.message : BuildError → String
  | .unknownOperation id => "operation " ++ singleQuoted id ++ " not found in the OpenAPI document"
  | .missingServer operation => "no server URL available for operation " ++ singleQuoted operation
  | .missingUrl => "external request has no url"
  | .badUrl url error => "invalid URL " ++ singleQuoted url ++ ": " ++ error.message
  | .missingPathParameter name => "path parameter " ++ singleQuoted name ++ " has no value"
  | .badMethod method => "invalid HTTP method " ++ singleQuoted method
  | .badBody mediaType => "cannot encode body as " ++ mediaType ++ ": value must be an object"

/-! ## §2. Drafts. -/

/-- A request in the making. -/
structure RequestDraft where
  url : Url
  headers : NameMap String
  cookies : List (String × String)
deriving Inhabited

namespace RequestDraft

def ofUrl (url : Url) : RequestDraft := ⟨url, .empty, []⟩

def addPair (d : RequestDraft) (name value : String) : RequestDraft :=
  { d with url := d.url.withPair name value }

/-- Set a header of exactly that name. -/
def setHeader (d : RequestDraft) (name value : String) : RequestDraft :=
  { d with headers := d.headers.insert name value }

def addCookie (d : RequestDraft) (name value : String) : RequestDraft :=
  { d with cookies := d.cookies ++ [(name, value)] }

def header? (d : RequestDraft) (name : String) : Option String := findHeader d.headers name

/-- Add the parameters of a template. -/
def addParameters (d : RequestDraft) (ps : Parameters) : RequestDraft :=
  let texts (m : NameMap Json) : List (String × String) :=
    m.entries.map fun (name, v) => (name, v.inlineText)
  let d := (texts ps.query).foldl (fun d p => d.addPair p.1 p.2) d
  let d := (texts ps.header).foldl (fun d p => d.setHeader p.1 p.2) d
  (texts ps.cookie).foldl (fun d p => d.addCookie p.1 p.2) d

/-! ## §3. Credentials. -/

/-- A user and a password with a colon between them are encoded; anything else
is taken as encoded. -/
def basicToken (value : String) : String :=
  if value.toList.contains ':' then String.ofList (base64 (utf8Bytes value.toList)) else value

/-- Add a credential where its scheme says. -/
def carry (d : RequestDraft) (c : ResolvedCredential) (scheme : SecurityScheme) : RequestDraft :=
  match scheme.kind with
  | .apiKey =>
    let name := scheme.name.getD c.key.credential
    match scheme.location.getD .header with
    | .header => d.setHeader name c.value
    | .query => d.addPair name c.value
    | .cookie => d.addCookie name c.value
  | .basic => d.setHeader "Authorization" ("Basic " ++ basicToken c.value)
  | .bearer | .oauth2 | .openIdConnect => d.setHeader "Authorization" ("Bearer " ++ c.value)

/-- Add a credential; without a scheme it is left out. -/
def addCredential (d : RequestDraft) (auth : String) (c : ResolvedCredential) :
    Warned RequestDraft :=
  match c.scheme with
  | some scheme => return d.carry c scheme
  | none => do
    Warned.warn (.noScheme auth)
    return d

/-- Add credentials in the order of their references. -/
def addCredentials (d : RequestDraft) (credentials : AuthResult) : Warned RequestDraft :=
  credentials.entries.foldlM (fun d (auth, c) => d.addCredential auth c) d

/-! ## §4. Finishing. -/

/-- Whether the draft has a value for a parameter in the query or a header. -/
def hasParameter (d : RequestDraft) (location : ParameterLocation) (name : String) : Bool :=
  match location with
  | .path => true
  | .query => d.url.queryPairs.any (·.1 == name)
  | .header => (d.header? name).isSome
  | .cookie => d.cookies.any (·.1 == name)

/-- Cookies as the value of a header. -/
def cookiesText (cookies : List (String × String)) : String :=
  "; ".intercalate (cookies.map fun (name, value) => name ++ "=" ++ value)

/-- The headers with the cookies in them, behind those that were there. -/
def headersWithCookies (d : RequestDraft) : NameMap String :=
  if d.cookies.isEmpty then d.headers
  else
    let text := cookiesText d.cookies
    let all := match d.header? "cookie" with
      | some earlier => earlier ++ "; " ++ text
      | none => text
    (d.headers.filterNames fun n => !sameIgnoringCase n "cookie").insert "Cookie" all

/-- Whether a text holds another one. -/
def holdsText (part : List Char) : List Char → Bool
  | [] => part.isEmpty
  | c :: rest => part.isPrefixOf (c :: rest) || holdsText part rest

/-- The text of a body, from its media type. -/
def bodyText (b : Body) : Except BuildError String :=
  let kind := (lowerAscii b.mediaType).toList
  if holdsText "json".toList kind then .ok b.value.text
  else if "application/x-www-form-urlencoded".toList.isPrefixOf kind then
    match b.value with
    | .object members =>
      .ok (String.ofList (Url.formOfPairs (members.map fun (name, v) => (name, v.inlineText))))
    | _ => .error (.badBody b.mediaType)
  else .ok b.value.inlineText

/-- The headers with the media type of the body, unless one is given. -/
def headersWithType (headers : NameMap String) : Option Body → NameMap String
  | some b =>
    if (findHeader headers "content-type").isNone then headers.insert "Content-Type" b.mediaType
    else headers
  | none => headers

/-- The request. -/
def finish (d : RequestDraft) (method : String) (body : Option Body) :
    Except BuildError HttpRequest := do
  let text ← body.mapM bodyText
  return ⟨method, d.url.withoutEmptyQuery.text, headersWithType d.headersWithCookies body, text⟩

end RequestDraft

end ApiPlaybook
