/-
  ApiPlaybook.Preparation
  ───────────────────────
  **PREPARING REQUESTS.**

  A request for an operation goes to the server that is given, or else to one
  that the API declares, with all placeholders of the path filled in; required
  parameters without a value are reported.  A free request has a URL and a
  method of its own.
-/
import ApiPlaybook.OpenApi.Operation
import ApiPlaybook.RequestDraft
import ApiPlaybook.Unicode.UpperCase
import ApiPlaybook.Url.PathTemplate
import ApiPlaybook.Url.Reader

namespace ApiPlaybook

/-- Read a URL. -/
def readUrl (s : String) : Except BuildError Url := (Url.ofText s).mapError (.badUrl s)

/-- A base and a path with one slash between them. -/
def joinPath (base path : String) : String :=
  String.ofList ((base.toList.reverse.dropWhile (· == '/')).reverse ++ '/' ::
    path.toList.dropWhile (· == '/'))

/-- The warnings for required parameters of a location without a value. -/
def missingParameters (o : ApiOperation) (d : RequestDraft) (location : ParameterLocation) :
    List Warning :=
  ((o.required location).filter fun p => !d.hasParameter location p.name).map fun p =>
    .noValue o.id p.name location

/-- The base URL for an operation: that of the session, if it has one. -/
def ApiOperation.base (o : ApiOperation) (server : String) : String :=
  if isBlankText server then o.baseUrl else server

/-- The URL of an operation. -/
def ApiOperation.url (o : ApiOperation) (server : String) (values : NameMap Json) :
    Except BuildError Url := do
  let base := o.base server
  if isBlankText base then throw (.missingServer o.id)
  let path ← (Url.fillPath values true o.path).mapError .missingPathParameter
  readUrl (joinPath base path)

/-- Prepare a request for an operation that was found. -/
def ApiOperation.prepare (o : ApiOperation) (server : String) (t : Template)
    (credentials : AuthResult) : Warned (Except BuildError HttpRequest) :=
  match o.url server t.parameters.path with
  | .error e => return .error e
  | .ok url => do
    let draft ← ((RequestDraft.ofUrl url).addParameters t.parameters).addCredentials credentials
    ⟨(), missingParameters o draft .query ++ missingParameters o draft .header⟩
    return draft.finish o.method t.body

/-- Prepare a request for an operation. -/
def prepareOperation (doc : ApiDocument) (server id : String) (t : Template)
    (credentials : AuthResult) : Warned (Except BuildError HttpRequest) := do
  match ← doc.operation? id with
  | none => return .error (.unknownOperation id)
  | some o => o.prepare server t credentials

/-- Characters of a method. -/
def isMethodChar (c : Char) : Bool :=
  c.isAlphanum || c.toNat == 39 || c.toNat == 96 || "!#$%&*+-.^_|~".toList.contains c

/-- The method of a free request, in upper case; GET where none is given. -/
def freeMethod (t : Template) : Except BuildError String :=
  let given := t.method.filter fun m => !isBlankText m
  let method := Unicode.upperText (given.getD "GET")
  if method.isEmpty || !method.toList.all isMethodChar then .error (.badMethod method)
  else .ok method

/-- Prepare a free request. -/
def prepareFree (t : Template) : Except BuildError HttpRequest := do
  match t.url.filter fun u => !isBlankText u with
  | none => throw .missingUrl
  | some given =>
    let text ← (Url.fillPath t.parameters.path false given).mapError .missingPathParameter
    let url ← readUrl text
    let method ← freeMethod t
    ((RequestDraft.ofUrl url).addParameters t.parameters).finish method t.body

end ApiPlaybook
