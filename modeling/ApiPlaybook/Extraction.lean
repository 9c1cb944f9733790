/-
  ApiPlaybook.Extraction
  ──────────────────────
  **VARIABLES FROM AN EXCHANGE.**

  After a response the rules that apply to its status are followed in the order
  of their names.  Each finds a value in the request or the response, in the
  body, a header, the query of the URL or a cookie, and may keep the part of
  its text that a pattern matches.  The first rule without a value ends it.
  When nothing was sent, every variable that any rule would set gets the same
  stand-in.
-/
import ApiPlaybook.Bundle.Selection
import ApiPlaybook.Exchange
import ApiPlaybook.Json.Pointer
import ApiPlaybook.Json.Printer
import ApiPlaybook.Json.Reader
import ApiPlaybook.JsonPath.Reader
import ApiPlaybook.Regex.Machine
import ApiPlaybook.Scope
import ApiPlaybook.Url.Reader

namespace ApiPlaybook

/-! ## §1. Errors. -/

/-- Why a rule has no value. -/
inductive ExtractionFault where
  /-- There is nothing at the place that the rule names. -/
  | nothingThere (location : Location) (path : String) (side : Side)
  | emptyBody (side : Side)
  | badJson (side : Side) (error : SyntaxError)
  | badJsonPath (path : String)
  | badPattern (pattern : String)
  | noMatch (pattern : String)
  | badUrl (url : String)
deriving Inhabited

/-- The rule that failed. -/
structure ExtractionError where
  /-- The variable that the rule sets. -/
  name : String
  fault : ExtractionFault
deriving Inhabited

/-- What a place is called in messages. -/
def Location.phrase : Location → String
  | .body => "body path"
  | .header => "header"
  | .query => "query parameter"
  | .cookie => "cookie"

/-- What a side is called in messages. -/
def Side.phrase : Side → String
  | .request => "request"
  | .response => "response"

/-- The wording of a fault.  What is wrong with a path or a pattern is worded by the readers of
these languages and is not told here: `<detail>` stands in its place, which may be several lines
(an error of a pattern shows the pattern with a mark under the fault). -/
def ExtractionFault.message : ExtractionFault → String
  | .nothingThere location path side =>
    location.phrase ++ " " ++ singleQuoted path ++ " not found in the " ++ side.phrase
  | .emptyBody side => side.phrase ++ " body is empty"
  | .badJson side error => side.phrase ++ " body is not valid JSON: " ++ error.message
  | .badJsonPath path => "invalid JSONPath " ++ singleQuoted path ++ ": <detail>"
  | .badPattern pattern => "invalid regex " ++ singleQuoted pattern ++ ": <detail>"
  | .noMatch pattern => "regex " ++ singleQuoted pattern ++ " did not match"
  | .badUrl url => "request URL " ++ singleQuoted url ++ " is invalid"

def ExtractionError.message (e : ExtractionError) : String :=
  "variable " ++ singleQuoted e.name ++ ": " ++ e.fault.message

/-! ## §2. Cookies. -/

/-- The value of a cookie, if the text is `name=value` with that name. -/
def cookieValue? (name : String) (cs : List Char) : Option String :=
  match splitFirst '=' cs with
  | some (k, v) =>
    if trimBlanks (String.ofList k) = name then some (trimBlanks (String.ofList v)) else none
  | none => none

/-- A cookie that a request sends. -/
def sentCookie? (header name : String) : Option String :=
  (splitAll ';' header.toList).findSome? (cookieValue? name)

/-- A cookie that a response sets.  Several settings stand in one header with
commas between them; what follows a semicolon up to the next comma belongs to
an attribute. -/
def setCookie? (header name : String) : Option String :=
  (splitAll ',' header.toList).findSome? fun part =>
    cookieValue? name (part.takeWhile (· != ';'))

/-! ## §3. One rule. -/

/-- The value at a path into a body. -/
def bodyValue (rule : ExtractionRule) (body : String) : Except ExtractionFault Json := do
  if isBlankText body then throw (.emptyBody rule.side)
  let j ← match Json.parse body with
    | .ok j => pure j
    | .error e => throw (.badJson rule.side e)
  let found ← match rule.pathKind with
    | .pointer => pure (j.pointer? rule.path)
    | .jsonPath =>
      match JsonPath.ofText? rule.path with
      | some segments => pure (JsonPath.query j segments).head?
      | none => throw (.badJsonPath rule.path)
  match found with
  | some value => return value
  | none => throw (.nothingThere .body rule.path rule.side)

/-- The text at a place of the header, the query or the cookies. -/
def textAt (rule : ExtractionRule) (text? : Option String) : Except ExtractionFault Json :=
  match text? with
  | some text => .ok (.string text)
  | none => .error (.nothingThere rule.location rule.path rule.side)

/-- The value that a rule finds; the query is always that of the request. -/
def ExtractionRule.find (rule : ExtractionRule) (request : HttpRequest) (response : HttpResponse) :
    Except ExtractionFault Json :=
  match rule.location, rule.side with
  | .body, .request => bodyValue rule (request.body.getD "")
  | .body, .response => bodyValue rule response.body
  | .header, .request => textAt rule (request.header? rule.path)
  | .header, .response => textAt rule (response.header? rule.path)
  | .query, _ =>
    match Url.ofText request.url with
    | .ok url => textAt rule ((url.queryPairs.find? (·.1 == rule.path)).map (·.2))
    | .error _ => .error (.badUrl request.url)
  | .cookie, .request =>
    textAt rule ((request.header? "cookie").bind fun h => sentCookie? h rule.path)
  | .cookie, .response =>
    textAt rule ((response.header? "set-cookie").bind fun h => setCookie? h rule.path)

/-- The part of a value's text that a pattern matches. -/
def matchedPart (pattern : String) (value : Json) : Except ExtractionFault Json :=
  match Regex.ofPattern? pattern with
  | none => .error (.badPattern pattern)
  | some regex =>
    match regex.capture? value.inlineText with
    | some text => .ok (.string text)
    | none => .error (.noMatch pattern)

/-- The value that a rule gives its variable. -/
def ExtractionRule.extract (rule : ExtractionRule) (request : HttpRequest)
    (response : HttpResponse) : Except ExtractionFault Json := do
  let value ← rule.find request response
  match rule.pattern with
  | some pattern => matchedPart pattern value
  | none => return value

/-! ## §4. All rules. -/

/-- The stand-in for values when nothing was sent. -/
def mockValue : Json := .string "MOCK_VARIABLE_VALUE"

/-- The names of all variables that any rules set, rules by rules. -/
def Responses.allVariables (rs : Responses) : List String :=
  rs.values.flatMap fun rules => rules.assignments.names

/-- Follow rules in turn. -/
def extractInto (request : HttpRequest) (response : HttpResponse) (scope : Scope) :
    List (String × ExtractionRule) → Except ExtractionError Scope
  | [] => .ok scope
  | (name, rule) :: rest =>
    match rule.extract request response with
    | .ok value => extractInto request response (scope.assign name value) rest
    | .error fault => .error ⟨name, fault⟩

/-- The scope of the variables that the rules set after a reply. -/
def Responses.extract (rs : Responses) (id : String) (request : HttpRequest) :
    Reply → Except ExtractionError Scope
  | .mock => .ok (rs.allVariables.foldl (fun s name => s.assign name mockValue) (.empty id))
  | .response response =>
    match rs.select? response.status with
    | some rules => extractInto request response (.empty id) rules.assignments.entries
    | none => .ok (.empty id)

end ApiPlaybook
