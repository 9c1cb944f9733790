/-
  ApiPlaybook.Url.Reader
  ──────────────────────
  **READING A URL.**

  Blanks and controls around the text and line ends inside it do not count.
  The fragment is what stands behind the first `#`, the query what stands
  before it behind the first `?`.  What is left is cut into the scheme, the
  authority and the path, where `.` and `..` are resolved.
-/
import ApiPlaybook.Url.Basic

namespace ApiPlaybook.Url

/-! ## §1. Cutting. -/

/-- The text without what does not count. -/
def cleaned (cs : List Char) : List Char :=
  let ends (c : Char) : Bool := c ≤ ' '
  (((cs.dropWhile ends).reverse.dropWhile ends).reverse).filter fun c =>
    !(c == '\t' || c == '\n' || c == '\r')

/-- The text in front of a mark, and the text behind it if it is there. -/
def cutAt (mark : Char) (cs : List Char) : List Char × Option (List Char) :=
  match splitFirst mark cs with
  | some (front, behind) => (front, some behind)
  | none => (cs, none)

/-- The text in front of the last occurrence of a mark and the text behind it. -/
def splitLast (mark : Char) (cs : List Char) : Option (List Char × List Char) :=
  (splitFirst mark cs.reverse).map fun (behind, front) => (front.reverse, behind.reverse)

/-- The scheme, in lower case, and the text behind its colon. -/
def scheme? (cs : List Char) : Option (List Char × List Char) := do
  let (scheme, rest) ← splitFirst ':' cs
  guard (scheme.head?.any Char.isAlpha)
  guard (scheme.all fun c => c.isAlphanum || "+-.".toList.contains c)
  return (scheme.map Char.toLower, rest)

/-- Slashes part a path; under a special scheme backslashes do too. -/
def isSlash (special : Bool) (c : Char) : Bool := c == '/' || (special && c == '\\')

/-! ## §2. Paths. -/

/-- The parts of a text between slashes. -/
def partsAtSlashes (special : Bool) : List Char → List (List Char)
  | [] => [[]]
  | c :: rest =>
    if isSlash special c then [] :: partsAtSlashes special rest
    else match partsAtSlashes special rest with
      | [] => [[c]]
      | part :: parts => (c :: part) :: parts

/-- A part with each escaped full stop, `%2e`, as a full stop. -/
def plainDots : List Char → List Char
  | '%' :: '2' :: 'e' :: rest => '.' :: plainDots rest
  | '%' :: '2' :: 'E' :: rest => '.' :: plainDots rest
  | c :: rest => c :: plainDots rest
  | [] => []

def isHere (part : List Char) : Bool := plainDots part == ['.']

def isAbove (part : List Char) : Bool := plainDots part == ['.', '.']

/-- A letter with a colon or a bar. -/
def isDriveLetter : List Char → Bool
  | [c, mark] => c.isAlpha && (mark == ':' || mark == '|')
  | _ => false

/-- The path one level up; a drive letter is not left. -/
def shorten (parts : List (List Char)) : List (List Char) :=
  if parts.getLast?.any isDriveLetter then parts else parts.dropLast

/-- Walk the parts from the path `done` on. -/
def resolveParts (done : List (List Char)) : List (List Char) → List (List Char)
  | [] => done
  | part :: rest =>
    if isAbove part then resolveParts (shorten done ++ if rest.isEmpty then [[]] else []) rest
    else if isHere part then resolveParts (done ++ if rest.isEmpty then [[]] else []) rest
    else resolveParts (done ++ [part]) rest

/-- The segments of a path without the slash in front. -/
def segmentsOf (special : Bool) (cs : List Char) : List (List Char) :=
  resolveParts [] ((partsAtSlashes special cs).map (escape escapedInPath))

/-- The text behind one slash, if it starts with one. -/
def behindSlash (special : Bool) : List Char → List Char
  | [] => []
  | c :: rest => if isSlash special c then rest else c :: rest

/-- The path behind an authority: only that of a special scheme is never empty. -/
def pathBehindAuthority (special : Bool) (cs : List Char) : Path :=
  if !special && cs.isEmpty then .segments []
  else .segments (segmentsOf special (behindSlash special cs))

/-! ## §3. Authorities. -/

/-- The host in front of a port: a colon in brackets does not end it. -/
def splitPort : Bool → List Char → List Char × Option (List Char)
  | _, [] => ([], none)
  | bracketed, c :: rest =>
    if c = ':' ∧ !bracketed then ([], some rest)
    else
      let (host, port) := splitPort (if c = '[' then true else if c = ']' then false else bracketed)
        rest
      (c :: host, port)

/-- A port, and the text behind its digits. -/
def portOf (scheme : List Char) (cs : List Char) : Except UrlError (Option Nat × List Char) :=
  let digits := cs.takeWhile Char.isDigit
  let rest := cs.dropWhile Char.isDigit
  let port := digits.foldl (fun n c => 10 * n + (c.toNat - 48)) 0
  if 65535 < port || !(rest.isEmpty || rest.head? == some '\\') then .error .badPort
  else if digits.isEmpty || usualPort? scheme == some port then .ok (none, rest)
  else .ok (some port, rest)

/-- User and password. -/
def userInfoOf (cs : List Char) : List Char × List Char :=
  match splitFirst ':' cs with
  | some (username, password) =>
    (escape escapedInUserInfo username, escape escapedInUserInfo password)
  | none => (escape escapedInUserInfo cs, [])

/-- The authority and the path of a URL whose scheme is not `file`; `more` says
whether a query or a fragment follows. -/
def authorityOf (scheme cs : List Char) (more : Bool) : Except UrlError (Authority × Path) := do
  let special := isSpecial scheme
  let front := cs.takeWhile fun c => !isSlash special c
  let path := cs.dropWhile fun c => !isSlash special c
  let (username, password, address) ← match splitLast '@' front with
    | none => pure ([], [], front)
    | some ([], address) =>
      if address.isEmpty && (more || !path.isEmpty) then throw UrlError.emptyHost
      else pure ([], [], address)
    | some (user, address) =>
      let (username, password) := userInfoOf user
      pure (username, password, address)
  let (hostText, portText) := splitPort false address
  if special && hostText.isEmpty then throw .emptyHost
  let host ← if special then Host.ofSpecial hostText else Host.ofOther hostText
  if host.isEmpty && portText.isSome then throw .emptyHost
  let (port, behind) ← match portText with
    | some text => portOf scheme text
    | none => pure (none, [])
  if host.isEmpty && !(username.isEmpty && password.isEmpty) then throw .emptyHost
  return (⟨username, password, host, port⟩, pathBehindAuthority special (behind ++ path))

/-! ## §4. Files. -/

/-- A drive letter in front is written with a colon and is a part of its own. -/
def withDriveLetter : List (List Char) → List (List Char)
  | [] => []
  | part :: rest =>
    match part with
    | [c, '|'] => (if c.isAlpha then [c, ':'] else part) :: rest
    | c :: ':' :: d :: more => if c.isAlpha then [c, ':'] :: (d :: more) :: rest else part :: rest
    | _ => part :: rest

/-- The segments of a path without the empty ones in front. -/
def withoutEmptyFront : List (List Char) → List (List Char)
  | [] :: second :: rest => withoutEmptyFront (second :: rest)
  | parts => parts

/-- The host, with the path behind it, of a `file` URL. -/
def fileOf (cs : List Char) : Except UrlError (Authority × Path) := do
  let (hostText, path) := match cs with
    | a :: b :: rest =>
      if isSlash true a && isSlash true b then
        let hostText := rest.takeWhile fun c => !isSlash true c
        if isDriveLetter hostText then ([], rest)
        else (hostText, rest.dropWhile fun c => !isSlash true c)
      else ([], cs)
    | _ => ([], cs)
  let host ← if hostText.isEmpty then pure (Host.name []) else Host.ofSpecial hostText
  let parts := withDriveLetter (segmentsOf true (behindSlash true path))
  let host := if host == .name "localhost".toList || parts.head?.any isDriveLetter then .name []
    else host
  return (⟨[], [], host, none⟩, .segments (withoutEmptyFront parts))

/-! ## §5. URLs. -/

/-- The authority and the path behind a scheme. -/
def hierarchyOf (scheme cs : List Char) (more : Bool) :
    Except UrlError (Option Authority × Path) := do
  if scheme == "file".toList then
    let (authority, path) ← fileOf cs
    return (some authority, path)
  else if isSpecial scheme then
    let (authority, path) ← authorityOf scheme (cs.dropWhile (isSlash true)) more
    return (some authority, path)
  else match cs with
    | '/' :: '/' :: rest =>
      let (authority, path) ← authorityOf scheme rest more
      return (some authority, path)
    | '/' :: rest => return (none, .segments (segmentsOf false rest))
    | _ => return (none, .free (escape escapedAlways cs))

/-- Read a URL. -/
def ofList (cs : List Char) : Except UrlError Url := do
  let (front, fragment) := cutAt '#' (cleaned cs)
  let (front, query) := cutAt '?' front
  match scheme? front with
  | none => throw .relative
  | some (scheme, rest) =>
    let (authority, path) ← hierarchyOf scheme rest (query.isSome || fragment.isSome)
    return ⟨scheme, authority, path, query.map (escape (escapedInQuery (isSpecial scheme))),
      fragment.map (escape escapedInFragment)⟩

/-- Read the text of a URL. -/
def ofText (s : String) : Except UrlError Url := ofList s.toList

end ApiPlaybook.Url
