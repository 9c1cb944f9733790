/-
  ApiPlaybook.Url.Basic
  ─────────────────────
  **URLS.**

  A URL has a scheme, perhaps an authority, a path and perhaps a query and a
  fragment.  All its parts are kept as they are written, with their escapes.
  Appending a pair to the query is what its pairs show
  (`queryPairs_withPair`).
-/
import ApiPlaybook.Url.Form
import ApiPlaybook.Url.Host

namespace ApiPlaybook

namespace Url

/-! ## §1. Parts. -/

/-- Who is asked, and as whom. -/
structure Authority where
  username : List Char
  password : List Char
  host : Host
  /-- Absent where it is the usual one of the scheme. -/
  port : Option Nat
deriving DecidableEq, Inhabited

/-- A path. -/
inductive Path where
  /-- The path of a URL without authority that does not start with a slash. -/
  | free (text : List Char)
  /-- The parts that follow the slashes. -/
  | segments (parts : List (List Char))
deriving DecidableEq, Inhabited

/-- Schemes with hosts of a fixed form, and their usual ports. -/
def specialSchemes : List (String × Option Nat) :=
  [("http", some 80), ("https", some 443), ("ws", some 80), ("wss", some 443), ("ftp", some 21),
    ("file", none)]

/-- Whether a scheme is a special one. -/
def isSpecial (scheme : List Char) : Bool :=
  specialSchemes.any fun s => s.1.toList == scheme

/-- The usual port of a scheme. -/
def usualPort? (scheme : List Char) : Option Nat :=
  (specialSchemes.find? fun s => s.1.toList == scheme).bind (·.2)

end Url

/-- A URL. -/
structure Url where
  scheme : List Char
  authority : Option Url.Authority
  path : Url.Path
  query : Option (List Char)
  fragment : Option (List Char)
deriving DecidableEq, Inhabited

namespace Url

/-! ## §2. Writing. -/

/-- User and password in front of a host. -/
def userInfoText (username password : List Char) : List Char :=
  let secret := if password.isEmpty then [] else ':' :: password
  if username.isEmpty && password.isEmpty then [] else username ++ secret ++ ['@']

def Authority.text (a : Authority) : List Char :=
  "//".toList ++ userInfoText a.username a.password ++ a.host.text
    ++ match a.port with
      | some port => ':' :: Nat.toDigits 10 port
      | none => []

def segmentsText (parts : List (List Char)) : List Char := parts.flatMap fun p => '/' :: p

/-- The path as it is written behind an authority, or without one: then it must
not look like an authority. -/
def pathText (hasAuthority : Bool) : Path → List Char
  | .free text => text
  | .segments parts =>
    let written := segmentsText parts
    match parts with
    | [] :: _ :: _ => if hasAuthority then written else "/.".toList ++ written
    | _ => written

/-- A part with the mark in front of it. -/
def marked (mark : Char) : Option (List Char) → List Char
  | some text => mark :: text
  | none => []

def toList (u : Url) : List Char :=
  u.scheme ++ ':' :: ((match u.authority with
    | some a => a.text
    | none => []) ++ pathText u.authority.isSome u.path ++ marked '?' u.query ++ marked '#' u.fragment)

/-- The text of a URL. -/
def text (u : Url) : String := String.ofList u.toList

/-! ## §3. The query. -/

/-- The names and values in the query. -/
def queryPairs (u : Url) : List (String × String) := formPairs (u.query.getD [])

/-- The URL with one more pair in its query. -/
def withPair (u : Url) (name value : String) : Url :=
  { u with query := some (appendPair (u.query.getD []) name value) }

/-- A free path without the blanks at its end. -/
def Path.withoutEndBlanks : Path → Path
  | .free text => .free (text.reverse.dropWhile (· == ' ')).reverse
  | path => path

/-- The URL without its query if that is empty. -/
def withoutEmptyQuery (u : Url) : Url :=
  if u.query == some [] then
    { u with query := none, path := if u.fragment.isNone then u.path.withoutEndBlanks else u.path }
  else u

/-- A pair that is added stands behind those that the query has. -/
theorem queryPairs_withPair (u : Url) (name value : String) :
    (u.withPair name value).queryPairs = u.queryPairs ++ [(name, value)] :=
  formPairs_appendPair _ _ _

/-- An empty query has no pairs, so leaving it out loses none. -/
theorem queryPairs_withoutEmptyQuery (u : Url) :
    u.withoutEmptyQuery.queryPairs = u.queryPairs := by
  unfold withoutEmptyQuery
  split
  · next h => simp [queryPairs, eq_of_beq h]
  · rfl

end Url

end ApiPlaybook
