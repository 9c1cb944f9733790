/-
  ApiPlaybook.OpenApi.Reference
  ─────────────────────────────
  **REFERENCES INSIDE AN API DESCRIPTION.**

  An object with a text under `$ref` stands for what that text points to.  Only
  references into the same document are followed, one after the other until a
  value is reached that is none.  Of all references in the document each is
  followed once at most: one that is met again belongs to a cycle.
-/
import ApiPlaybook.Json.Pointer

namespace ApiPlaybook

/-- A description of an API. -/
structure ApiDocument where
  content : Json
deriving Inhabited, BEq

/-- Why a reference leads nowhere. -/
inductive RefError where
  /-- It points outside the document. -/
  | outside (ref : String)
  | unresolved (ref : String)
  | cyclic (ref : String)
deriving DecidableEq, Inhabited

def RefError.message : RefError → String
  | .outside ref => "unsupported external $ref: " ++ ref
  | .unresolved ref => "unresolvable $ref: " ++ ref
  | .cyclic ref => "cyclic $ref: " ++ ref

namespace Json

/-- The reference that a value is. -/
def ref? (j : Json) : Option String := (j.member? "$ref").bind asString?

mutual

/-- All references within a value. -/
def refs : Json → List String
  | .array items => refsInItems items
  | .object members =>
    ((findEntry "$ref" members).bind asString?).toList ++ refsInMembers members
  | _ => []

def refsInItems : List Json → List String
  | [] => []
  | item :: rest => refs item ++ refsInItems rest

def refsInMembers : List (String × Json) → List String
  | [] => []
  | (_, value) :: rest => refs value ++ refsInMembers rest

end

end Json

namespace ApiDocument

/-- The value in the document that a reference points to. -/
def target (d : ApiDocument) (ref : String) : Except RefError Json :=
  match ref.toList with
  | '#' :: rest =>
    match d.content.pointer? (String.ofList (rest.dropWhile (· == '#'))) with
    | some j => .ok j
    | none => .error (.unresolved ref)
  | _ => .error (.outside ref)

/-- Whether a reference points into its own document. -/
def isLocal (ref : String) : Bool := ref.toList.head? == some '#'

/-- The references of a list other than the given one. -/
def otherRefs (ref : String) (refs : List String) : List String := refs.filter (· != ref)

/-- With each reference that is followed, fewer are left to be followed. -/
theorem otherRefs_length {ref : String} {refs : List String} (h : ref ∈ refs) :
    (otherRefs ref refs).length < refs.length :=
  List.length_filter_lt_length_iff_exists.2 ⟨ref, h, by simp⟩

/-- Follow references that are still in the list. -/
def follow (d : ApiDocument) (unfollowed : List String) (j : Json) : Except RefError Json :=
  match j.ref? with
  | none => .ok j
  | some ref =>
    if !isLocal ref then .error (.outside ref)
    else if _h : ref ∈ unfollowed then
      match d.target ref with
      | .ok k => d.follow (otherRefs ref unfollowed) k
      | .error e => .error e
    else .error (.cyclic ref)
termination_by unfollowed.length
decreasing_by exact otherRefs_length ‹_›

/-- The value that a value stands for. -/
def deref (d : ApiDocument) (j : Json) : Except RefError Json :=
  if j.ref?.isNone then .ok j else d.follow (j.refs ++ d.content.refs) j

end ApiDocument

end ApiPlaybook
