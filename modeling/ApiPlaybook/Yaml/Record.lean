/-
  ApiPlaybook.Yaml.Record
  ───────────────────────
  **READING RECORDS OUT OF YAML.**

  A place in a document is a source of records (`Source Place`).  A text is the
  source text of any scalar; where a list or a record is wanted, nothing at all
  counts as an empty one.  Collections may be nested 128 deep, and aliases may
  be followed as often as a hundred times the length of the document.
-/
import ApiPlaybook.Decode
import ApiPlaybook.Yaml.Scalar

namespace ApiPlaybook.Yaml

/-- A document with the number of collections that may still be entered at the
node. -/
structure Place where
  document : Document
  node : Node
  depth : Nat

/-- The greatest depth of collections. -/
def maxDepth : Nat := 128

/-- How often aliases of a document may be followed. -/
def Document.aliasLimit (d : Document) : Nat := 100 * d.root.length

/-! ## §1. Free values. -/

/-- A walk through a document, counting down the aliases that may be followed. -/
abbrev Walk := StateT Nat Option

/-- The node that is meant, behind an alias. -/
def follow (d : Document) : Node → Walk Node
  | .alias anchor => do
    let left ← get
    if left = 0 then failure
    set (left - 1)
    d.anchored? anchor
  | node => return node

/-- The text of a scalar. -/
def scalarText (d : Document) (node : Node) : Walk String := do
  match ← follow d node with
  | .scalar _ text _ => return text
  | _ => failure

/-- Whether a tag is one of the document's own. -/
def isOwnTag (tag : Option String) : Bool := tag.any (·.startsWith "!")

/-- The JSON value of a scalar. -/
def Resolved.toJson? : Resolved → Option Json
  | .null => some .null
  | .bool b => some (.bool b)
  | .integer i => some (.ofInt i)
  | .wide => none
  | .real (.finite x) => some (.number (.float x))
  | .real _ => some .null
  | .text s => some (.string s)

/-- The JSON value of a node: names of members are the texts of scalars, and a
tag of the document's own is refused. -/
def jsonValue (d : Document) : Nat → Node → Walk Json
  | depth, node => do
    match ← follow d node with
    | .void => return .null
    | .alias _ => failure
    | .scalar mark text style =>
      if isOwnTag mark.tag then failure
      let r ← Resolved.ofScalar? mark.tag text style
      r.toJson?
    | .sequence mark items =>
      match depth with
      | 0 => failure
      | depth + 1 =>
        if isOwnTag mark.tag then failure
        return .array (← items.mapM (jsonValue d depth))
    | .mapping mark members =>
      match depth with
      | 0 => failure
      | depth + 1 =>
        if isOwnTag mark.tag then failure
        let members ← members.mapM fun (key, value) => do
          let name ← scalarText d key
          return (name, ← jsonValue d depth value)
        return .ofMembers members

/-! ## §2. Records. -/

namespace Place

/-- The root of a document. -/
def ofDocument (d : Document) : Place := ⟨d, d.root, maxDepth⟩

def unreadable {α : Type} : Except DecodeError α := .error .unreadable

/-- The node that is meant. -/
def resolved (p : Place) : Except DecodeError Node :=
  match p.node with
  | .alias anchor =>
    match p.document.anchored? anchor with
    | some node => .ok node
    | none => unreadable
  | node => .ok node

def text (p : Place) : Except DecodeError String := do
  match ← p.resolved with
  | .scalar _ s _ => return s
  | _ => unreadable

/-- A place inside the collection here. -/
def inside (p : Place) (node : Node) : Place := ⟨p.document, node, p.depth - 1⟩

/-- Whether nothing is written here. -/
def isNothing : Node → Bool
  | .void => true
  | .scalar _ s style => s.isEmpty && style == .plain
  | _ => false

def series (p : Place) : Except DecodeError (Series Place) := do
  match ← p.resolved with
  | .sequence _ items =>
    if p.depth = 0 then unreadable
    return ⟨items.map p.inside, .ok (), .ok (), .ok ()⟩
  | node => if isNothing node then return ⟨[], .ok (), .ok (), .ok ()⟩ else unreadable

def members (p : Place) : Except DecodeError (Members Place) := do
  match ← p.resolved with
  | .mapping _ ms =>
    if p.depth = 0 then unreadable
    return ⟨ms.map fun (key, value) => ((p.inside key).text, p.inside value), .ok ()⟩
  | node => if isNothing node then return ⟨[], .ok ()⟩ else unreadable

/-- A null, where only a null is allowed. -/
def isUnit : Node → Bool
  | .scalar _ s .plain => s.isEmpty || isNull s
  | _ => false

/-- A tag of the document's own without its mark. -/
def ownTagName? (tag : Option String) : Option String :=
  tag.bind fun t =>
    if t == "!" then some t
    else if t.startsWith "!" then some (String.ofList (t.toList.drop 1))
    else none

/-- A word, or a tag in front of nothing. -/
def choice (choices : List String) (p : Place) : Except DecodeError String := do
  match ← p.resolved with
  | .scalar mark s style =>
    let word := (ownTagName? mark.tag).getD s
    if !choices.contains word then unreadable
    if isOwnTag mark.tag && !isUnit (.scalar mark s style) then unreadable
    return word
  | _ => unreadable

def flag (p : Place) : Except DecodeError Bool := do
  match ← p.resolved with
  | .scalar mark s style =>
    let fits := style == .plain || (style == .literal && mark.tag == some (coreTag "bool"))
    match bool? s with
    | some b => if fits then return b else unreadable
    | none => unreadable
  | _ => unreadable

/-- Nothing for a null. -/
def optional (p : Place) : Except DecodeError (Option Place) := do
  let node ← p.resolved
  let p : Place := { p with node := node }
  match node with
  | .void => return none
  | .scalar mark s .plain =>
    match mark.tag with
    | none => return if s.isEmpty || isNull s then none else some p
    | some tag =>
      if tag == coreTag "null" then if isNull s then return none else unreadable
      else return some p
  | _ => return some p

def free (p : Place) : Except DecodeError Json :=
  match (jsonValue p.document p.depth p.node).run p.document.aliasLimit with
  | some (j, _) => .ok j
  | none => unreadable

instance : Source Place where
  text _ p := p.text
  flag := flag
  optional := optional
  series := series
  members _ p := p.members
  record _ p := return .inl (← p.members)
  choice := choice
  free := free
  skip _ := .ok ()

end Place

/-- Read a record out of a YAML text. -/
def decodeDocument {α : Type} (read : Place → Except DecodeError α) (s : String) :
    Except DecodeError α :=
  match Document.ofText? s with
  | some d => read (.ofDocument d)
  | none => .error .unreadable

end ApiPlaybook.Yaml
