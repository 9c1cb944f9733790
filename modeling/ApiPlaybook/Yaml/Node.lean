/-
  ApiPlaybook.Yaml.Node
  ─────────────────────
  **NODES OF A YAML DOCUMENT.**

  A document is a tree of scalars, sequences and mappings, each perhaps with a
  tag and an anchor; an alias stands for the node with that anchor.  Names of
  anchors are replaced by numbers: the number of an anchor is the count of the
  names that were in use when it was met.  Two nodes can have one number, and
  then the later one counts for all aliases (`Document.anchored?`).

  A text holds one document (`Document.ofText?`).
-/
import ApiPlaybook.Yaml.TokenStream

namespace ApiPlaybook.Yaml

/-! ## §1. Nodes. -/

/-- What is written in front of a node. -/
structure Mark where
  anchor : Option Nat
  tag : Option String
deriving DecidableEq, Inhabited

/-- A node. -/
inductive Node where
  /-- The root of a text without a document. -/
  | void
  | alias (anchor : Nat)
  | scalar (mark : Mark) (text : String) (style : ScalarStyle)
  | sequence (mark : Mark) (items : List Node)
  | mapping (mark : Mark) (members : List (Node × Node))
deriving Inhabited

/-- The scalar that stands for a node that is not written. -/
def Node.blank : Node := .scalar ⟨none, none⟩ "" .plain

mutual

/-- The number of places where a scalar or an alias stands or a collection
starts or ends. -/
def Node.length : Node → Nat
  | .sequence _ items => 2 + Node.itemsLength items
  | .mapping _ members => 2 + Node.membersLength members
  | _ => 1

def Node.itemsLength : List Node → Nat
  | [] => 0
  | item :: rest => item.length + Node.itemsLength rest

def Node.membersLength : List (Node × Node) → Nat
  | [] => 0
  | (key, value) :: rest => key.length + value.length + Node.membersLength rest

end

/-- A node by the number of its anchor. -/
def Mark.label (mark : Mark) (node : Node) : List (Nat × Node) :=
  match mark.anchor with
  | some n => [(n, node)]
  | none => []

mutual

/-- The nodes with an anchor, in the order in which they start. -/
def Node.labels : Node → List (Nat × Node)
  | .void => []
  | .alias _ => []
  | .scalar mark text style => mark.label (.scalar mark text style)
  | .sequence mark items => mark.label (.sequence mark items) ++ Node.itemLabels items
  | .mapping mark members => mark.label (.mapping mark members) ++ Node.memberLabels members

def Node.itemLabels : List Node → List (Nat × Node)
  | [] => []
  | item :: rest => item.labels ++ Node.itemLabels rest

def Node.memberLabels : List (Node × Node) → List (Nat × Node)
  | [] => []
  | (key, value) :: rest => key.labels ++ value.labels ++ Node.memberLabels rest

end

/-- A document: its root, and its nodes with an anchor from the last to the
first. -/
structure Document where
  root : Node
  anchored : List (Nat × Node)

/-- The node that aliases of a number stand for. -/
def Document.anchored? (d : Document) (anchor : Nat) : Option Node :=
  (d.anchored.find? (·.1 == anchor)).map (·.2)

/-- The document with that root. -/
def Document.ofRoot (root : Node) : Document := ⟨root, root.labels.reverse⟩

/-! ## §2. Taking tokens. -/

/-- Where the building of nodes stands. -/
structure Building where
  rest : List Token
  /-- The anchors met so far. -/
  anchors : List (String × Nat)
  /-- The handles of tags with what they stand for. -/
  handles : List (String × String)

/-- A step that takes tokens, or refuses the text. -/
abbrev Builder := StateT Building Option

namespace Builder

def next? : Builder (Option Token) := return (← get).rest.head?

def skip : Builder Unit := modify fun s => { s with rest := s.rest.drop 1 }

/-- Skip the next token if it is this one. -/
def take (t : Token) : Builder Bool := do
  if (← next?) == some t then
    skip
    return true
  return false

/-- Whether the next token is one of these. -/
def nextIsAmong (ts : List Token) : Builder Bool := return (← next?).any ts.contains

/-- Give a name to the node that starts here. -/
def declareAnchor (name : String) : Builder Nat := do
  let s ← get
  let n := s.anchors.length
  set { s with anchors := (name, n) :: s.anchors.filter (·.1 != name) }
  return n

/-- The tag that a handle and a suffix denote. -/
def fullTag (handle suffix : String) : Builder String := do
  if handle.isEmpty then return suffix
  let start ← (← get).handles.lookup handle
  return start ++ suffix

/-- The anchor and the tag in front of a node, in either order. -/
def mark : Builder Mark := do
  let anchor : Builder (Option String) := do
    match ← next? with
    | some (.anchor name) =>
      skip
      return some name
    | _ => return none
  let first ← anchor
  let tag ← (do
    match ← next? with
    | some (.tag handle suffix) =>
      skip
      return some (← fullTag handle suffix)
    | _ => return none : Builder (Option String))
  let name ← if first.isSome || tag.isNone then pure first else anchor
  match name with
  | some name => return ⟨some (← declareAnchor name), tag⟩
  | none => return ⟨none, tag⟩

end Builder

/-! ## §3. Building nodes. -/

open Builder

mutual

/-- The node at the next token.  In a block, block collections may start;
directly below a key, a sequence needs no further indentation.  The first
argument bounds the steps. -/
def node (block indentless : Bool) : Nat → Builder Node
  | 0 => failure
  | steps + 1 => do
    match ← next? with
    | some (.alias name) =>
      skip
      return .alias (← (← get).anchors.lookup name)
    | _ =>
      let mark ← mark
      match ← next? with
      | some .blockEntry =>
        if indentless then return .sequence mark (← plainEntries steps)
        else if mark == ⟨none, none⟩ then failure
        else return .scalar mark "" .plain
      | some (.scalar text style) =>
        skip
        return .scalar (if mark.tag == some "!" then ⟨mark.anchor, none⟩ else mark) text style
      | some .flowSequenceStart =>
        skip
        return .sequence mark (← flowItems true steps)
      | some .flowMappingStart =>
        skip
        return .mapping mark (← flowMembers true steps)
      | some .blockSequenceStart =>
        if !block then failure
        skip
        return .sequence mark (← entries steps)
      | some .blockMappingStart =>
        if !block then failure
        skip
        return .mapping mark (← members steps)
      | _ =>
        if mark == ⟨none, none⟩ then failure
        return .scalar mark "" .plain

/-- The node at the next token, unless one of these tokens comes next. -/
def nodeUnless (ends : List Token) (block indentless : Bool) : Nat → Builder Node
  | 0 => failure
  | steps + 1 => do
    if ← nextIsAmong ends then return .blank
    node block indentless steps

/-- The entries of a sequence that is indented no further. -/
def plainEntries : Nat → Builder (List Node)
  | 0 => failure
  | steps + 1 => do
    if ← take .blockEntry then
      let item ← nodeUnless [.blockEntry, .key, .value, .blockEnd] true false steps
      return item :: (← plainEntries steps)
    return []

/-- The entries of a block sequence. -/
def entries : Nat → Builder (List Node)
  | 0 => failure
  | steps + 1 => do
    if ← take .blockEntry then
      let item ← nodeUnless [.blockEntry, .blockEnd] true false steps
      return item :: (← entries steps)
    if ← take .blockEnd then return []
    failure

/-- The members of a block mapping. -/
def members : Nat → Builder (List (Node × Node))
  | 0 => failure
  | steps + 1 => do
    if ← take .key then
      let ends := [.key, .value, .blockEnd]
      let key ← nodeUnless ends true true steps
      let value ← if ← take .value then nodeUnless ends true true steps else pure .blank
      return (key, value) :: (← members steps)
    if ← take .blockEnd then return []
    failure

/-- The items of a flow sequence. -/
def flowItems (first : Bool) : Nat → Builder (List Node)
  | 0 => failure
  | steps + 1 => do
    if ← take .flowSequenceEnd then return []
    if !first then
      if !(← take .flowEntry) then failure
      if ← take .flowSequenceEnd then return []
    let item ← if ← take .key then pairItem steps else node false false steps
    return item :: (← flowItems false steps)

/-- An item of a flow sequence that is a mapping of one member. -/
def pairItem : Nat → Builder Node
  | 0 => failure
  | steps + 1 => do
    let key ←
      if ← nextIsAmong [.value, .flowEntry, .flowSequenceEnd] then do
        skip
        pure .blank
      else node false false steps
    let value ←
      if ← take .value then nodeUnless [.flowEntry, .flowSequenceEnd] false false steps
      else pure .blank
    return .mapping ⟨none, none⟩ [(key, value)]

/-- The members of a flow mapping. -/
def flowMembers (first : Bool) : Nat → Builder (List (Node × Node))
  | 0 => failure
  | steps + 1 => do
    if ← take .flowMappingEnd then return []
    if !first then
      if !(← take .flowEntry) then failure
      if ← take .flowMappingEnd then return []
    let member ←
      if ← take .key then do
        let key ← nodeUnless [.value, .flowEntry, .flowMappingEnd] false false steps
        let value ←
          if ← take .value then nodeUnless [.flowEntry, .flowMappingEnd] false false steps
          else pure .blank
        pure (key, value)
      else do
        let key ← node false false steps
        pure (key, .blank)
    return member :: (← flowMembers false steps)

end

/-! ## §4. Documents. -/

/-- The handles that every document knows. -/
def standardHandles : List (String × String) :=
  [("!", "!"), ("!!", "tag:yaml.org,2002:")]

/-- The directives in front of a document: none for a repeated or an unknown
one. -/
def directives (versioned : Bool) (handles : List (String × String)) :
    List Token → Option (List (String × String) × List Token)
  | .version major minor :: rest =>
    if versioned || major != 1 || (minor != 1 && minor != 2) then none
    else directives true handles rest
  | .tagDirective handle start :: rest =>
    if handles.any (·.1 == handle) then none
    else directives versioned (handles ++ [(handle, start)]) rest
  | rest => some (handles ++ standardHandles, rest)

/-- Whether a token starts or ends a document. -/
def Token.isBoundary : Token → Bool
  | .version .. | .tagDirective .. | .documentStart | .documentEnd => true
  | _ => false

/-- The one document of a list of tokens. -/
def Document.ofTokens? (tokens : List Token) : Option Document := do
  let steps := 4 * tokens.length + 8
  let (root, rest) ← match tokens with
    | [] => some (.void, [])
    | t :: _ =>
      let starts := t.isBoundary && t != .documentEnd
      let (handles, rest) ←
        if starts then directives false [] tokens else some (standardHandles, tokens)
      if starts then
        match rest with
        | .documentStart :: rest =>
          if rest.head?.all Token.isBoundary then some (.blank, rest)
          else ((node true false steps).run ⟨rest, [], handles⟩).map fun (n, s) => (n, s.rest)
        | _ => none
      else ((node true false steps).run ⟨rest, [], handles⟩).map fun (n, s) => (n, s.rest)
  if rest.all (· == .documentEnd) then return .ofRoot root else none

/-- The one document of a text. -/
def Document.ofText? (s : String) : Option Document := do
  Document.ofTokens? (← tokens? s.toList)

end ApiPlaybook.Yaml
