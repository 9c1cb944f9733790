/-
  ApiPlaybook.JsonPath.Basic
  ──────────────────────────
  **QUERIES INTO JSON VALUES.**

  A query is a list of segments, each of which leads from nodes to nodes below
  them.  Conditions of filters are kept in the form in which they make sense:
  what is compared is one value at most, what is counted is a list of nodes, so
  evaluation has no case that could go wrong.
-/
import ApiPlaybook.Json.Basic
import ApiPlaybook.Regex.Machine

namespace ApiPlaybook.JsonPath

/-! ## §1. Queries. -/

/-- A comparison. -/
inductive Comparison where
  | equal
  | unequal
  | less
  | lessOrEqual
  | greater
  | greaterOrEqual
deriving DecidableEq, Inhabited

mutual

/-- What leads from a node to some of its children. -/
inductive Selector where
  | name (name : String)
  | wildcard
  | index (i : Int)
  | slice (start stop : Option Int) (step : Int)
  | filter (c : Condition)

/-- Selectors for the children of a node, or of the node and all below it. -/
inductive Segment where
  | child (selectors : List Selector)
  | descendant (selectors : List Selector)

/-- A condition on a node.  A query starts at the root or at the node. -/
inductive Condition where
  | or (c d : Condition)
  | and (c d : Condition)
  | not (c : Condition)
  | exists (fromRoot : Bool) (segments : List Segment)
  | compare (op : Comparison) (a b : Operand)
  /-- A text matches a pattern, as a whole or in part. -/
  | matches (whole : Bool) (text pattern : Operand)

/-- What has one value at most. -/
inductive Operand where
  | literal (j : Json)
  /-- The only node that a query leads to. -/
  | node (fromRoot : Bool) (segments : List Segment)
  | length (a : Operand)
  | count (fromRoot : Bool) (segments : List Segment)

end

instance : Inhabited Selector := ⟨.wildcard⟩
instance : Inhabited Segment := ⟨.child []⟩
instance : Inhabited Operand := ⟨.literal .null⟩
instance : Inhabited Condition := ⟨.exists true []⟩

/-! ## §2. Nodes and values. -/

/-- The children of a value, in order. -/
def children : Json → List Json
  | .array items => items
  | .object members => members.map (·.2)
  | _ => []

mutual

/-- A value and all below it, each before its children. -/
def descendants : Json → List Json
  | .array items => .array items :: itemDescendants items
  | .object members => .object members :: memberDescendants members
  | j => [j]

def itemDescendants : List Json → List Json
  | [] => []
  | item :: rest => descendants item ++ itemDescendants rest

def memberDescendants : List (String × Json) → List Json
  | [] => []
  | (_, value) :: rest => descendants value ++ memberDescendants rest

end

/-- The item at an index, counted from the end when it is negative. -/
def item? (items : List Json) (i : Int) : Option Json :=
  let i := if i < 0 then i + items.length else i
  if 0 ≤ i then items[i.toNat]? else none

/-- An index between two bounds. -/
def clamp (low high i : Int) : Int := max low (min high i)

/-- The items of a slice; with a negative step it runs backwards. -/
def sliceItems (items : List Json) (start stop : Option Int) (step : Int) : List Json :=
  let len : Int := items.length
  let absolute (i : Int) : Int := if i < 0 then i + len else i
  let pick (low : Int) (count : Nat) : List Json :=
    (List.range count).filterMap fun (k : Nat) => items[(low + (k : Int) * step).toNat]?
  if 0 < step then
    let low := clamp 0 len (absolute (start.getD 0))
    let high := clamp 0 len (absolute (stop.getD len))
    if low < high then pick low ((high - low + step - 1) / step).toNat else []
  else if step < 0 then
    let high := clamp (-1) (len - 1) (absolute (start.getD (len - 1)))
    let low := match stop with
      | some i => clamp (-1) (len - 1) (absolute i)
      | none => -1
    if low < high then pick high ((high - low - step - 1) / (-step)).toNat else []
  else []

/-- The double nearest to a number. -/
def toDouble : Number → Binary64
  | .float x => x
  | .integer i => (Binary64.ofScaled? (i < 0) i.natAbs 0).getD .zero

mutual

/-- Equality of values, numbers being equal as doubles. -/
def same : Json → Json → Bool
  | .null, .null => true
  | .bool a, .bool b => a == b
  | .number a, .number b => (toDouble a).compare (toDouble b) == .eq
  | .string a, .string b => a == b
  | .array a, .array b => sameItems a b
  | .object a, .object b => sameMembers a b
  | _, _ => false

def sameItems : List Json → List Json → Bool
  | [], [] => true
  | a :: as, b :: bs => same a b && sameItems as bs
  | _, _ => false

def sameMembers : List (String × Json) → List (String × Json) → Bool
  | [], [] => true
  | (m, a) :: as, (n, b) :: bs => m == n && same a b && sameMembers as bs
  | _, _ => false

end

/-- Order of numbers and of texts; nothing else is less than anything. -/
def isLess : Json → Json → Bool
  | .number a, .number b => (toDouble a).compare (toDouble b) == .lt
  | .string a, .string b => a < b
  | _, _ => false

/-- Equality of operands; two without a value are equal. -/
def sameOperands : Option Json → Option Json → Bool
  | none, none => true
  | some a, some b => same a b
  | _, _ => false

def isLessOperand : Option Json → Option Json → Bool
  | some a, some b => isLess a b
  | _, _ => false

def Comparison.holds (a b : Option Json) : Comparison → Bool
  | .equal => sameOperands a b
  | .unequal => !sameOperands a b
  | .less => isLessOperand a b
  | .lessOrEqual => isLessOperand a b || sameOperands a b
  | .greater => isLessOperand b a
  | .greaterOrEqual => isLessOperand b a || sameOperands a b

/-- The length of a text, a list or an object. -/
def lengthOf? : Json → Option Nat
  | .string s => some s.length
  | .array items => some items.length
  | .object members => some members.length
  | _ => none

/-- Whether a text matches a pattern; what is no text or no pattern does not. -/
def textMatches (whole : Bool) : Option Json → Option Json → Bool
  | some (.string s), some (.string p) =>
    match Regex.ofPattern? (if whole then "^(" ++ p ++ ")$" else p) with
    | some r => (r.find? s.toList).isSome
    | none => false
  | _, _ => false

/-! ## §3. Evaluation. -/

mutual

/-- The children that a selector selects. -/
def select (root node : Json) : Selector → List Json
  | .name name => (node.member? name).toList
  | .wildcard => children node
  | .index i => match node with
    | .array items => (item? items i).toList
    | _ => []
  | .slice start stop step => match node with
    | .array items => sliceItems items start stop step
    | _ => []
  | .filter c => (children node).filter fun child => holds root child c

/-- The children that any of the selectors selects, selector by selector. -/
def selectAny (root node : Json) : List Selector → List Json
  | [] => []
  | s :: rest => select root node s ++ selectAny root node rest

/-- The nodes that segments lead to. -/
def follow (root : Json) (nodes : List Json) : List Segment → List Json
  | [] => nodes
  | .child selectors :: rest =>
    follow root (nodes.flatMap fun node => selectAny root node selectors) rest
  | .descendant selectors :: rest =>
    follow root ((nodes.flatMap descendants).flatMap fun node => selectAny root node selectors) rest

/-- Whether a condition holds of a node. -/
def holds (root node : Json) : Condition → Bool
  | .or c d => holds root node c || holds root node d
  | .and c d => holds root node c && holds root node d
  | .not c => !holds root node c
  | .exists fromRoot segments =>
    !(follow root [if fromRoot then root else node] segments).isEmpty
  | .compare op a b => op.holds (evaluate root node a) (evaluate root node b)
  | .matches whole text pattern =>
    textMatches whole (evaluate root node text) (evaluate root node pattern)

/-- The value of an operand, if it has one. -/
def evaluate (root node : Json) : Operand → Option Json
  | .literal j => some j
  | .node fromRoot segments =>
    match follow root [if fromRoot then root else node] segments with
    | [j] => some j
    | _ => none
  | .length a => ((evaluate root node a).bind lengthOf?).map fun n => .ofInt n
  | .count fromRoot segments =>
    some (.ofInt (follow root [if fromRoot then root else node] segments).length)

end

/-- The nodes of a value that a query leads to. -/
def query (j : Json) (segments : List Segment) : List Json := follow j [j] segments

end ApiPlaybook.JsonPath
