/-
  ApiPlaybook.Yaml.Value
  ──────────────────────
  **FREE YAML DOCUMENTS AS JSON.**

  An API description may be any YAML document.  It is read into a value whose
  keys are values too, and then turned into JSON: keys are written as texts, and
  a value with a tag of its own becomes an object of one member.
-/
import ApiPlaybook.Json.Draft
import ApiPlaybook.Json.Printer
import ApiPlaybook.Yaml.Record

namespace ApiPlaybook.Yaml

/-- A YAML value. -/
inductive Value where
  | null
  | bool (b : Bool)
  | integer (i : Int)
  | real (x : Real)
  | text (s : String)
  | sequence (items : List Value)
  | mapping (members : List (Value × Value))
  | tagged (tag : String) (value : Value)
deriving Inhabited

/-! ## §1. Equality of keys. -/

/-- Equality of numbers; the two zeros are equal. -/
def Real.same : Real → Real → Bool
  | .finite x, .finite y => x.compare y == .eq
  | a, b => a == b

/-- A tag without one mark in front of it. -/
def bareTag (tag : String) : String :=
  match tag.toList with
  | '!' :: c :: rest => String.ofList (c :: rest)
  | _ => tag

mutual

/-- Whether two values are the same key; the order of members is of no account. -/
def Value.same : Value → Value → Bool
  | .null, .null => true
  | .bool a, .bool b => a == b
  | .integer a, .integer b => a == b
  | .real a, .real b => a.same b
  | .text a, .text b => a == b
  | .sequence a, .sequence b => Value.sameItems a b
  | .mapping a, .mapping b => a.length == b.length && Value.sameMembers a b
  | .tagged s a, .tagged t b => bareTag s == bareTag t && a.same b
  | _, _ => false

def Value.sameItems : List Value → List Value → Bool
  | [], [] => true
  | a :: as, b :: bs => a.same b && Value.sameItems as bs
  | _, _ => false

def Value.sameMembers : List (Value × Value) → List (Value × Value) → Bool
  | [], _ => true
  | (key, value) :: rest, members =>
    (members.any fun m => key.same m.1 && value.same m.2) && Value.sameMembers rest members

end

/-! ## §2. Reading. -/

/-- The value that a scalar stands for. -/
def Resolved.toValue? : Resolved → Option Value
  | .null => some .null
  | .bool b => some (.bool b)
  | .integer i => some (.integer i)
  | .wide => none
  | .real x => some (.real x)
  | .text s => some (.text s)

/-- Add a member, unless its key is there. -/
def addMember? (members : List (Value × Value)) (m : Value × Value) :
    Option (List (Value × Value)) :=
  if members.any fun other => other.1.same m.1 then none else some (m :: members)

/-- The value with the tag that is written in front of it. -/
def withTag (tag : Option String) (v : Value) : Value :=
  match Place.ownTagName? tag with
  | some name => .tagged name v
  | none => v

/-- The value of a node. -/
def valueOf (d : Document) : Nat → Node → Walk Value
  | depth, node => do
    match ← follow d node with
    | .void => return .null
    | .alias _ => failure
    | .scalar mark s style =>
      let tag := if isOwnTag mark.tag then none else mark.tag
      let r ← Resolved.ofScalar? tag s style
      return withTag mark.tag (← r.toValue?)
    | .sequence mark items =>
      match depth with
      | 0 => failure
      | depth + 1 => return withTag mark.tag (.sequence (← items.mapM (valueOf d depth)))
    | .mapping mark members =>
      match depth with
      | 0 => failure
      | depth + 1 =>
        let members ← members.foldlM (fun acc (key, value) => do
          let k ← valueOf d depth key
          let v ← valueOf d depth value
          addMember? acc (k, v)) []
        return withTag mark.tag (.mapping members.reverse)

/-! ## §3. JSON. -/

/-- The text of a key. -/
def Value.keyText : Value → Except SyntaxError String
  | .bool b => .ok (if b then "true" else "false")
  | .integer i => .ok (String.ofList (integerText i))
  | .real (.finite x) => .ok (String.ofList (x.render .json))
  | .real _ => .error .keyNotFinite
  | .text s => .ok s
  | _ => .error .keyNotString

mutual

/-- The JSON form of a value. -/
def Value.toJson : Value → Except SyntaxError Json
  | .null => .ok .null
  | .bool b => .ok (.bool b)
  | .integer i => .ok (.ofInt i)
  | .real (.finite x) => .ok (.number (.float x))
  | .real _ => .ok .null
  | .text s => .ok (.string s)
  | .sequence items => do return .array (← Value.itemsToJson items)
  | .mapping members => do return .ofMembers (← Value.membersToJson members)
  | .tagged tag value => do return .ofMembers [("!" ++ bareTag tag, ← value.toJson)]

def Value.itemsToJson : List Value → Except SyntaxError (List Json)
  | [] => .ok []
  | item :: rest => do
    let v ← item.toJson
    let vs ← Value.itemsToJson rest
    return v :: vs

def Value.membersToJson : List (Value × Value) → Except SyntaxError (List (String × Json))
  | [] => .ok []
  | (key, value) :: rest => do
    let name ← key.keyText
    let v ← value.toJson
    let ms ← Value.membersToJson rest
    return (name, v) :: ms

end

/-- The value of a YAML text. -/
def Value.ofText? (s : String) : Option Value := do
  let d ← Document.ofText? s
  let (v, _) ← (valueOf d maxDepth d.root).run d.aliasLimit
  return v

end ApiPlaybook.Yaml
