/-
  ApiPlaybook.Proofs.OpenApi.Relocation
  ─────────────────────────────────────
  **VALUES BEHIND REFERENCES.**

  An object of a document may be moved elsewhere, with a reference left in its
  place.  Values are added to the document (`Adds`), among them the object and
  whatever lies on the way to it, and then the reference is put where the object
  stood (`Moves`).  For entries of parameters and for security schemes

      the same operations and the same schemes are found
      (`lookUps_behind_refs`),

  through chains of any length.  It is not so for the items of paths: a reference
  in the place of one is read as an item without operations
  (`not_lookUps_behind_pathItem`).
-/
import ApiPlaybook.Proofs.OpenApi.Additions
import ApiPlaybook.Proofs.OpenApi.Places

namespace ApiPlaybook

/-- The object that is a reference. -/
def Json.refTo (ref : String) : Json := .object [("$ref", .string ref)]

namespace ApiDocument

/-! ## §1. What may stand behind a reference. -/

/-- The places of parameters in the item of a path. -/
inductive ItemPlace : List Slot → Prop where
  | general (i : Nat) : ItemPlace [.member "parameters", .item i]
  | own {method : String} (h : method ∈ methods) (i : Nat) :
      ItemPlace [.member method, .member "parameters", .item i]

/-- The places of parameters and security schemes in a document. -/
inductive Replaceable : List Slot → Prop where
  | parameter (path : String) {rest : List Slot} (h : ItemPlace rest) :
      Replaceable (.member "paths" :: .member path :: rest)
  | component (name : String) :
      Replaceable [.member "components", .member "securitySchemes", .member name]
  | defined (name : String) : Replaceable [.member "securityDefinitions", .member name]

/-- An object is taken from its place, and a reference left there from which other
references lead to it again. -/
structure Moves (d d' : ApiDocument) (place : List Slot) (ref : String) (old : Json) : Prop where
  there : d.content.at? place = some old
  isObject : old.IsObject
  replaced : d'.content = d.content.replaceAt place (.refTo ref)
  /-- The way back has any number of references. -/
  back : ∃ refs, d'.Passes (.refTo ref) refs old
  /-- Pointers do not pass through references, so none may have pointed inside the object. -/
  outside : ∀ r ∈ d.content.refs, ∀ steps, refSteps? r = some steps → ¬ GoesInside place steps

/-- The object is replaced by the reference somewhere within a value, or nothing is. -/
def Around (old : Json) (ref : String) (v v' : Json) : Prop :=
  ∃ slot rest, Json.Replaced old (.refTo ref) (slot :: rest) v v'

section Moved

variable {d d' : ApiDocument} {place rest : List Slot} {slot : Slot} {ref name : String}
  {old v v' : Json}

/-- A reference is written as an object. -/
theorem isObject_refTo (ref : String) : (Json.refTo ref).IsObject := ⟨_, rfl⟩

/-- A value in which nothing was replaced. -/
theorem Around.refl (v : Json) : Around old ref v v := ⟨.item 0, [], .refl v⟩

/-- The document has the reference in place of the object. -/
theorem Moves.content (h : d.Moves d' place ref old) :
    Json.Replaced old (.refTo ref) place d.content d'.content :=
  .inr ⟨h.there, h.replaced⟩

/-- The reference stands for the object, other values for what they were. -/
theorem Moves.stands (h : d.Moves d' place ref old) (hv : v.refs ⊆ d.content.refs)
    (hr : Json.Replaced old (.refTo ref) rest v v') :
    d'.Stands (d.Within (Around old ref)) v v' := by
  cases rest with
  | nil =>
    obtain rfl | ⟨hat, rfl⟩ := hr
    · exact .of_rel ⟨hv, .refl v'⟩
    · obtain rfl : v = old := Option.some.inj hat
      obtain ⟨refs, hback⟩ := h.back
      exact ⟨refs, v, hback, hv, .refl v⟩
  | cons slot rest => exact .of_rel ⟨hv, slot, rest, hr⟩

/-- **MOVING AN OBJECT** behind a reference changes nothing of what is looked up. -/
theorem Moves.simulates (h : d.Moves d' place ref old) :
    d.Simulates d' (d.Within (Around old ref)) := by
  have hfollow : ∀ v v' r steps, d.Within (Around old ref) v v' → v.ref? = some r →
      refSteps? r = some steps → Option.Rel
        (fun w w' => ∃ rest, Json.Replaced old (.refTo ref) rest w w')
        (d.content.follow? steps) (d'.content.follow? steps) :=
    fun v v' r steps hv hr hsteps => h.content.follow? (h.outside r (hv.ref_mem hr) steps hsteps)
  refine ⟨fun v v' hv => ?_, fun v v' r w hv hr ht => ?_, fun v v' r w' hv hr ht => ?_⟩
  · obtain ⟨-, slot, rest, hr⟩ := hv
    exact hr.sameAtoms h.isObject (isObject_refTo ref)
  · -- what the pointer led to may contain the place, or be the place
    obtain ⟨steps, hsteps, hw⟩ := target_eq_ok.mp ht
    have hrel := hfollow v v' r steps hv hr hsteps
    rw [hw] at hrel
    generalize hw' : d'.content.follow? steps = o at hrel
    cases hrel with
    | @some _ w' hrel =>
      obtain ⟨rest, hrel⟩ := hrel
      exact ⟨w', target_eq_ok.mpr ⟨steps, hsteps, hw'⟩, h.stands (refs_subset_of_target ht) hrel⟩
  · obtain ⟨steps, hsteps, hw'⟩ := target_eq_ok.mp ht
    have hrel := hfollow v v' r steps hv hr hsteps
    rw [hw'] at hrel
    generalize hw : d.content.follow? steps = o at hrel
    cases hrel with
    | @some w _ hrel => exact ⟨w, target_eq_ok.mpr ⟨steps, hsteps, hw⟩⟩

/-! ## §2. Operations. -/

/-- What lies around the object is read as before. -/
theorem Moves.readsAlike {next : Slot} (h : d.Moves d' place ref old)
    (hv : v.refs ⊆ d.content.refs)
    (hr : Json.Replaced old (.refTo ref) (slot :: next :: rest) v v')
    (hs : slot ≠ .member "servers") :
    ReadsAlike (d'.Stands (d.Within (Around old ref))) v v' where
  id := (hr.sameAtoms h.isObject (isObject_refTo ref)).text "operationId"
  server := hr.firstServer?_eq hs
  entries := (Within.parameterEntries hv hr.parameterEntries).imp
    fun _ _ hentry => h.stands hentry.1 hentry.2

theorem Moves.item_readsAlike (h : d.Moves d' place ref old) (hplace : ItemPlace rest)
    (hv : v.refs ⊆ d.content.refs) (hr : Json.Replaced old (.refTo ref) rest v v') :
    ReadsAlike (d'.Stands (d.Within (Around old ref))) v v' := by
  cases hplace with
  | general i => exact h.readsAlike hv hr (by decide)
  | own hm i =>
    have hservers : "servers" ∉ methods := by decide
    exact h.readsAlike hv hr fun heq => hservers (Slot.member.inj heq ▸ hm)

/-- In an operation only its own parameters may have been replaced. -/
theorem ItemPlace.operation {method : String} (hplace : ItemPlace rest) (hm : method ∈ methods)
    (hr : Json.Replaced old (.refTo ref) rest v v') :
    ∃ i, Option.Rel (Json.Replaced old (.refTo ref) [.member "parameters", .item i])
      (v.member? method) (v'.member? method) := by
  cases hplace with
  | general i =>
    have hparameters : "parameters" ∉ methods := by decide
    rw [hr.member?_eq fun heq => hparameters (Slot.member.inj heq ▸ hm)]
    exact ⟨0, Json.Replaced.rel_refl _⟩
  | own _ i => exact ⟨i, hr.member? method⟩

/-- The operations of an item are at the same places. -/
theorem Moves.pathOperations (h : d.Moves d' place ref old) (hplace : ItemPlace rest)
    (hv : v.refs ⊆ d.content.refs) (hr : Json.Replaced old (.refTo ref) rest v v')
    (path : String) :
    List.Forall₂ (SamePlace (d'.Stands (d.Within (Around old ref)))) (pathOperations path v)
      (pathOperations path v') := by
  unfold ApiDocument.pathOperations
  refine List.rel_filterMap (R := fun m m' => m = m' ∧ m ∈ methods) ?_
    (List.forall₂_same.mpr fun m hm => ⟨rfl, hm⟩)
  rintro m _ ⟨rfl, hm⟩
  obtain ⟨i, hop⟩ := hplace.operation hm hr
  have hrefs : ∀ op, v.member? m = some op → op.refs ⊆ d.content.refs :=
    fun op hop => List.Subset.trans (Json.refs_subset_of_member? hop) hv
  show Option.Rel _ ((v.member? m).map _) ((v'.member? m).map _)
  generalize v.member? m = o at hop hrefs ⊢
  generalize v'.member? m = o' at hop ⊢
  cases hop with
  | none => exact .none
  | some hop =>
    exact .some ⟨rfl, rfl, h.item_readsAlike hplace hv hr,
      h.readsAlike (hrefs _ rfl) hop (by decide)⟩

/-- In the paths only a parameter may have been replaced. -/
theorem Replaceable.paths (hplace : Replaceable place) (h : d.Moves d' place ref old) :
    ∃ path rest, ItemPlace rest ∧
      Option.Rel (Json.Replaced old (.refTo ref) (.member path :: rest))
        (d.content.member? "paths") (d'.content.member? "paths") := by
  cases hplace with
  | parameter path hitem => exact ⟨path, _, hitem, h.content.member? "paths"⟩
  | component name =>
    rw [h.content.member?_eq (by decide)]
    exact ⟨"", _, .general 0, Json.Replaced.rel_refl _⟩
  | defined name =>
    rw [h.content.member?_eq (by decide)]
    exact ⟨"", _, .general 0, Json.Replaced.rel_refl _⟩

theorem Moves.operationPlaces (h : d.Moves d' place ref old) (hplace : Replaceable place) :
    List.Forall₂ (SamePlace (d'.Stands (d.Within (Around old ref)))) d.operationPlaces
      d'.operationPlaces := by
  -- the place is inside the paths or off them
  obtain ⟨path, rest, hitem, hpaths⟩ := hplace.paths h
  have hrefs : ∀ paths, d.content.member? "paths" = some paths →
      paths.refs ⊆ d.content.refs := fun paths => Json.refs_subset_of_member?
  unfold ApiDocument.operationPlaces
  generalize d.content.member? "paths" = o at hpaths hrefs ⊢
  generalize d'.content.member? "paths" = o' at hpaths ⊢
  cases hpaths with
  | none => exact .nil
  | @some paths paths' hpaths =>
    have hmembers := hpaths.asObject?
    have hitems : ∀ members, paths.asObject? = some members → ∀ e ∈ members,
        e.2.refs ⊆ d.content.refs := fun members hmembers e he =>
      List.Subset.trans (Json.refs_subset_of_asObject? hmembers e he) (hrefs paths rfl)
    show List.Forall₂ _ ((paths.asObject?.getD []).flatMap _)
      ((paths'.asObject?.getD []).flatMap _)
    generalize paths.asObject? = o at hmembers hitems ⊢
    generalize paths'.asObject? = o' at hmembers ⊢
    cases hmembers with
    | none => exact .nil
    | some hmembers =>
      -- item by item, under the same path
      refine List.rel_flatMap ((List.forall₂_and_left _ _).mpr ⟨hitems _ rfl, hmembers⟩) ?_
      rintro ⟨path, item⟩ ⟨_, item'⟩ ⟨hv, rfl, hr⟩
      exact h.pathOperations hitem hv hr path

/-- The server of the document is the same. -/
theorem Moves.defaultServer?_eq (h : d.Moves d' place ref old) (hplace : Replaceable place) :
    d.defaultServer? = d'.defaultServer? := by
  have hmember : ∀ name, name ∉ ["paths", "components", "securityDefinitions"] →
      d'.content.member? name = d.content.member? name := by
    intro name hname
    cases hplace with
    | _ => exact h.content.member?_eq fun heq => hname (Slot.member.inj heq ▸ by decide)
  unfold defaultServer? hostUrl? firstServer?
  rw [hmember "servers" (by decide), hmember "host" (by decide), hmember "schemes" (by decide),
    hmember "basePath" (by decide)]

/-! ## §3. Schemes. -/

/-- What is declared under a name is a value that was not touched, or the place itself. -/
theorem Moves.componentScheme? (h : d.Moves d' place ref old) (hplace : Replaceable place)
    (name : String) : Option.Rel (Json.Replaced old (.refTo ref) []) (d.componentScheme? name)
      (d'.componentScheme? name) := by
  unfold ApiDocument.componentScheme?
  cases hplace with
  | component n =>
    exact Json.Replaced.bind_member?
      (Json.Replaced.bind_member? (h.content.member? "components") "securitySchemes") name
  | _ =>
    rw [h.content.member?_eq (by decide)]
    exact Json.Replaced.rel_refl _

/-- A scheme among the definitions is there, or has become the reference. -/
theorem Moves.definedScheme? (h : d.Moves d' place ref old) (hplace : Replaceable place)
    (name : String) : Option.Rel (Json.Replaced old (.refTo ref) []) (d.definedScheme? name)
      (d'.definedScheme? name) := by
  unfold ApiDocument.definedScheme?
  cases hplace with
  | defined n => exact Json.Replaced.bind_member? (h.content.member? "securityDefinitions") name
  | _ =>
    rw [h.content.member?_eq (by decide)]
    exact Json.Replaced.rel_refl _

theorem Moves.declaredScheme? (h : d.Moves d' place ref old) (hplace : Replaceable place)
    (name : String) : Option.Rel (d'.Stands (d.Within (Around old ref))) (d.declaredScheme? name)
      (d'.declaredScheme? name) := by
  have hrel := rel_declaredScheme? (h.componentScheme? hplace name) (h.definedScheme? hplace name)
  have hrefs : ∀ v, d.declaredScheme? name = some v → v.refs ⊆ d.content.refs :=
    fun v => refs_subset_of_declaredScheme?
  generalize d.declaredScheme? name = o at hrel hrefs ⊢
  generalize d'.declaredScheme? name = o' at hrel ⊢
  cases hrel with
  | none => exact .none
  | some hr => exact .some (h.stands (hrefs _ rfl) hr)

end Moved

/-! ## §4. Look-ups. -/

/-- **WHAT IS MOVED BEHIND REFERENCES IS FOUND THERE.**  With a parameter or a security scheme
at the end of a chain of references every operation is the same, and so is the scheme of every
name except those added on the way. -/
theorem lookUps_behind_refs {d grown d' : ApiDocument} {place : List Slot} {ref : String}
    {old : Json} (hadds : d.Adds grown) (hmoves : grown.Moves d' place ref old)
    (hplace : Replaceable place) :
    (∀ id, (d'.operation? id).value = (d.operation? id).value) ∧
      ∀ name, d.SchemeNotAdded grown name →
        (d'.securityScheme? name).value = (d.securityScheme? name).value := by
  refine ⟨fun id => ?_, fun name hname => ?_⟩
  · have hmoved := hmoves.simulates.operation?_eq
      (rel_find? (hmoves.operationPlaces hplace) id) (hmoves.defaultServer?_eq hplace)
    exact hmoved.symm.trans (hadds.operation?_eq id).symm
  · have hmoved := hmoves.simulates.securityScheme?_eq (hmoves.declaredScheme? hplace name)
    exact hmoved.symm.trans (hadds.securityScheme?_eq hname).symm

/-- A scheme, and an operation with two parameters, of which one stands behind a reference. -/
def pagesDocument (page : Json) (component added : List (String × Json)) : ApiDocument where
  content := .object (
    ("components", .object [
      ("parameters", .object (
        ("limit", .object [("in", .string "query"), ("name", .string "limit")]) :: component)),
      ("securitySchemes", .object [
        ("login", .object [("scheme", .string "bearer"), ("type", .string "http")])])]) ::
    ("paths", .object [("/pages", .object [("get", .object [
      ("operationId", .string "listPages"),
      ("parameters", .array [page, .refTo "#/components/parameters/limit"])])])]) :: added)

def pageParameter : Json := .object [("in", .string "query"), ("name", .string "page")]

def pagesInline : ApiDocument := pagesDocument pageParameter [] []

/-- The parameter once more, and a reference to it. -/
def pagesGrown : ApiDocument :=
  pagesDocument pageParameter [("page", .refTo "#/x-page")] [("x-page", pageParameter)]

/-- The parameter behind two references. -/
def pagesMoved : ApiDocument :=
  pagesDocument (.refTo "#/components/parameters/page") [("page", .refTo "#/x-page")]
    [("x-page", pageParameter)]

/-- First the object is added among the components. -/
theorem pagesInline_adds : pagesInline.Adds pagesGrown where
  grows :=
    have hparameters := .object (.keep (.same _) (.add ⟨_, rfl⟩ rfl .nil))
    have hcomponents := .object (.keep hparameters (.keep (.same _) .nil))
    .object (.keep hcomponents (.keep (.same _) (.add ⟨_, rfl⟩ rfl .nil)))
  unused := by
    intro r hr k' _
    have hrefs : pagesInline.content.refs = ["#/components/parameters/limit"] := rfl
    rw [hrefs, List.mem_singleton] at hr
    subst hr
    exact ⟨_, rfl⟩
  ids := rfl

theorem pagesGrown_moves : pagesGrown.Moves pagesMoved
    [.member "paths", .member "/pages", .member "get", .member "parameters", .item 0]
    "#/components/parameters/page" pageParameter where
  there := rfl
  isObject := ⟨_, rfl⟩
  replaced := rfl
  back := ⟨_, .next rfl rfl (.next rfl rfl (.here _))⟩
  outside := by
    intro r hr steps hsteps
    have hrefs : pagesGrown.content.refs = ["#/x-page", "#/components/parameters/limit"] := rfl
    rw [hrefs, List.mem_cons, List.mem_singleton] at hr
    rcases hr with rfl | rfl
    · obtain rfl : ["x-page"] = steps := Option.some.inj hsteps
      exact fun hinside => absurd hinside.1 (by decide)
    · obtain rfl : ["components", "parameters", "limit"] = steps := Option.some.inj hsteps
      exact fun hinside => absurd hinside.1 (by decide)

/-- A parameter and a scheme behind references, found as before. -/
theorem lookUps_behind_refs_pages :
    pagesInline.Adds pagesGrown ∧
    pagesGrown.Moves pagesMoved
      [.member "paths", .member "/pages", .member "get", .member "parameters", .item 0]
      "#/components/parameters/page" pageParameter ∧
    (pagesMoved.operation? "listPages").value = (pagesInline.operation? "listPages").value ∧
    (pagesMoved.securityScheme? "login").value = (pagesInline.securityScheme? "login").value := by
  have hlogin : pagesInline.SchemeNotAdded pagesGrown "login" :=
    ⟨fun hnone => absurd hnone (Option.some_ne_none _), fun _ => rfl⟩
  obtain ⟨hoperations, hschemes⟩ := lookUps_behind_refs pagesInline_adds pagesGrown_moves
    (.parameter "/pages" (.own (by decide) 0))
  exact ⟨pagesInline_adds, pagesGrown_moves, hoperations "listPages", hschemes "login" hlogin⟩

/-! ## §5. Items of paths. -/

/-- An item that is a reference has no operations. -/
theorem pathOperations_refTo (path ref : String) : pathOperations path (.refTo ref) = [] := by
  have hnone : ∀ method ∈ methods, (Json.refTo ref).member? method = none := by
    intro method hm
    have href : "$ref" ∉ methods := by decide
    exact if_neg fun heq : method = "$ref" => href (heq ▸ hm)
  unfold pathOperations
  rw [List.filterMap_eq_nil_iff]
  intro method hm
  rw [hnone method hm]
  rfl

/-- The operations of an item have its path. -/
theorem path_of_mem_pathOperations {path : String} {item : Json} {p : OperationPlace}
    (h : p ∈ pathOperations path item) : p.path = path := by
  obtain ⟨method, -, hp⟩ := List.mem_filterMap.mp h
  obtain ⟨op, -, rfl⟩ := Option.map_eq_some_iff.mp hp
  rfl

/-- An operation that is found is one of the places of the document. -/
theorem mem_operationPlaces_of_operation? {d : ApiDocument} {id : String} {op : ApiOperation}
    (h : (d.operation? id).value = some op) : ∃ p ∈ d.operationPlaces, op.path = p.path := by
  unfold operation? at h
  cases hp : d.place? id with
  | none =>
    rw [hp] at h
    cases h
  | some p =>
    rw [hp] at h
    cases h
    exact ⟨p, List.mem_of_find?_eq_some hp, rfl⟩

/-- So no operation is found at the path from which the item was moved away. -/
theorem Moves.operation?_path_ne {d d' : ApiDocument} {path ref : String} {old : Json}
    (h : d.Moves d' [.member "paths", .member path] ref old) {members : List (String × Json)}
    (hpaths : d.content.member? "paths" = some (.object members)) (hnames : InNameOrder members)
    {id : String} {op : ApiOperation} (hop : (d'.operation? id).value = some op) :
    op.path ≠ path := by
  rintro rfl
  obtain ⟨p, hp, hpath⟩ := mem_operationPlaces_of_operation? hop
  have hpaths' := Json.member?_replaceAt hpaths [.member op.path] (.refTo ref)
  rw [← h.replaced] at hpaths'
  unfold ApiDocument.operationPlaces at hp
  rw [hpaths'] at hp
  obtain ⟨⟨name, item⟩, hmem, hp⟩ := List.mem_flatMap.mp hp
  obtain rfl : op.path = name := hpath.trans (path_of_mem_pathOperations hp)
  obtain ⟨v, rfl⟩ := eq_of_mem_modifyEntry hnames hmem
  have hnone : p ∈ ApiDocument.pathOperations op.path (.refTo ref) := hp
  rw [pathOperations_refTo] at hnone
  cases hnone

def listItem : Json := .object [("get", .object [("operationId", .string "list")])]

/-- One path. -/
def itemDocument (item : Json) (added : List (String × Json)) : ApiDocument where
  content := .object (("paths", .object [("/a", item)]) :: added)

/-- **WHAT IS MOVED WITH THE ITEM OF ITS PATH IS LOST.** -/
theorem not_lookUps_behind_pathItem :
    (itemDocument listItem []).Adds (itemDocument listItem [("x-items", listItem)]) ∧
    (itemDocument listItem [("x-items", listItem)]).Moves
      (itemDocument (.refTo "#/x-items") [("x-items", listItem)])
      [.member "paths", .member "/a"] "#/x-items" listItem ∧
    ((itemDocument listItem []).operation? "list").value = some ⟨"list", "GET", "/a", "", []⟩ ∧
    ((itemDocument (.refTo "#/x-items") [("x-items", listItem)]).operation? "list").value
      = none := by
  refine ⟨⟨.object (.keep (.same _) (.add ⟨_, rfl⟩ rfl .nil)), ?_, rfl⟩,
    ⟨rfl, ⟨_, rfl⟩, rfl, ⟨_, .next rfl rfl (.here _)⟩, ?_⟩, ?_, rfl⟩
  · intro r hr
    cases hr
  · intro r hr
    cases hr
  · decide +kernel

end ApiDocument

end ApiPlaybook
