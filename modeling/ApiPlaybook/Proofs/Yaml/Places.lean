/-
  ApiPlaybook.Proofs.Yaml.Places
  ──────────────────────────────
  **YAML DOCUMENTS WHOSE VALUES ARE WHAT THEY SEEM.**

  A scalar of a YAML document can stand for a null in three ways: it may be
  plain and say so, it may be a number that JSON does not have, and it may be
  quoted with the tag of nulls.  A value that may be absent is taken as absent
  for the first only.  Where no scalar of a document is one of the other two
  (`Document.IsFinite`, `Document.HasPlainNulls`), what is not absent is no null
  (`Place.lawful`).
-/
import ApiPlaybook.Proofs.Bundle.Normal
import ApiPlaybook.Yaml.Record

namespace ApiPlaybook.Yaml

/-! ## §1. Scalars of a document. -/

/-- The scalar stands for no infinite or undefined number. -/
def isFinite (mark : Mark) (text : String) (style : ScalarStyle) : Bool :=
  match Resolved.ofScalar? mark.tag text style with
  | some (.real (.finite _)) => true
  | some (.real _) => false
  | _ => true

/-- The scalar stands for a null only if it is plain. -/
def isPlainIfNull (mark : Mark) (text : String) (style : ScalarStyle) : Bool :=
  match Resolved.ofScalar? mark.tag text style with
  | some .null => style == .plain
  | _ => true

section AllScalars

variable (p : Mark → String → ScalarStyle → Bool)

mutual

/-- Whether all scalars of a node pass, names of members included. -/
def Node.allScalars : Node → Bool
  | .scalar mark text style => p mark text style
  | .sequence _ items => Node.allInItems items
  | .mapping _ members => Node.allInMembers members
  | _ => true

def Node.allInItems : List Node → Bool
  | [] => true
  | item :: rest => item.allScalars && Node.allInItems rest

def Node.allInMembers : List (Node × Node) → Bool
  | [] => true
  | (key, value) :: rest => key.allScalars && value.allScalars && Node.allInMembers rest

end

end AllScalars

/-- No scalar of the document stands for an infinite or undefined number. -/
def Document.IsFinite (d : Document) : Prop := d.root.allScalars isFinite = true

/-- No scalar of the document stands for a null, unless it is plain. -/
def Document.HasPlainNulls (d : Document) : Prop := d.root.allScalars isPlainIfNull = true

section AllScalars

variable (p : Mark → String → ScalarStyle → Bool)

/-- A property of all scalars of items is one of the scalars of each. -/
theorem Node.allInItems_iff {items : List Node} :
    Node.allInItems p items = true ↔ ∀ item ∈ items, item.allScalars p = true := by
  induction items with
  | nil => simp [Node.allInItems]
  | cons item rest ih => rw [Node.allInItems, Bool.and_eq_true, List.forall_mem_cons, ih]

theorem Node.allInMembers_iff {members : List (Node × Node)} :
    Node.allInMembers p members = true ↔
      ∀ e ∈ members, e.1.allScalars p = true ∧ e.2.allScalars p = true := by
  induction members with
  | nil => simp [Node.allInMembers]
  | cons e rest ih =>
    rw [Node.allInMembers, Bool.and_eq_true, Bool.and_eq_true, List.forall_mem_cons, ih]

/-- A node with an anchor is no alias, and its scalars are scalars of the document. -/
def Node.Anchors (e : Nat × Node) : Prop := e.2.allScalars p = true ∧ ∀ a, e.2 ≠ .alias a

/-- An anchor that a mark sets stands at a node with the property. -/
theorem Mark.anchors_label {mark : Mark} {node : Node} (h : node.allScalars p = true)
    (hnode : ∀ a, node ≠ .alias a) : ∀ e ∈ mark.label node, Node.Anchors p e := by
  unfold Mark.label
  cases mark.anchor with
  | none => exact fun e he => absurd he List.not_mem_nil
  | some n => exact fun e he => List.mem_singleton.mp he ▸ ⟨h, hnode⟩

mutual

/-- By recursion over the tree: every anchor in a node stands at one with the property. -/
theorem Node.anchors_labels (node : Node) (h : node.allScalars p = true) :
    ∀ e ∈ node.labels, Node.Anchors p e := by
  match node with
  | .void | .alias _ => exact fun e he => absurd he List.not_mem_nil
  | .scalar mark text style => exact Mark.anchors_label p h nofun
  | .sequence mark items =>
    intro e he
    rcases List.mem_append.mp he with he | he
    · exact Mark.anchors_label p h nofun e he
    · exact Node.anchors_itemLabels items h e he
  | .mapping mark members =>
    intro e he
    rcases List.mem_append.mp he with he | he
    · exact Mark.anchors_label p h nofun e he
    · exact Node.anchors_memberLabels members h e he

theorem Node.anchors_itemLabels (items : List Node) (h : Node.allInItems p items = true) :
    ∀ e ∈ Node.itemLabels items, Node.Anchors p e := by
  match items with
  | [] => exact fun e he => absurd he List.not_mem_nil
  | item :: rest =>
    obtain ⟨hitem, hrest⟩ := Bool.and_eq_true_iff.mp h
    intro e he
    rcases List.mem_append.mp he with he | he
    · exact Node.anchors_labels item hitem e he
    · exact Node.anchors_itemLabels rest hrest e he

theorem Node.anchors_memberLabels (members : List (Node × Node))
    (h : Node.allInMembers p members = true) :
    ∀ e ∈ Node.memberLabels members, Node.Anchors p e := by
  match members with
  | [] => exact fun e he => absurd he List.not_mem_nil
  | (key, value) :: rest =>
    obtain ⟨hmember, hrest⟩ := Bool.and_eq_true_iff.mp h
    obtain ⟨hkey, hvalue⟩ := Bool.and_eq_true_iff.mp hmember
    intro e he
    rcases List.mem_append.mp he with he | he
    · rcases List.mem_append.mp he with he | he
      · exact Node.anchors_labels key hkey e he
      · exact Node.anchors_labels value hvalue e he
    · exact Node.anchors_memberLabels rest hrest e he

end

end AllScalars

/-- The nodes with an anchor are those of the root. -/
theorem Document.ofTokens?_anchored {tokens : List Token} {d : Document}
    (h : Document.ofTokens? tokens = some d) : d.anchored = d.root.labels.reverse := by
  -- wherever the root comes from, the document is made of it
  have hroot {o : Option (Node × List Token)} (h : (o.bind fun built =>
      if built.2.all (· == .documentEnd) then some (Document.ofRoot built.1) else none)
        = some d) : d.anchored = d.root.labels.reverse := by
    obtain ⟨built, -, h⟩ := Option.bind_eq_some_iff.mp h
    split at h
    · cases h
      rfl
    · cases h
  unfold Document.ofTokens? at h
  dsimp only at h
  split at h
  · exact hroot h
  · split at h
    · obtain ⟨⟨handles, rest⟩, -, h⟩ := Option.bind_eq_some_iff.mp h
      dsimp only at h
      split at h
      · split at h
        · exact hroot h
        · exact hroot h
      · exact hroot h
    · exact hroot h

/-- The anchors of a document that was read are those of its root, the last one first. -/
theorem Document.ofText?_anchored {s : String} {d : Document} (h : Document.ofText? s = some d) :
    d.anchored = d.root.labels.reverse := by
  obtain ⟨tokens, -, h⟩ := Option.bind_eq_some_iff.mp h
  exact Document.ofTokens?_anchored h

/-! ## §2. What stands for a null. -/

theorem Resolved.ofInteger?_ne_null {i : Int} : Resolved.ofInteger? i ≠ some .null := by
  unfold Resolved.ofInteger?
  split
  · exact nofun
  · split <;> exact nofun

/-- A plain scalar is null when it is empty or one of the words for it. -/
theorem Resolved.ofPlain_eq_null {s : String} (h : Resolved.ofPlain s = .null) :
    (s.isEmpty || isNull s) = true := by
  unfold Resolved.ofPlain at h
  split at h
  · next hs => exact hs
  · split at h
    · cases h
    · split at h
      · next r hr =>
        obtain ⟨i, -, hi⟩ := Option.bind_eq_some_iff.mp hr
        rw [h] at hi
        exact absurd hi Resolved.ofInteger?_ne_null
      · split at h
        · cases h
        · split at h <;> cases h

/-- A scalar that stands for a null says so, or has the tag of nulls. -/
theorem Resolved.ofScalar?_eq_null {tag : Option String} {s : String} {style : ScalarStyle}
    (h : Resolved.ofScalar? tag s style = some .null) :
    (tag = none ∧ (s.isEmpty || isNull s) = true) ∨ tag = some (coreTag "null") := by
  unfold Resolved.ofScalar? at h
  cases tag with
  | none =>
    refine .inl ⟨rfl, ?_⟩
    dsimp only at h
    split at h
    · exact Resolved.ofPlain_eq_null (Option.some.inj h)
    · cases h
  | some tag =>
    dsimp only at h
    split at h
    · obtain ⟨_, -, h⟩ := Option.map_eq_some_iff.mp h
      cases h
    · split at h
      · obtain ⟨i, -, hi⟩ := Option.bind_eq_some_iff.mp h
        exact absurd hi Resolved.ofInteger?_ne_null
      · split at h
        · obtain ⟨_, -, h⟩ := Option.map_eq_some_iff.mp h
          cases h
        · split at h
          · -- truth values, integers and numbers are no null; what is left is the tag itself
            next htag => exact .inr (congrArg some (eq_of_beq htag))
          · cases h

/-- Besides nulls, only numbers that JSON does not have are written as a null. -/
theorem Resolved.toJson?_eq_null {r : Resolved} (h : r.toJson? = some .null) :
    r = .null ∨ ∃ x, r = .real x ∧ ∀ y, x ≠ .finite y := by
  match r, h with
  | .null, _ => exact .inl rfl
  | .real (.infinite negative), _ => exact .inr ⟨_, rfl, nofun⟩
  | .real .undefined, _ => exact .inr ⟨_, rfl, nofun⟩

/-! ## §3. Free values. -/

/-- What a walk gives, its first part gave to the second. -/
theorem Walk.exists_of_bind {α β : Type} {m : Walk α} {f : α → Walk β} {n n' : Nat} {b : β}
    (h : (m >>= f).run n = some (b, n')) :
    ∃ a k, m.run n = some (a, k) ∧ (f a).run k = some (b, n') := by
  obtain ⟨⟨a, k⟩, ha, hb⟩ := Option.bind_eq_some_iff.mp h
  exact ⟨a, k, ha, hb⟩

/-- A lookup in a walk succeeds as it does by itself. -/
theorem Walk.of_lift {α : Type} {o : Option α} {n n' : Nat} {a : α}
    (h : (liftM o : Walk α).run n = some (a, n')) : o = some a := by
  obtain ⟨_, ho, h⟩ := Option.bind_eq_some_iff.mp h
  cases h
  exact ho

/-- A walk that goes on only where a condition fails. -/
theorem Walk.of_unless {α : Type} {stop : Bool} {f : PUnit → Walk α} {n n' : Nat} {a : α}
    (h : (if stop = true then (do f (← failure)) else f ()).run n = some (a, n')) :
    (f ()).run n = some (a, n') := by
  cases stop with
  | false => exact h
  | true => cases h

/-- What holds of every step of a walk holds of all it gives. -/
theorem Walk.mapM_all {α β : Type} {f : α → Walk β} {P : β → Prop}
    (h : ∀ a n b n', (f a).run n = some (b, n') → P b) {items : List α} {n n' : Nat} {vs : List β}
    (hrun : (items.mapM f).run n = some (vs, n')) : ∀ v ∈ vs, P v := by
  induction items generalizing n vs with
  | nil =>
    cases hrun
    exact nofun
  | cons item rest ih =>
    rw [List.mapM_cons] at hrun
    obtain ⟨v, k, hv, hrun⟩ := Walk.exists_of_bind hrun
    obtain ⟨vs', k', hvs, hrun⟩ := Walk.exists_of_bind hrun
    cases hrun
    exact List.forall_mem_cons.mpr ⟨h item n v k hv, ih hvs⟩

/-- The value of a scalar has no members, so they are in order. -/
theorem Resolved.toJson?_ordered {r : Resolved} {j : Json} (h : r.toJson? = some j) :
    j.IsOrdered := by
  match r, h with
  | .null, rfl | .bool _, rfl | .integer _, rfl | .text _, rfl => trivial
  | .real (.finite _), rfl | .real (.infinite _), rfl | .real .undefined, rfl => trivial

/-- The free value that a node stands for, if it is no alias; parts of it are values of nodes. -/
inductive Says (d : Document) : Nat → Node → Json → Prop where
  | nothing {depth : Nat} : Says d depth .void .null
  | scalar {depth : Nat} {mark : Mark} {text : String} {style : ScalarStyle} {r : Resolved}
      {j : Json} (hr : Resolved.ofScalar? mark.tag text style = some r)
      (hj : r.toJson? = some j) : Says d depth (.scalar mark text style) j
  | sequence {depth : Nat} {mark : Mark} {items : List Node} {vs : List Json}
      (h : ∀ v ∈ vs, ∃ node n n', (jsonValue d depth node).run n = some (v, n')) :
      Says d (depth + 1) (.sequence mark items) (.array vs)
  | mapping {depth : Nat} {mark : Mark} {members : List (Node × Node)}
      {ms : List (String × Json)}
      (h : ∀ e ∈ ms, ∃ node n n', (jsonValue d depth node).run n = some (e.2, n')) :
      Says d (depth + 1) (.mapping mark members) (.ofMembers ms)

/-- What the walk over a node gives is what the node says, its alias followed. -/
theorem jsonValue_says {d : Document} {depth : Nat} {node : Node} {n n' : Nat} {j : Json}
    (h : (jsonValue d depth node).run n = some (j, n')) :
    ∃ meant k, (follow d node).run n = some (meant, k) ∧ Says d depth meant j := by
  unfold jsonValue at h
  obtain ⟨meant, k, hmeant, h⟩ := Walk.exists_of_bind h
  refine ⟨meant, k, hmeant, ?_⟩
  match meant with
  | .void =>
    cases h
    exact .nothing
  | .alias _ => cases h
  | .scalar mark text style =>
    have h := Walk.of_unless h
    obtain ⟨r, k', hr, h⟩ := Walk.exists_of_bind h
    exact .scalar (Walk.of_lift hr) (Walk.of_lift h)
  | .sequence mark items =>
    -- items are read one level deeper
    cases depth with
    | zero => cases h
    | succ depth =>
      have h := Walk.of_unless h
      obtain ⟨vs, k', hvs, h⟩ := Walk.exists_of_bind h
      cases h
      exact .sequence (Walk.mapM_all (fun node n v n' hv => ⟨node, n, n', hv⟩) hvs)
  | .mapping mark members =>
    -- so are the values of members
    cases depth with
    | zero => cases h
    | succ depth =>
      have h := Walk.of_unless h
      obtain ⟨ms, k', hms, h⟩ := Walk.exists_of_bind h
      cases h
      refine .mapping (Walk.mapM_all ?_ hms)
      rintro ⟨key, value⟩ m e m' he
      obtain ⟨name, k, -, he⟩ := Walk.exists_of_bind he
      obtain ⟨v, k', hv, he⟩ := Walk.exists_of_bind he
      cases he
      exact ⟨value, k, _, hv⟩

/-- By induction on the depth, values have their members in order. -/
theorem jsonValue_ordered (d : Document) (depth : Nat) {node : Node} {n n' : Nat} {j : Json}
    (h : (jsonValue d depth node).run n = some (j, n')) : j.IsOrdered := by
  -- parts of a value are values one level further down
  induction depth using Nat.strong_induction_on generalizing node n n' j with
  | h depth ih =>
    obtain ⟨meant, k, -, hsays⟩ := jsonValue_says h
    cases hsays with
    | nothing => trivial
    | scalar _ hj => exact Resolved.toJson?_ordered hj
    | sequence hvs =>
      refine Json.allOrdered_iff.mpr fun v hv => ?_
      obtain ⟨item, m, m', hrun⟩ := hvs v hv
      exact ih _ (Nat.lt_succ_self _) hrun
    | mapping hms =>
      refine Json.ofMembers_ordered fun e he => ?_
      obtain ⟨value, m, m', hrun⟩ := hms e he
      exact ih _ (Nat.lt_succ_self _) hrun

/-- A node that is no alias is followed to itself. -/
theorem follow_eq {d : Document} {node meant : Node} (hnode : ∀ a, node ≠ .alias a) {n k : Nat}
    (h : (follow d node).run n = some (meant, k)) : meant = node := by
  match node with
  | .alias a => exact absurd rfl (hnode a)
  | .void | .scalar _ _ _ | .sequence _ _ | .mapping _ _ =>
    cases h
    rfl

/-! ## §4. Places. -/

namespace Place

/-- Neither here nor at an anchor of the document is a number that JSON does not have, or a
quoted null. -/
structure IsFit (p : Place) : Prop where
  finite : p.node.allScalars isFinite = true
  plain : p.node.allScalars isPlainIfNull = true
  anchored : ∀ e ∈ p.document.anchored,
    Node.Anchors isFinite e ∧ Node.Anchors isPlainIfNull e

/-- Behind an alias is a fit node that is no alias. -/
theorem IsFit.resolved {p : Place} {node : Node} (h : p.IsFit) (hr : p.resolved = .ok node) :
    (∀ a, node ≠ .alias a) ∧ { p with node := node : Place }.IsFit := by
  unfold Place.resolved at hr
  split at hr
  · next anchor hp =>
    split at hr
    · next found hfound =>
      cases hr
      obtain ⟨e, he, rfl⟩ := Option.map_eq_some_iff.mp hfound
      obtain ⟨⟨hfinite, halias⟩, hplain, -⟩ := h.anchored e (List.mem_of_find?_eq_some he)
      exact ⟨halias, hfinite, hplain, h.anchored⟩
    · cases hr
  · next hp =>
    cases hr
    exact ⟨hp, h⟩

/-- The items of a fit place are fit. -/
theorem IsFit.series {p : Place} {s : Series Place} (h : p.IsFit) (hs : p.series = .ok s) :
    ∀ y ∈ s.items, y.IsFit := by
  obtain ⟨node, hnode, hs⟩ := exists_of_bind_eq_ok hs
  obtain ⟨-, hfit⟩ := h.resolved hnode
  split at hs
  · next mark items =>
    split at hs
    · cases hs
    · cases hs
      intro y hy
      obtain ⟨item, hitem, rfl⟩ := List.mem_map.mp hy
      exact ⟨(Node.allInItems_iff _).mp hfit.finite item hitem,
        (Node.allInItems_iff _).mp hfit.plain item hitem, h.anchored⟩
  · split at hs <;> cases hs
    exact nofun

theorem IsFit.members {p : Place} {ms : Members Place} (h : p.IsFit) (hms : p.members = .ok ms) :
    ∀ e ∈ ms.entries, e.2.IsFit := by
  obtain ⟨node, hnode, hms⟩ := exists_of_bind_eq_ok hms
  obtain ⟨-, hfit⟩ := h.resolved hnode
  split at hms
  · next mark members =>
    split at hms
    · cases hms
    · cases hms
      intro y hy
      obtain ⟨e, he, rfl⟩ := List.mem_map.mp hy
      exact ⟨((Node.allInMembers_iff _).mp hfit.finite e he).2,
        ((Node.allInMembers_iff _).mp hfit.plain e he).2, h.anchored⟩
  · split at hms <;> cases hms
    exact nofun

/-- What may be absent and is not: no empty place, and no plain scalar that says null. -/
theorem optional_eq_some {p y : Place} (h : p.optional = .ok (some y)) :
    ∃ node, p.resolved = .ok node ∧ y = { p with node := node } ∧ node ≠ .void ∧
      ∀ mark s, node = .scalar mark s .plain →
        (mark.tag = none → (s.isEmpty || isNull s) = false) ∧
          mark.tag ≠ some (coreTag "null") := by
  obtain ⟨node, hnode, h⟩ := exists_of_bind_eq_ok h
  refine ⟨node, hnode, ?_⟩
  dsimp only at h
  split at h
  · cases h
  · next mark s =>
    split at h
    · -- without a tag the text decides
      next htag =>
      split at h
      · cases h
      · next hs =>
        cases h
        refine ⟨rfl, by simp, ?_⟩
        rintro _ _ ⟨⟩
        refine ⟨fun _ => by simpa using hs, ?_⟩
        rw [htag]
        exact (Option.some_ne_none _).symm
    · -- with a tag the tag decides
      next tag htag =>
      split at h
      · split at h <;> cases h
      · next hne =>
        cases h
        refine ⟨rfl, by simp, ?_⟩
        rintro _ _ ⟨⟩
        rw [htag]
        refine ⟨fun heq => absurd heq (Option.some_ne_none _), fun heq => ?_⟩
        rw [Option.some.inj heq, beq_self_eq_true] at hne
        exact hne rfl
  · next hvoid hscalar =>
    cases h
    exact ⟨rfl, hvoid, fun mark s heq => absurd heq (hscalar mark s)⟩

/-- A value that could be read was walked from the node of the place. -/
theorem free_eq_ok {p : Place} {j : Json} (h : p.free = .ok j) :
    ∃ n, (jsonValue p.document p.depth p.node).run p.document.aliasLimit = some (j, n) := by
  unfold Place.free at h
  split at h
  · next j' n hrun =>
    cases h
    exact ⟨n, hrun⟩
  · cases h

/-- What may be absent and is not has a free value other than null. -/
theorem IsFit.free_ne_null {p y : Place} (h : p.IsFit) (ho : p.optional = .ok (some y)) :
    y.free ≠ .ok .null := by
  intro hfree
  obtain ⟨node, hnode, rfl, hvoid, hplain⟩ := optional_eq_some ho
  obtain ⟨halias, hfit⟩ := h.resolved hnode
  obtain ⟨n, hrun⟩ := free_eq_ok hfree
  obtain ⟨meant, k, hmeant, hsays⟩ := jsonValue_says hrun
  -- an alias was followed before, so the value is that of the node itself
  have hmeant := follow_eq halias hmeant
  have hfinite := hfit.finite
  have hquoted := hfit.plain
  dsimp only at hmeant hfinite hquoted
  subst hmeant
  generalize hj : Json.null = j at hsays
  generalize p.depth = depth at hsays
  cases hsays with
  | nothing => exact hvoid rfl
  | sequence | mapping => cases hj
  | @scalar _ mark text style r _ hr hnull =>
    subst hj
    rcases Resolved.toJson?_eq_null hnull with rfl | ⟨x, rfl, hx⟩
    · -- a plain null would have been taken as absent
      have hstyle : style = .plain := by
        simpa [Node.allScalars, isPlainIfNull, hr] using hquoted
      obtain ⟨hempty, htag⟩ := hplain mark text (by rw [hstyle])
      rcases Resolved.ofScalar?_eq_null hr with ⟨hnone, hs⟩ | hcore
      · rw [hempty hnone] at hs
        cases hs
      · exact htag hcore
    · cases x with
      | finite y => exact hx y rfl
      | infinite _ | undefined => simp [Node.allScalars, isFinite, hr] at hfinite

/-- **WHAT IS NOT ABSENT AT A FIT PLACE IS NO NULL.** -/
theorem lawful : Source.Lawful Place IsFit (· ≠ .null) where
  optional h ho := by
    obtain ⟨node, hnode, rfl, -, -⟩ := optional_eq_some ho
    refine ⟨(h.resolved hnode).2, fun j hfree hnull => ?_⟩
    rw [hnull] at hfree
    exact h.free_ne_null ho hfree
  series h hs := h.series hs
  members h hms := h.members hms
  recordMembers h hms := by
    obtain ⟨ms, hms, heq⟩ := exists_of_bind_eq_ok hms
    cases heq
    exact h.members hms
  recordSeries h hs := by
    obtain ⟨ms, hms, heq⟩ := exists_of_bind_eq_ok hs
    cases heq
  free _ hfree := by
    obtain ⟨n, hrun⟩ := free_eq_ok hfree
    exact jsonValue_ordered _ _ hrun

/-- Whatever a document holds, its free values have their members in name order. -/
theorem lawful_any : Source.Lawful Place (fun _ => True) fun _ => True where
  optional _ _ := ⟨trivial, fun _ _ => trivial⟩
  series _ _ _ _ := trivial
  members _ _ _ _ := trivial
  recordMembers _ _ _ _ := trivial
  recordSeries _ _ _ _ := trivial
  free _ hfree := by
    obtain ⟨n, hrun⟩ := free_eq_ok hfree
    exact jsonValue_ordered _ _ hrun

/-- The root of a document is fit when its numbers are finite and its nulls plain. -/
theorem isFit_ofDocument {s : String} {d : Document} (h : Document.ofText? s = some d)
    (hfinite : d.IsFinite) (hplain : d.HasPlainNulls) : (ofDocument d).IsFit := by
  refine ⟨hfinite, hplain, fun e he => ?_⟩
  have he : e ∈ d.anchored := he
  rw [Document.ofText?_anchored h, List.mem_reverse] at he
  exact ⟨Node.anchors_labels _ _ hfinite e he, Node.anchors_labels _ _ hplain e he⟩

end Place

end ApiPlaybook.Yaml
