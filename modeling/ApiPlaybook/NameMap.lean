/-
  ApiPlaybook.NameMap
  ───────────────────
  **MAPS FROM NAMES, IN NAME ORDER.**

  Headers, parameters, variables, operations: nearly everything a playbook
  speaks of is looked up by name and listed in name order.  A `NameMap` is its
  list of entries, strictly increasing in the name, so the order in which it
  is listed is a property of the value and not of how it was built:

      two maps are equal exactly when every name finds the same value
      (`NameMap.ext_get?`).

  Names compare by code point, which is also the order of their UTF-8 bytes.
-/

universe u v

namespace ApiPlaybook

/-! ## §1. Entries in name order. -/

/-- Put `value` under `name` into a list of entries kept in name order; an
entry of that name is replaced. -/
def insertEntry {α : Type u} (name : String) (value : α) :
    List (String × α) → List (String × α)
  | [] => [(name, value)]
  | (n, v) :: rest =>
    if name < n then (name, value) :: (n, v) :: rest
    else if name = n then (name, value) :: rest
    else (n, v) :: insertEntry name value rest

/-- The value of the first entry of that name. -/
def findEntry {α : Type u} (name : String) : List (String × α) → Option α
  | [] => none
  | (n, v) :: rest => if name = n then some v else findEntry name rest

/-- The entries are strictly increasing in the name. -/
def InNameOrder {α : Type u} (entries : List (String × α)) : Prop :=
  entries.Pairwise fun a b => a.1 < b.1

/-- After an insertion there are the new entry and entries that were there. -/
theorem mem_insertEntry {α : Type u} {name : String} {value : α}
    {entries : List (String × α)} {e : String × α}
    (h : e ∈ insertEntry name value entries) :
    e = (name, value) ∨ e ∈ entries := by
  induction entries with
  | nil => simpa [insertEntry] using h
  | cons head rest ih =>
    obtain ⟨n, v⟩ := head
    simp only [insertEntry] at h
    split at h
    · simpa using h
    · split at h
      · rcases List.mem_cons.1 h with h | h
        · exact .inl h
        · exact .inr (List.mem_cons_of_mem _ h)
      · rcases List.mem_cons.1 h with h | h
        · exact .inr (h ▸ List.mem_cons_self)
        · exact (ih h).imp_right (List.mem_cons_of_mem _)

/-- An insertion keeps the order of names. -/
theorem InNameOrder.insertEntry {α : Type u} {name : String} {value : α}
    {entries : List (String × α)} (h : InNameOrder entries) :
    InNameOrder (insertEntry name value entries) := by
  induction entries with
  | nil => simp [ApiPlaybook.insertEntry, InNameOrder]
  | cons head rest ih =>
    obtain ⟨n, v⟩ := head
    have hrest : InNameOrder rest := (List.pairwise_cons.1 h).2
    have hhead := (List.pairwise_cons.1 h).1
    simp only [ApiPlaybook.insertEntry]
    split
    · next hlt =>
      refine List.pairwise_cons.2 ⟨fun e he => ?_, h⟩
      rcases List.mem_cons.1 he with rfl | he
      · exact hlt
      · exact String.lt_trans hlt (hhead e he)
    · next hlt =>
      split
      · next heq => exact List.pairwise_cons.2 ⟨fun e he => heq ▸ hhead e he, hrest⟩
      · next heq =>
        refine List.pairwise_cons.2 ⟨fun e he => ?_, ih hrest⟩
        rcases mem_insertEntry he with rfl | he
        · by_cases hgt : n < name
          · exact hgt
          · exact absurd (String.le_antisymm hgt hlt) heq
        · exact hhead e he

/-- What is found after an insertion: the new value under its name, the old ones elsewhere. -/
theorem findEntry_insertEntry {α : Type u} (name other : String) (value : α)
    (entries : List (String × α)) :
    findEntry other (insertEntry name value entries)
      = if other = name then some value else findEntry other entries := by
  induction entries with
  | nil => simp [insertEntry, findEntry]
  | cons head rest ih =>
    obtain ⟨n, v⟩ := head
    simp only [insertEntry]
    split
    · simp [findEntry]
    · split
      · next heq =>
        subst heq
        by_cases h : other = name <;> simp [findEntry, h]
      · next heq =>
        simp only [findEntry, ih]
        by_cases hn : other = n
        · subst hn
          simp [Ne.symm heq]
        · simp [hn]

theorem mem_of_findEntry {α : Type u} {name : String} {value : α} {entries : List (String × α)}
    (h : findEntry name entries = some value) : (name, value) ∈ entries := by
  induction entries with
  | nil => cases h
  | cons head rest ih =>
    obtain ⟨n, v⟩ := head
    unfold findEntry at h
    split at h
    · next hn =>
      cases h
      rw [hn]
      exact List.mem_cons_self
    · exact List.mem_cons_of_mem _ (ih h)

/-- Values that are replaced each by itself. -/
theorem findEntry_map {α : Type u} {β : Type v} (f : String → α → β) (name : String)
    (entries : List (String × α)) :
    findEntry name (entries.map fun e => (e.1, f e.1 e.2))
      = (findEntry name entries).map (f name) := by
  induction entries with
  | nil => rfl
  | cons head rest ih =>
    obtain ⟨n, v⟩ := head
    simp only [List.map_cons, findEntry, ih]
    by_cases h : name = n
    · subst h
      simp
    · simp [h]

/-- Among entries of greater names nothing is found. -/
theorem findEntry_eq_none {α : Type u} {name : String} {entries : List (String × α)}
    (h : ∀ e ∈ entries, name < e.1) : findEntry name entries = none := by
  induction entries with
  | nil => rfl
  | cons head rest ih =>
    obtain ⟨n, v⟩ := head
    have hn : name ≠ n := fun heq =>
      String.lt_irrefl n (heq ▸ h (n, v) List.mem_cons_self)
    simp only [findEntry, if_neg hn]
    exact ih fun e he => h e (List.mem_cons_of_mem _ he)

/-! ## §2. The map. -/

/-- A finite map from names, listed in name order. -/
structure NameMap (α : Type u) where
  /-- The entries, strictly increasing in the name. -/
  entries : List (String × α)
  /-- The order is part of the value. -/
  inOrder : InNameOrder entries

namespace NameMap

variable {α : Type u} {β : Type v}

/-- Two maps with the same entries are the same map. -/
theorem ext_entries {m m' : NameMap α} (h : m.entries = m'.entries) : m = m' := by
  cases m; cases m'; cases h; rfl

/-- The map without entries. -/
def empty : NameMap α := ⟨[], List.Pairwise.nil⟩

instance : EmptyCollection (NameMap α) := ⟨empty⟩
instance : Inhabited (NameMap α) := ⟨empty⟩

instance [BEq α] : BEq (NameMap α) := ⟨fun m m' => m.entries == m'.entries⟩

/-- Put `value` under `name`, replacing what was there. -/
def insert (m : NameMap α) (name : String) (value : α) : NameMap α :=
  ⟨insertEntry name value m.entries, m.inOrder.insertEntry⟩

/-- The value under `name`. -/
def get? (m : NameMap α) (name : String) : Option α := findEntry name m.entries

/-- Whether there is a value under `name`. -/
def contains (m : NameMap α) (name : String) : Bool := (m.get? name).isSome

/-- The names, in order. -/
def names (m : NameMap α) : List String := m.entries.map (·.1)

/-- The values, in the order of their names. -/
def values (m : NameMap α) : List α := m.entries.map (·.2)

/-- The number of names. -/
def size (m : NameMap α) : Nat := m.entries.length

/-- Whether there is no entry. -/
def isEmpty (m : NameMap α) : Bool := m.entries.isEmpty

/-- The map in which each pair of the list was put in turn: the last pair of a
name counts. -/
def ofList (pairs : List (String × α)) : NameMap α :=
  pairs.foldl (fun m p => m.insert p.1 p.2) empty

/-- All entries of `m'` put into `m`. -/
def union (m m' : NameMap α) : NameMap α :=
  m'.entries.foldl (fun acc p => acc.insert p.1 p.2) m

/-- The entries whose name passes. -/
def filterNames (p : String → Bool) (m : NameMap α) : NameMap α :=
  ⟨m.entries.filter fun e => p e.1, m.inOrder.sublist List.filter_sublist⟩

/-- Each value replaced by `f name value`. -/
def mapValues (f : String → α → β) (m : NameMap α) : NameMap β :=
  ⟨m.entries.map fun e => (e.1, f e.1 e.2),
    by simpa [InNameOrder, List.pairwise_map] using m.inOrder⟩

/-- The least entry whose name passes. -/
def find? (p : String → Bool) (m : NameMap α) : Option (String × α) :=
  m.entries.find? fun e => p e.1

/-! ## §3. Laws. -/

@[simp] theorem get?_empty (name : String) : (empty : NameMap α).get? name = none := rfl

/-- What is found is an entry. -/
theorem mem_of_get? {m : NameMap α} {name : String} {value : α} (h : m.get? name = some value) :
    (name, value) ∈ m.entries :=
  mem_of_findEntry h

/-- What a map has after an insertion. -/
theorem get?_insert (m : NameMap α) (name other : String) (value : α) :
    (m.insert name value).get? other
      = if other = name then some value else m.get? other :=
  findEntry_insertEntry name other value m.entries

@[simp] theorem get?_insert_self (m : NameMap α) (name : String) (value : α) :
    (m.insert name value).get? name = some value := by
  simp [get?_insert]

/-- An entry is found. -/
theorem mem_entries_iff {m : NameMap α} {name : String} {value : α} :
    (name, value) ∈ m.entries ↔ m.get? name = some value := by
  refine ⟨fun h => ?_, mem_of_get?⟩
  have horder := m.inOrder
  unfold get?
  generalize m.entries = entries at h horder
  induction entries with
  | nil => cases h
  | cons head rest ih =>
    obtain ⟨hbehind, horder⟩ := List.pairwise_cons.1 horder
    rw [findEntry.eq_def]
    rcases List.mem_cons.1 h with rfl | h
    · exact if_pos rfl
    · -- what stands behind an entry has another name
      have hne : name ≠ head.1 := fun heq =>
        String.lt_irrefl name (heq ▸ hbehind (name, value) h)
      exact (if_neg hne).trans (ih h horder)

/-- Of pairs that are put in turn the last one of a name counts. -/
theorem get?_foldl_insert_eq (pairs : List (String × α)) (m : NameMap α) (name : String) :
    (pairs.foldl (fun m p => m.insert p.1 p.2) m).get? name
      = ((pairs.reverse.find? (·.1 == name)).map (·.2)).or (m.get? name) := by
  induction pairs generalizing m with
  | nil => rfl
  | cons p rest ih =>
    rw [List.foldl_cons, ih, get?_insert, List.reverse_cons, List.find?_append]
    cases rest.reverse.find? (·.1 == name) with
    | some q => rfl
    | none =>
      by_cases h : name = p.1
      · subst h
        simp
      · have h' : (p.1 == name) = false := by simpa using fun heq => h heq.symm
        simp [h, h']

/-- Of several pairs with one name the last one counts. -/
theorem get?_ofList (pairs : List (String × α)) (name : String) :
    (ofList pairs).get? name = (pairs.reverse.find? (·.1 == name)).map (·.2) := by
  rw [ofList, get?_foldl_insert_eq, get?_empty, Option.or_none]

/-- Values are mapped one by one, under their names. -/
theorem get?_mapValues (f : String → α → β) (m : NameMap α) (name : String) :
    (m.mapValues f).get? name = (m.get? name).map (f name) :=
  findEntry_map f name m.entries

/-- Two maps in which every name finds the same value are equal. -/
theorem ext_get? {m m' : NameMap α} (h : ∀ name, m.get? name = m'.get? name) : m = m' := by
  obtain ⟨es, hs⟩ := m
  obtain ⟨es', hs'⟩ := m'
  refine ext_entries ?_
  simp only [get?] at h
  show es = es'
  induction es generalizing es' with
  | nil =>
    cases es' with
    | nil => rfl
    | cons head rest => simpa [findEntry] using h head.1
  | cons head rest ih =>
    obtain ⟨n, v⟩ := head
    cases es' with
    | nil => simpa [findEntry] using h n
    | cons head' rest' =>
      obtain ⟨n', v'⟩ := head'
      have hlt := (List.pairwise_cons.1 hs).1
      have hlt' := (List.pairwise_cons.1 hs').1
      have below : ∀ {k : String} {l : List (String × α)},
          (∀ e ∈ l, k < e.1) → ∀ {j : String}, j < k → findEntry j l = none :=
        fun hk _ hj => findEntry_eq_none fun e he => String.lt_trans hj (hk e he)
      have hn : n = n' := by
        by_cases h1 : n < n'
        · have := h n
          simp [findEntry, below hlt' h1, String.ne_of_lt h1] at this
        · by_cases h2 : n' < n
          · have := h n'
            simp [findEntry, below hlt h2, String.ne_of_lt h2] at this
          · exact String.le_antisymm h2 h1
      subst hn
      have hv : v = v' := by simpa [findEntry] using h n
      subst hv
      congr 1
      refine ih (List.pairwise_cons.1 hs).2 rest' (List.pairwise_cons.1 hs').2 fun name => ?_
      by_cases hname : name = n
      · subst hname
        rw [findEntry_eq_none hlt, findEntry_eq_none hlt']
      · simpa [findEntry, hname] using h name

/-- Of pairs with different names each one is found. -/
theorem get?_ofList_of_nodup {pairs : List (String × α)} (h : (pairs.map (·.1)).Nodup)
    {name : String} {value : α} :
    (ofList pairs).get? name = some value ↔ (name, value) ∈ pairs := by
  rw [get?_ofList]
  constructor
  · intro hget
    obtain ⟨p, hp, rfl⟩ := Option.map_eq_some_iff.1 hget
    have hname : p.1 = name := by simpa using List.find?_some hp
    exact hname ▸ List.mem_reverse.1 (List.mem_of_find?_eq_some hp)
  · intro hmem
    obtain ⟨before, after, rfl⟩ := List.append_of_mem hmem
    have hafter : ∀ p ∈ after, p.1 ≠ name := by
      intro p hp hname
      rw [List.map_append, List.map_cons] at h
      exact (List.nodup_cons.1 (List.nodup_append.1 h).2.1).1 
        (hname ▸ List.mem_map.2 ⟨p, hp, rfl⟩)
    -- no pair behind it has its name, so it is the last one
    have hnone : after.reverse.find? (·.1 == name) = none :=
      List.find?_eq_none.2 fun p hp => by simpa using hafter p (List.mem_reverse.1 hp)
    rw [List.reverse_append, List.reverse_cons, List.find?_append, List.find?_append, hnone]
    simp

/-- The names of a map are different. -/
theorem names_nodup (m : NameMap α) : m.names.Nodup :=
  List.pairwise_map.2 (m.inOrder.imp String.ne_of_lt)

/-- What is put over a map goes before what it holds. -/
theorem get?_union (m m' : NameMap α) (name : String) :
    (m.union m').get? name = (m'.get? name).or (m.get? name) := by
  have hentries : (ofList m'.entries).get? name = m'.get? name :=
    Option.ext fun value => (get?_ofList_of_nodup m'.names_nodup).trans mem_entries_iff
  rw [union, get?_foldl_insert_eq, ← get?_ofList, hentries]

/-- Pairs put over a map are put into it in turn. -/
theorem union_ofList (m : NameMap α) (pairs : List (String × α)) :
    m.union (ofList pairs) = pairs.foldl (fun m p => m.insert p.1 p.2) m := by
  refine ext_get? fun name => ?_
  rw [get?_union, get?_ofList, get?_foldl_insert_eq]

end NameMap

end ApiPlaybook
