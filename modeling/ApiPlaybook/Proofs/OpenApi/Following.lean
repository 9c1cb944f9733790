/-
  ApiPlaybook.Proofs.OpenApi.Following
  ────────────────────────────────────
  **FOLLOWING REFERENCES COMES TO A STOP.**

  A chain of references ends at a value, goes on for ever, or is broken: by a
  reference that points outside or to nothing.  Following it tells which
  (`deref_exact`):

      a chain that ends gives the value at its end,
      a chain that goes on for ever gives the first reference met a second time,
      a broken chain gives the reference at which it is broken.

  A reference is followed once at most, and all but the first are references of
  the document.  So it takes no more steps than the document has different
  references, and one.
-/
import Mathlib.Data.List.Dedup
import Mathlib.Data.List.Perm.Subperm
import ApiPlaybook.Proofs.OpenApi.Chains

namespace ApiPlaybook

namespace ApiDocument

variable {d : ApiDocument} {j k l : Json} {ref : String} {refs refs' done unfollowed : List String}

/-! ## §1. What a chain may meet. -/

/-- A reference stands on the chain: all those in front of it can be followed. -/
def Reaches (d : ApiDocument) (j : Json) (ref : String) : Prop :=
  ∃ refs k, d.Passes j refs k ∧ k.ref? = some ref

/-- Of the references on the chain this is the first that is met a second time. -/
def MeetsAgain (d : ApiDocument) (j : Json) (ref : String) : Prop :=
  ∃ refs k, d.Passes j refs k ∧ refs.Nodup ∧ k.ref? = some ref ∧ ref ∈ refs

/-- However many references were followed, there is one more to follow. -/
def Endless (d : ApiDocument) (j : Json) : Prop :=
  ∀ n, ∃ refs k, d.Passes j refs k ∧ refs.length = n

theorem isLocal_of_mem (h : d.Passes j refs l) (hr : ref ∈ refs) : isLocal ref = true := by
  obtain ⟨k, -, -, -, ht, -⟩ := h.behind hr
  exact isLocal_of_target ht

/-- The references of a value on the chain are those of the first value, or of the document. -/
theorem Passes.refs_of_end (h : d.Passes j refs l) : l.refs ⊆ j.refs ++ d.content.refs := by
  induction h with
  | here => exact List.subset_append_left _ _
  | next hr ht _ ih =>
    intro ref hmem
    apply List.mem_append_right
    rcases List.mem_append.mp (ih hmem) with hmem | hmem
    · exact refs_subset_of_target ht hmem
    · exact hmem

/-- The front of a chain. -/
theorem Passes.take (h : d.Passes j refs l) (n : Nat) : ∃ k, d.Passes j (refs.take n) k := by
  induction h generalizing n with
  | here j => exact ⟨j, by rw [List.take_nil]; exact .here j⟩
  | @next j k l ref refs hr ht _ ih =>
    cases n with
    | zero => exact ⟨j, .here j⟩
    | succ n =>
      obtain ⟨k', hk'⟩ := ih n
      exact ⟨k', .next hr ht hk'⟩

/-- Of two chains from one value, one is the front of the other. -/
theorem Passes.comparable (h : d.Passes j refs k) (h' : d.Passes j refs' l) :
    (∃ rest, refs' = refs ++ rest ∧ d.Passes k rest l) ∨
      ∃ rest, refs = refs' ++ rest ∧ d.Passes l rest k := by
  induction h generalizing refs' with
  | here => exact .inl ⟨refs', rfl, h'⟩
  | next hr ht hp ih =>
    cases h' with
    | here => exact .inr ⟨_, rfl, .next hr ht hp⟩
    | next hr' ht' hp' =>
      rw [hr] at hr'
      cases hr'
      rw [ht] at ht'
      cases ht'
      rcases ih hp' with ⟨rest, rfl, hrest⟩ | ⟨rest, rfl, hrest⟩
      · exact .inl ⟨rest, rfl, hrest⟩
      · exact .inr ⟨rest, rfl, hrest⟩

/-- Round and round, from a value to itself. -/
theorem Passes.around (h : d.Passes k refs k) (n : Nat) :
    d.Passes k (List.replicate n refs).flatten k := by
  induction n with
  | zero => exact .here k
  | succ n ih =>
    rw [List.replicate_succ, List.flatten_cons]
    exact h.trans ih

/-- A reference that is met again is met for ever. -/
theorem MeetsAgain.endless (h : d.MeetsAgain j ref) : d.Endless j := by
  obtain ⟨refs, k, hp, -, hr, hmem⟩ := h
  -- behind the reference the chain leads to a value that references to it lead from again
  obtain ⟨m, before, after, -, ht, hafter⟩ := hp.behind hmem
  have hround : d.Passes m (after ++ [ref]) m := hafter.trans (.next hr ht (.here m))
  intro n
  have hlong : d.Passes j (refs ++ ref :: (List.replicate n (after ++ [ref])).flatten) m :=
    hp.trans (.next hr ht (hround.around n))
  obtain ⟨k', hk'⟩ := hlong.take n
  refine ⟨_, k', hk', ?_⟩
  have hn : n ≤ n * (after ++ [ref]).length :=
    Nat.le_mul_of_pos_right n (by simp)
  rw [List.length_take]
  simp only [List.length_append, List.length_cons, List.length_flatten, List.map_replicate,
    List.sum_replicate_nat] at hn ⊢
  omega

/-- A chain to an end is no longer than that. -/
theorem IsEnd.not_endless (hend : d.IsEnd l) (h : d.Passes j refs l) : ¬ d.Endless j := by
  intro hendless
  obtain ⟨refs', k, hk, hlength⟩ := hendless (refs.length + 1)
  obtain ⟨rest, hrefs, -⟩ := h.resume hend hk
  have hle := congrArg List.length hrefs
  rw [List.length_append] at hle
  omega

/-! ## §2. Where a chain is left. -/

/-- Why a reference is not followed, when these were followed before it. -/
inductive Stays (d : ApiDocument) (refs : List String) (ref : String) : RefError → Prop
  | outside (h : isLocal ref = false) : Stays d refs ref (.outside ref)
  | unresolved (h : isLocal ref = true) (ht : ∀ l, d.target ref ≠ .ok l) :
    Stays d refs ref (.unresolved ref)
  | again (h : ref ∈ refs) : Stays d refs ref (.cyclic ref)

/-- What is given back at a value, when these references were followed before it. -/
inductive Halts (d : ApiDocument) (refs : List String) (k : Json) : Except RefError Json → Prop
  | value (h : k.ref? = none) : Halts d refs k (.ok k)
  | fault {ref : String} {e : RefError} (h : k.ref? = some ref) (hs : d.Stays refs ref e) :
    Halts d refs k (.error e)

variable {e e' : RefError} {result result' : Except RefError Json}

/-- A reference that was followed before is met again, and nothing else is wrong with it. -/
theorem Stays.eq (hp : d.Passes j refs k) (h : d.Stays refs ref e) (h' : d.Stays refs ref e') :
    e = e' := by
  have hfollowed (hm : ref ∈ refs) : ∃ l, d.target ref = .ok l := by
    obtain ⟨l, -, -, -, ht, -⟩ := hp.behind hm
    exact ⟨l, ht⟩
  have hlocal : ref ∈ refs → isLocal ref = true := isLocal_of_mem hp
  -- the three ways to stay exclude each other
  cases h with
  | outside h =>
    cases h' with
    | outside => rfl
    | unresolved h' => simp [h] at h'
    | again hm => simp [h] at hlocal; exact absurd hm hlocal
  | unresolved h ht =>
    cases h' with
    | outside h' => simp [h] at h'
    | unresolved => rfl
    | again hm =>
      obtain ⟨l, hl⟩ := hfollowed hm
      exact absurd hl (ht l)
  | again hm =>
    cases h' with
    | outside h' => simp [h'] at hlocal; exact absurd hm hlocal
    | unresolved _ ht =>
      obtain ⟨l, hl⟩ := hfollowed hm
      exact absurd hl (ht l)
    | again => rfl

/-- What is behind the references that were followed is one thing only. -/
theorem Halts.eq (hp : d.Passes j refs k) (h : d.Halts refs k result)
    (h' : d.Halts refs k result') : result = result' := by
  cases h with
  | value h =>
    cases h' with
    | value => rfl
    | fault h' => simp [h] at h'
  | fault h hs =>
    cases h' with
    | value h' => simp [h'] at h
    | fault h' hs' =>
      rw [h] at h'
      cases h'
      exact congrArg Except.error (hs.eq hp hs')

/-- Where no reference is met again, the chain ends or is broken. -/
theorem Halts.isEnd (h : d.Halts refs k result) (hnew : ∀ ref ∈ refs, k.ref? ≠ some ref) :
    d.IsEnd k := by
  cases h with
  | value h => exact .of_ref?_none h
  | fault h hs =>
    intro ref l hr
    rw [h] at hr
    cases hr
    cases hs with
    | outside hl =>
      intro ht
      rw [isLocal_of_target ht] at hl
      cases hl
    | unresolved _ ht => exact ht l
    | again hm => exact absurd h (hnew _ hm)

/-- A chain is left at one place only. -/
theorem Halts.stays (h : d.Halts refs k result) (hp : d.Passes k refs' l) (hnodup : (refs ++ refs').Nodup) : refs' = [] ∧ k = l := by
  cases hp with
  | here => exact ⟨rfl, rfl⟩
  | @next _ m _ ref rest hr ht hp =>
    -- the reference that comes next is not among those that were followed
    have hend : d.IsEnd k := by
      refine h.isEnd fun ref' hm hr' => ?_
      rw [hr] at hr'
      cases hr'
      exact (List.nodup_append.mp hnodup).2.2 ref hm ref List.mem_cons_self rfl
    exact absurd ht (hend ref m hr)

/-! ## §3. The walk. -/

/-- Follow references that are still in the list, and tell which were followed. -/
def walk (d : ApiDocument) (unfollowed : List String) (j : Json) :
    List String × Except RefError Json :=
  match j.ref? with
  | none => ([], .ok j)
  | some ref =>
    if !isLocal ref then ([], .error (.outside ref))
    else if _h : ref ∈ unfollowed then
      match d.target ref with
      | .ok k => (d.walk (otherRefs ref unfollowed) k).map (ref :: ·) id
      | .error e => ([], .error e)
    else ([], .error (.cyclic ref))
termination_by unfollowed.length
decreasing_by exact otherRefs_length ‹_›

/-- What is told beside changes nothing. -/
theorem walk_snd (d : ApiDocument) (unfollowed : List String) (j : Json) :
    (d.walk unfollowed j).2 = d.follow unfollowed j := by
  -- both functions take the same branch at every reference
  fun_induction d.walk unfollowed j with
  | case1 unfollowed j hr =>
    unfold follow
    simp only [hr]
  | case2 unfollowed j ref hr hlocal =>
    unfold follow
    simp only [hr]
    rw [if_pos hlocal]
  | case3 unfollowed j ref hr hlocal hmem k ht ih =>
    unfold follow
    simp only [hr]
    rw [if_neg hlocal, dif_pos hmem, ht]
    exact ih
  | case4 unfollowed j ref hr hlocal hmem e ht =>
    unfold follow
    simp only [hr]
    rw [if_neg hlocal, dif_pos hmem, ht]
  | case5 unfollowed j ref hr hlocal hmem =>
    unfold follow
    simp only [hr]
    rw [if_neg hlocal, dif_neg hmem]

/-- Follow references from a value on, and tell which were followed. -/
def derefWalk (d : ApiDocument) (j : Json) : List String × Except RefError Json :=
  d.walk (j.refs ++ d.content.refs) j

/-- Counting the steps does not change where they lead. -/
theorem derefWalk_snd (d : ApiDocument) (j : Json) : (d.derefWalk j).2 = d.deref j := by
  unfold derefWalk deref
  rw [walk_snd]
  cases hr : j.ref? with
  | none =>
    unfold follow
    simp only [hr]
    rfl
  | some ref => rfl

/-- A local reference without a target leads nowhere. -/
theorem target_of_isLocal (h : isLocal ref = true) (ht : d.target ref = .error e) :
    e = .unresolved ref := by
  unfold isLocal at h
  unfold target at ht
  split at ht
  · next rest hs =>
    cases hp : d.content.pointer? (String.ofList (rest.dropWhile (· == '#'))) <;> simp_all
  · next hs =>
    -- the text does not start with the mark
    cases htext : ref.toList with
    | nil => simp [htext] at h
    | cons c rest =>
      rw [htext] at h
      have hc : c = '#' := by simpa using h
      exact absurd htext (hc ▸ hs rest)

/-- **THE WALK** is a chain that meets no reference twice and that is left where it halts.  It
goes on from a chain that was walked before, whose references are struck out. -/
theorem walk_halts {start : Json} (hp : d.Passes start done j) (hnodup : done.Nodup)
    (hleft : ∀ ref ∈ start.refs ++ d.content.refs, ref ∉ done → ref ∈ unfollowed)
    (hdone : ∀ ref ∈ unfollowed, ref ∉ done) :
    ∃ k, d.Passes start (done ++ (d.walk unfollowed j).1) k ∧
      (done ++ (d.walk unfollowed j).1).Nodup ∧
      d.Halts (done ++ (d.walk unfollowed j).1) k (d.walk unfollowed j).2 := by
  fun_induction d.walk unfollowed j generalizing done with
  | case1 unfollowed j hr =>
    rw [List.append_nil]
    exact ⟨j, hp, hnodup, .value hr⟩
  | case2 unfollowed j ref hr hlocal =>
    rw [List.append_nil]
    exact ⟨j, hp, hnodup, .fault hr (.outside (by simpa using hlocal))⟩
  | case3 unfollowed j ref hr hlocal hmem k ht ih =>
    have hnext : d.Passes start (done ++ [ref]) k := hp.trans (.next hr ht (.here k))
    have hnodup' : (done ++ [ref]).Nodup := by
      rw [← List.concat_eq_append]
      exact List.Nodup.concat (hdone ref hmem) hnodup
    have hih := ih hnext hnodup' ?_ ?_
    · rw [List.append_assoc] at hih
      exact hih
    · intro r hr' hnot
      have hnot : r ∉ done ∧ r ≠ ref := by simpa using hnot
      exact List.mem_filter.mpr ⟨hleft r hr' hnot.1, by simpa using hnot.2⟩
    · intro r hr' hin
      obtain ⟨hr', hne⟩ := List.mem_filter.mp hr'
      rcases List.mem_append.mp hin with hin | hin
      · exact hdone r hr' hin
      · simp [List.mem_singleton.mp hin] at hne
  | case4 unfollowed j ref hr hlocal hmem e ht =>
    have hlocal : isLocal ref = true := by simpa using hlocal
    rw [List.append_nil, target_of_isLocal hlocal ht]
    refine ⟨j, hp, hnodup, .fault hr (.unresolved hlocal fun l hl => ?_)⟩
    rw [ht] at hl
    cases hl
  | case5 unfollowed j ref hr hlocal hmem =>
    rw [List.append_nil]
    refine ⟨j, hp, hnodup, .fault hr (.again ?_)⟩
    -- it is a reference of the value or of the document, and it was struck out
    by_contra hnot
    exact hmem (hleft ref (hp.refs_of_end (Json.mem_refs_of_ref? hr)) hnot)

/-- From any value the walk comes to a halt, and follows no reference twice. -/
theorem derefWalk_halts (d : ApiDocument) (j : Json) :
    ∃ k, d.Passes j (d.derefWalk j).1 k ∧ (d.derefWalk j).1.Nodup ∧
      d.Halts (d.derefWalk j).1 k (d.derefWalk j).2 := by
  have hleft : ∀ ref ∈ j.refs ++ d.content.refs, ref ∉ ([] : List String) →
      ref ∈ j.refs ++ d.content.refs := fun _ hr _ => hr
  exact walk_halts (.here j) List.nodup_nil hleft fun _ _ => List.not_mem_nil

/-- All references that are followed, but for the first, are references of the document. -/
theorem Passes.length_le (h : d.Passes j refs l) (hnodup : refs.Nodup) :
    refs.length ≤ d.content.refs.dedup.length + 1 := by
  cases h with
  | here => exact Nat.zero_le _
  | @next _ k _ first rest _ ht hp =>
    have hrest : rest ⊆ d.content.refs.dedup := by
      intro ref hr
      rw [List.mem_dedup]
      rcases List.mem_append.mp (hp.refs_subset hr) with hr | hr
      · exact refs_subset_of_target ht hr
      · exact hr
    have hlength := (List.subperm_of_subset (List.nodup_cons.mp hnodup).2 hrest).length_le
    rw [List.length_cons]
    omega

/-! ## §4. What is given back. -/

/-- **WHAT FOLLOWING REFERENCES GIVES** is what it halts with. -/
theorem deref_eq_iff :
    d.deref j = result ↔ ∃ refs k, d.Passes j refs k ∧ refs.Nodup ∧ d.Halts refs k result := by
  obtain ⟨k, hp, hnodup, hhalts⟩ := d.derefWalk_halts j
  rw [derefWalk_snd] at hhalts
  constructor
  · rintro rfl
    exact ⟨_, k, hp, hnodup, hhalts⟩
  · rintro ⟨refs', k', hp', hnodup', hhalts'⟩
    -- of two chains from one value, one is the front of the other
    rcases hp.comparable hp' with ⟨rest, hrefs, hrest⟩ | ⟨rest, hrefs, hrest⟩
    · obtain ⟨rfl, rfl⟩ := hhalts.stays hrest (hrefs ▸ hnodup')
      rw [List.append_nil] at hrefs
      rw [hrefs] at hhalts'
      exact hhalts.eq hp hhalts'
    · obtain ⟨rfl, rfl⟩ := hhalts'.stays hrest (hrefs ▸ hnodup)
      rw [List.append_nil] at hrefs
      rw [hrefs] at hhalts
      exact hhalts.eq hp' hhalts'

/-- A cycle is told at the first reference that is met again. -/
theorem deref_eq_cyclic : d.deref j = .error (.cyclic ref) ↔ d.MeetsAgain j ref := by
  rw [deref_eq_iff]
  constructor
  · rintro ⟨refs, k, hp, hnodup, hhalts⟩
    cases hhalts with
    | fault hr hs =>
      cases hs with
      | again hm => exact ⟨refs, k, hp, hnodup, hr, hm⟩
  · rintro ⟨refs, k, hp, hnodup, hr, hm⟩
    exact ⟨refs, k, hp, hnodup, .fault hr (.again hm)⟩

/-- A reference that points outside is told when the chain comes to it. -/
theorem deref_eq_outside :
    d.deref j = .error (.outside ref) ↔ d.Reaches j ref ∧ isLocal ref = false := by
  rw [deref_eq_iff]
  constructor
  · rintro ⟨refs, k, hp, -, hhalts⟩
    cases hhalts with
    | fault hr hs =>
      cases hs with
      | outside hl => exact ⟨⟨refs, k, hp, hr⟩, hl⟩
  · rintro ⟨⟨refs, k, hp, hr⟩, hl⟩
    have hhalts : d.Halts refs k (.error (.outside ref)) := .fault hr (.outside hl)
    refine ⟨refs, k, hp, hp.nodup (hhalts.isEnd ?_), hhalts⟩
    intro ref' hm hr'
    rw [hr] at hr'
    cases hr'
    rw [isLocal_of_mem hp hm] at hl
    cases hl

theorem deref_eq_unresolved : d.deref j = .error (.unresolved ref) ↔
    d.Reaches j ref ∧ isLocal ref = true ∧ ∀ k, d.target ref ≠ .ok k := by
  rw [deref_eq_iff]
  constructor
  · rintro ⟨refs, k, hp, -, hhalts⟩
    cases hhalts with
    | fault hr hs =>
      cases hs with
      | unresolved hl ht => exact ⟨⟨refs, k, hp, hr⟩, hl, ht⟩
  · rintro ⟨⟨refs, k, hp, hr⟩, hl, ht⟩
    have hhalts : d.Halts refs k (.error (.unresolved ref)) := .fault hr (.unresolved hl ht)
    refine ⟨refs, k, hp, hp.nodup (hhalts.isEnd ?_), hhalts⟩
    intro ref' hm hr'
    rw [hr] at hr'
    cases hr'
    obtain ⟨l, -, -, -, hl', -⟩ := hp.behind hm
    exact ht l hl'

/-- A chain goes on for ever exactly if a reference is met again on it. -/
theorem exists_meetsAgain_iff : (∃ ref, d.MeetsAgain j ref) ↔ d.Endless j := by
  constructor
  · rintro ⟨ref, h⟩
    exact h.endless
  · intro hendless
    obtain ⟨k, hp, hnodup, hhalts⟩ := d.derefWalk_halts j
    by_contra hnone
    -- then the walk has come to an end
    refine (hhalts.isEnd fun ref hm hr => ?_).not_endless hp hendless
    exact hnone ⟨ref, _, k, hp, hnodup, hr, hm⟩

/-- **FOLLOWING REFERENCES IS EXACT AND COMES TO A STOP.**  It gives the value at the end of a chain
that ends, the first reference met again on a chain that goes on for ever, and the reference at
which a chain is broken.  The references that it follows are those of the chain, and there are no
more of them than the document has different references, and one. -/
theorem deref_exact (d : ApiDocument) (j : Json) :
    (∀ v, d.deref j = .ok v ↔ ∃ refs, d.Leads j refs v) ∧
    ((∃ ref, d.deref j = .error (.cyclic ref)) ↔ d.Endless j) ∧
    (∀ ref, d.deref j = .error (.cyclic ref) ↔ d.MeetsAgain j ref) ∧
    (∀ ref, d.deref j = .error (.outside ref) ↔ d.Reaches j ref ∧ isLocal ref = false) ∧
    (∀ ref, d.deref j = .error (.unresolved ref) ↔
      d.Reaches j ref ∧ isLocal ref = true ∧ ∀ k, d.target ref ≠ .ok k) ∧
    (d.derefWalk j).2 = d.deref j ∧ (∃ k, d.Passes j (d.derefWalk j).1 k) ∧
    (d.derefWalk j).1.length ≤ d.content.refs.dedup.length + 1 := by
  obtain ⟨k, hp, hnodup, -⟩ := d.derefWalk_halts j
  refine ⟨fun v => deref_eq_ok, ?_, fun ref => deref_eq_cyclic, fun ref => deref_eq_outside,
    fun ref => deref_eq_unresolved, d.derefWalk_snd j, ⟨k, hp⟩, hp.length_le hnodup⟩
  rw [← exists_meetsAgain_iff]
  exact exists_congr fun ref => deref_eq_cyclic

end ApiDocument

end ApiPlaybook
