/-
  ApiPlaybook.Proofs.Regex.Matches
  ────────────────────────────────
  **WHAT AN EXPRESSION MATCHES.**

  A match is a text between what stands before and behind it, since a condition
  on a place looks at both sides.  It tells what the groups took, in the order in
  which they were closed.  The relation has a match for every way to match a text;
  which one a search prefers matters only where there are several.
-/
import ApiPlaybook.Regex.Machine

namespace ApiPlaybook.Regex

/-- The expression matches the text between the other two, its groups took these texts. -/
inductive Expr.Matches :
    Expr → List Char → List Char → List Char → List (Nat × List Char) → Prop
  | empty {before behind : List Char} : Matches .empty before [] behind []
  | set {s : CharSet} {c : Char} {before behind : List Char} (h : s.holds c.toNat = true) :
    Matches (.set s) before [c] behind []
  | look {l : Look} {before behind : List Char}
    (h : l.holds before.getLast? behind.head? = true) : Matches (.look l) before [] behind []
  | group {i : Nat} {e : Expr} {before cs behind : List Char} {groups : List (Nat × List Char)}
    (h : Matches e before cs behind groups) :
    Matches (.group i e) before cs behind (groups ++ [(i, cs)])
  | seq {e f : Expr} {before cs ds behind : List Char} {groups more : List (Nat × List Char)}
    (h : Matches e before cs (ds ++ behind) groups)
    (h' : Matches f (before ++ cs) ds behind more) :
    Matches (.seq e f) before (cs ++ ds) behind (groups ++ more)
  | left {e f : Expr} {before cs behind : List Char} {groups : List (Nat × List Char)}
    (h : Matches e before cs behind groups) : Matches (.alt e f) before cs behind groups
  | right {e f : Expr} {before cs behind : List Char} {groups : List (Nat × List Char)}
    (h : Matches f before cs behind groups) : Matches (.alt e f) before cs behind groups
  | stop {e : Expr} {most : Option Nat} {greedy : Bool} {before behind : List Char} :
    Matches (.rep e 0 most greedy) before [] behind []
  | again {e : Expr} {least : Nat} {most : Option Nat} {greedy : Bool}
    {before cs ds behind : List Char} {groups more : List (Nat × List Char)}
    (hmost : most ≠ some 0) (h : Matches e before cs (ds ++ behind) groups)
    (h' : Matches (.rep e (least - 1) (most.map (· - 1)) greedy) (before ++ cs) ds behind more) :
    Matches (.rep e least most greedy) before (cs ++ ds) behind (groups ++ more)

namespace Expr

variable {before cs behind : List Char} {groups : List (Nat × List Char)} {s : CharSet}

/-- A set matches one character of it. -/
theorem matches_set : (Expr.set s).Matches before cs behind groups ↔
    ∃ c, cs = [c] ∧ s.holds c.toNat = true ∧ groups = [] := by
  constructor
  · intro h
    cases h with
    | set h => exact ⟨_, rfl, h, rfl⟩
  · rintro ⟨c, rfl, h, rfl⟩
    exact .set h

/-- An assertion matches nothing, where it holds. -/
theorem matches_look {l : Look} : (Expr.look l).Matches before cs behind groups ↔
    cs = [] ∧ l.holds before.getLast? behind.head? = true ∧ groups = [] := by
  constructor
  · intro h
    cases h with
    | look h => exact ⟨rfl, h, rfl⟩
  · rintro ⟨rfl, h, rfl⟩
    exact .look h

/-- A group records what it matched, behind the groups inside. -/
theorem matches_group {i : Nat} {e : Expr} : (Expr.group i e).Matches before cs behind groups ↔
    ∃ inner, e.Matches before cs behind inner ∧ groups = inner ++ [(i, cs)] := by
  constructor
  · intro h
    cases h with
    | group h => exact ⟨_, h, rfl⟩
  · rintro ⟨inner, h, rfl⟩
    exact .group h

/-- A sequence matches one part behind the other, each in the surroundings of the whole. -/
theorem matches_seq {e f : Expr} : (Expr.seq e f).Matches before cs behind groups ↔
    ∃ first second taken more, cs = first ++ second ∧ groups = taken ++ more ∧
      e.Matches before first (second ++ behind) taken ∧
      f.Matches (before ++ first) second behind more := by
  constructor
  · intro h
    cases h with
    | seq h h' => exact ⟨_, _, _, _, rfl, rfl, h, h'⟩
  · rintro ⟨first, second, taken, more, rfl, rfl, h, h'⟩
    exact .seq h h'

/-- One character in front of the rest. -/
theorem matches_set_seq {f : Expr} : (Expr.seq (.set s) f).Matches before cs behind groups ↔
    ∃ c rest, cs = c :: rest ∧ s.holds c.toNat = true ∧
      f.Matches (before ++ [c]) rest behind groups := by
  rw [matches_seq]
  constructor
  · rintro ⟨first, second, taken, more, rfl, rfl, h, h'⟩
    obtain ⟨c, rfl, hc, rfl⟩ := matches_set.mp h
    exact ⟨c, second, rfl, hc, h'⟩
  · rintro ⟨c, rest, rfl, hc, h⟩
    exact ⟨[c], rest, [], groups, rfl, rfl, matches_set.mpr ⟨c, rfl, hc, rfl⟩, h⟩

/-- Any number of characters of a set. -/
theorem matches_many {greedy : Bool} :
    (Expr.rep (.set s) 0 none greedy).Matches before cs behind groups ↔
      (∀ c ∈ cs, s.holds c.toNat = true) ∧ groups = [] := by
  constructor
  · intro h
    -- by induction on the match, so the expression must be a variable
    generalize he : Expr.rep (.set s) 0 none greedy = e at h
    induction h with
    | stop => exact ⟨nofun, rfl⟩
    | again _ h _ _ ih =>
      cases he
      obtain ⟨c, rfl, hc, rfl⟩ := matches_set.mp h
      obtain ⟨hrest, rfl⟩ := ih rfl
      exact ⟨List.forall_mem_cons.mpr ⟨hc, hrest⟩, rfl⟩
    | _ => cases he
  · rintro ⟨h, rfl⟩
    induction cs generalizing before with
    | nil => exact .stop
    | cons c rest ih =>
      obtain ⟨hc, hrest⟩ := List.forall_mem_cons.mp h
      show Matches _ before ([c] ++ rest) behind ([] ++ [])
      exact .again nofun (.set hc) (ih hrest)

/-- One character of a set at least. -/
theorem matches_some {greedy : Bool} :
    (Expr.rep (.set s) 1 none greedy).Matches before cs behind groups ↔
      cs ≠ [] ∧ (∀ c ∈ cs, s.holds c.toNat = true) ∧ groups = [] := by
  constructor
  · intro h
    cases h with
    | again _ h h' =>
      obtain ⟨c, rfl, hc, rfl⟩ := matches_set.mp h
      obtain ⟨hrest, rfl⟩ := matches_many.mp h'
      exact ⟨by simp, List.forall_mem_cons.mpr ⟨hc, hrest⟩, rfl⟩
  · rintro ⟨hne, h, rfl⟩
    obtain ⟨c, rest, rfl⟩ := List.exists_cons_of_ne_nil hne
    obtain ⟨hc, hrest⟩ := List.forall_mem_cons.mp h
    show Matches _ before ([c] ++ rest) behind ([] ++ [])
    exact .again nofun (.set hc) (matches_many.mpr ⟨hrest, rfl⟩)

/-- Any number of characters of a set in front of the rest. -/
theorem matches_many_seq {f : Expr} {greedy : Bool} :
    (Expr.seq (.rep (.set s) 0 none greedy) f).Matches before cs behind groups ↔
      ∃ front rest, cs = front ++ rest ∧ (∀ c ∈ front, s.holds c.toNat = true) ∧
        f.Matches (before ++ front) rest behind groups := by
  rw [matches_seq]
  constructor
  · rintro ⟨front, rest, taken, more, rfl, rfl, h, h'⟩
    obtain ⟨hfront, rfl⟩ := matches_many.mp h
    exact ⟨front, rest, rfl, hfront, h'⟩
  · rintro ⟨front, rest, rfl, hfront, h⟩
    exact ⟨front, rest, [], groups, rfl, rfl, matches_many.mpr ⟨hfront, rfl⟩, h⟩

/-- A group of characters of a set in front of the rest. -/
theorem matches_group_seq {f : Expr} {i : Nat} {greedy : Bool} :
    (Expr.seq (.group i (.rep (.set s) 1 none greedy)) f).Matches before cs behind groups ↔
      ∃ front rest more, cs = front ++ rest ∧ groups = (i, front) :: more ∧
        front ≠ [] ∧ (∀ c ∈ front, s.holds c.toNat = true) ∧
        f.Matches (before ++ front) rest behind more := by
  rw [matches_seq]
  constructor
  · rintro ⟨front, rest, taken, more, rfl, rfl, h, h'⟩
    obtain ⟨inner, hinner, rfl⟩ := matches_group.mp h
    obtain ⟨hne, hfront, rfl⟩ := matches_some.mp hinner
    exact ⟨front, rest, more, rfl, rfl, hne, hfront, h'⟩
  · rintro ⟨front, rest, more, rfl, rfl, hne, hfront, h⟩
    have htaken : (Expr.group i (.rep (.set s) 1 none greedy)).Matches before front
        (rest ++ behind) [(i, front)] :=
      matches_group.mpr ⟨[], matches_some.mpr ⟨hne, hfront, rfl⟩, rfl⟩
    exact ⟨front, rest, [(i, front)], more, rfl, rfl, htaken, h⟩

end Expr

end ApiPlaybook.Regex
