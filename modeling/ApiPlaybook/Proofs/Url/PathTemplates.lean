/-
  ApiPlaybook.Proofs.Url.PathTemplates
  ────────────────────────────────────
  **FILLING A PATH IN ONE PASS.**

  A text can be cut into pieces in exactly one way such that a placeholder
  reaches from a brace to the next closing one and nothing that is left as text
  has a brace with a closing one behind it (`CutsInto`, `cutsInto_iff`).

  The program finds the braces by their byte positions in what is left of the
  text, takes slices between positions, and goes on behind the closing brace.
  A slice exists only where it lies within the text and parts no character
  (`cutAt?`); `scanPath?` is that loop, with no result once a slice does not
  exist.  One turn of it always has its slices (`pathTurn?_eq`), and by
  induction on what is left so does the loop, which therefore gives what
  filling piece by piece gives (`fillPath_fillsOnce`).
-/
import Mathlib.Data.List.Basic
import ApiPlaybook.Url.PathTemplate

namespace ApiPlaybook.Url

/-! ## §1. The pieces of a text. -/

/-- The pieces of a text. -/
inductive CutsInto : List Char → List PathPiece → Prop where
  /-- No brace has a closing one behind it. -/
  | literal {text : List Char}
      (h : ∀ front name behind, text ≠ front ++ '\x7b' :: (name ++ '\x7d' :: behind)) :
      CutsInto text [.literal text]
  /-- The first brace has a closing one behind it, and the cutting goes on behind the next. -/
  | placeholder {front name behind : List Char} {pieces : List PathPiece}
      (hfront : '\x7b' ∉ front) (hname : '\x7d' ∉ name) (h : CutsInto behind pieces) :
      CutsInto (front ++ '\x7b' :: (name ++ '\x7d' :: behind))
        (.literal front :: .placeholder name :: pieces)

/-- What is cut off at a character that occurs is the text up to its first occurrence. -/
theorem exists_splitFirst {mark : Char} {text : List Char} (h : mark ∈ text) :
    ∃ front rest, mark ∉ front ∧ text = front ++ mark :: rest ∧
      splitFirst mark text = some (front, rest) := by
  obtain ⟨front, rest, rfl, hfront⟩ := List.eq_append_cons_of_mem h
  exact ⟨front, rest, hfront, rfl, splitFirst_append rest hfront⟩

/-- Behind an opening brace the placeholder ends at the next closing one. -/
theorem firstPlaceholder?_of_open {text front rest : List Char}
    (h : splitFirst '\x7b' text = some (front, rest)) : firstPlaceholder? text =
      (splitFirst '\x7d' rest).map fun (name, behind) => (front, name, behind) := by
  unfold firstPlaceholder?
  simp only [h, Option.bind_eq_bind, Option.bind_some]
  cases splitFirst '\x7d' rest <;> rfl

/-- The first placeholder is the one behind a front without opening braces. -/
theorem firstPlaceholder?_append {front name : List Char} (behind : List Char)
    (hfront : '\x7b' ∉ front) (hname : '\x7d' ∉ name) :
    firstPlaceholder? (front ++ '\x7b' :: (name ++ '\x7d' :: behind))
      = some (front, name, behind) := by
  rw [firstPlaceholder?_of_open (splitFirst_append _ hfront), splitFirst_append _ hname]
  rfl

/-- The first placeholder is found with the nearest braces. -/
theorem firstPlaceholder?_cases (text : List Char) :
    (firstPlaceholder? text = none ∧
      ∀ front name behind, text ≠ front ++ '\x7b' :: (name ++ '\x7d' :: behind)) ∨
    ∃ front name behind, firstPlaceholder? text = some (front, name, behind) ∧
      '\x7b' ∉ front ∧ '\x7d' ∉ name ∧ text = front ++ '\x7b' :: (name ++ '\x7d' :: behind) := by
  by_cases hopen : '\x7b' ∈ text
  · obtain ⟨front, rest, hfront, rfl, hsplit⟩ := exists_splitFirst hopen
    by_cases hclose : '\x7d' ∈ rest
    · obtain ⟨name, behind, hname, rfl, -⟩ := exists_splitFirst hclose
      exact .inr ⟨front, name, behind, firstPlaceholder?_append behind hfront hname, hfront,
        hname, rfl⟩
    · refine .inl ⟨?_, ?_⟩
      · rw [firstPlaceholder?_of_open hsplit, splitFirst_eq_none hclose]
        rfl
      · -- a closing brace behind any other brace is one behind the first
        intro front' name behind heq
        apply hclose
        rcases List.append_eq_append_iff.mp heq with ⟨more, rfl, hrest⟩ | ⟨more, hmore, hrest⟩
        · cases more with
          | nil =>
            cases hrest
            simp
          | cons c more =>
            obtain ⟨-, hrest⟩ := List.cons.inj hrest
            rw [hrest]
            simp
        · cases more with
          | nil =>
            cases hrest
            simp
          | cons c more =>
            obtain ⟨rfl, -⟩ := List.cons.inj hrest
            exact absurd (by simp [hmore]) hfront
  · refine .inl ⟨?_, ?_⟩
    · unfold firstPlaceholder?
      rw [splitFirst_eq_none hopen]
      rfl
    · rintro front name behind rfl
      exact hopen (by simp)

/-- A text without a placeholder is one literal piece. -/
theorem pathPieces_of_none {text : List Char} (h : firstPlaceholder? text = none) :
    pathPieces text = [.literal text] := by
  rw [pathPieces]
  split
  · next h' =>
    rw [h] at h'
    cases h'
  · rfl

/-- A text with a placeholder has the pieces of the text behind it. -/
theorem pathPieces_of_some {text front name behind : List Char}
    (h : firstPlaceholder? text = some (front, name, behind)) :
    pathPieces text = .literal front :: .placeholder name :: pathPieces behind := by
  rw [pathPieces]
  split
  · next h' =>
    rw [h] at h'
    cases h'
    rfl
  · next h' =>
    rw [h] at h'
    cases h'

/-- **ONE CUT**: a text is cut into its pieces and in no other way. -/
theorem cutsInto_iff {text : List Char} {pieces : List PathPiece} :
    CutsInto text pieces ↔ pieces = pathPieces text := by
  constructor
  · intro h
    induction h with
    | @literal text h =>
      rcases firstPlaceholder?_cases text with ⟨hnone, -⟩ | ⟨front, name, behind, -, -, -, heq⟩
      · rw [pathPieces_of_none hnone]
      · exact absurd heq (h front name behind)
    | placeholder hfront hname _ ih =>
      rw [pathPieces_of_some (firstPlaceholder?_append _ hfront hname), ih]
  · rintro rfl
    -- the cases of the reader are those of the cut
    induction text using pathPieces.induct with
    | case1 text front name behind hfirst ih =>
      rcases firstPlaceholder?_cases text with ⟨hnone, -⟩ | ⟨f, n, b, hsome, hf, hn, rfl⟩
      · rw [hnone] at hfirst
        cases hfirst
      · rw [hsome] at hfirst
        cases hfirst
        rw [pathPieces_of_some hsome]
        exact .placeholder hf hn ih
    | case2 text hfirst =>
      rcases firstPlaceholder?_cases text with ⟨-, hliteral⟩ | ⟨f, n, b, hsome, -⟩
      · rw [pathPieces_of_none hfirst]
        exact .literal hliteral
      · rw [hsome] at hfirst
        cases hfirst

/-! ## §2. Values in place of names. -/

/-- The text that a piece stands for: the value of its name, and what is written where there
is no value. -/
def PathPiece.filledBy (values : NameMap Json) : PathPiece → List Char
  | .literal text => text
  | .placeholder name =>
    match values.get? (String.ofList name) with
    | some v => pathValue v
    | none => (PathPiece.placeholder name).written

/-- The name of a placeholder without a value. -/
def PathPiece.lacking? (values : NameMap Json) : PathPiece → Option String
  | .literal _ => none
  | .placeholder name =>
    match values.get? (String.ofList name) with
    | some _ => none
    | none => some (String.ofList name)

/-- The name is that of the first placeholder without a value. -/
def FirstLacking (values : NameMap Json) (pieces : List PathPiece) (name : String) : Prop :=
  ∃ before after, pieces = before ++ .placeholder name.toList :: after ∧
    values.get? name = none ∧
    ∀ other, .placeholder other ∈ before → ∃ v, values.get? (String.ofList other) = some v

section Fill

variable {values : NameMap Json}

/-- A piece lacks a name when it is the placeholder of one without a value. -/
theorem PathPiece.lacking?_eq_some {piece : PathPiece} {name : String} :
    piece.lacking? values = some name ↔
      piece = .placeholder name.toList ∧ values.get? name = none := by
  cases piece with
  | literal text => exact ⟨nofun, fun h => by cases h.1⟩
  | placeholder given =>
    unfold lacking?
    constructor
    · intro h
      cases hvalue : values.get? (String.ofList given) with
      | some v => simp [hvalue] at h
      | none =>
        simp only [hvalue, Option.some.injEq] at h
        exact ⟨by rw [← h, String.toList_ofList], by rw [← h, hvalue]⟩
    · rintro ⟨heq, hvalue⟩
      cases heq
      simp [hvalue]

/-- A placeholder lacks nothing when its name has a value. -/
theorem PathPiece.lacking?_placeholder {name : List Char} :
    (PathPiece.placeholder name).lacking? values = none ↔
      ∃ v, values.get? (String.ofList name) = some v := by
  unfold lacking?
  cases hvalue : values.get? (String.ofList name) <;> simp [hvalue]

/-- The search for a piece that lacks something finds the first one. -/
theorem findSome?_lacking? {pieces : List PathPiece} {name : String} :
    pieces.findSome? (PathPiece.lacking? values) = some name ↔ FirstLacking values pieces name := by
  rw [List.findSome?_eq_some_iff]
  constructor
  · rintro ⟨before, piece, after, rfl, hpiece, hbefore⟩
    obtain ⟨rfl, hvalue⟩ := PathPiece.lacking?_eq_some.mp hpiece
    exact ⟨before, after, rfl, hvalue, fun other hother =>
      PathPiece.lacking?_placeholder.mp (hbefore _ hother)⟩
  · rintro ⟨before, after, rfl, hvalue, hbefore⟩
    refine ⟨before, _, after, rfl, PathPiece.lacking?_eq_some.mpr ⟨rfl, hvalue⟩, ?_⟩
    rintro (text | other) hother
    · rfl
    · exact PathPiece.lacking?_placeholder.mpr (hbefore other hother)

/-- A piece is filled unless its name lacks a value that is needed. -/
theorem PathPiece.fill_eq (needAll : Bool) (piece : PathPiece) : piece.fill values needAll =
    match if needAll then piece.lacking? values else none with
    | some name => .error name
    | none => .ok (piece.filledBy values) := by
  cases piece with
  | literal text => cases needAll <;> rfl
  | placeholder name =>
    unfold fill lacking? filledBy
    cases hvalue : values.get? (String.ofList name) <;> cases needAll <;> simp [hvalue]

/-- Filling fails with the first name that lacks a value, if all are needed, or fills every piece.
-/
theorem mapM_fill (needAll : Bool) (pieces : List PathPiece) :
    pieces.mapM (PathPiece.fill values needAll) =
      match if needAll then pieces.findSome? (PathPiece.lacking? values) else none with
      | some name => .error name
      | none => .ok (pieces.map (PathPiece.filledBy values)) := by
  induction pieces with
  | nil => cases needAll <;> rfl
  | cons piece rest ih =>
    rw [List.mapM_cons, PathPiece.fill_eq, ih]
    cases needAll with
    | false => rfl
    | true =>
      simp only [if_true, List.findSome?_cons]
      cases piece.lacking? values with
      | some name => rfl
      | none => cases rest.findSome? (PathPiece.lacking? values) <;> rfl

end Fill

/-! ## §3. Slices. -/

/-- How many bytes a text has. -/
def byteLength (text : List Char) : Nat := (utf8Bytes text).length

/-- The parts of a text before and behind a byte position; there are none where the position
lies behind the end or within a character. -/
def cutAt? : Nat → List Char → Option (List Char × List Char)
  | 0, text => some ([], text)
  | _ + 1, [] => none
  | n + 1, c :: text =>
    if (utf8Char c).length ≤ n + 1 then
      (cutAt? (n + 1 - (utf8Char c).length) text).map fun (a, b) => (c :: a, b)
    else none

/-- The part of a text behind a byte position. -/
def sliceFrom? (text : List Char) (start : Nat) : Option (List Char) :=
  (cutAt? start text).map (·.2)

/-- The part of a text between two byte positions. -/
def slice? (text : List Char) (start stop : Nat) : Option (List Char) := do
  let (front, _) ← cutAt? stop text
  sliceFrom? front start

/-- The byte position of the first occurrence of a character. -/
def bytePosition? (mark : Char) (text : List Char) : Option Nat :=
  (splitFirst mark text).map fun (front, _) => byteLength front

/-- The bytes of two texts add up. -/
@[simp] theorem byteLength_append (a b : List Char) :
    byteLength (a ++ b) = byteLength a + byteLength b := by
  simp [byteLength, utf8Bytes]

theorem byteLength_cons (c : Char) (text : List Char) :
    byteLength (c :: text) = (utf8Char c).length + byteLength text := by
  simp [byteLength, utf8Bytes]

/-- Every character takes a byte or more. -/
theorem utf8Char_length_pos (c : Char) : 0 < (utf8Char c).length := by
  unfold utf8Char utf8OfNat
  split
  · simp
  · split
    · simp
    · split <;> simp

/-- A text can be cut at the end of each of its beginnings. -/
theorem cutAt?_append (a b : List Char) : cutAt? (byteLength a) (a ++ b) = some (a, b) := by
  induction a with
  | nil => cases b <;> rfl
  | cons c a ih =>
    obtain ⟨n, hn⟩ := Nat.exists_eq_add_one.mpr (utf8Char_length_pos c)
    have hlength : byteLength (c :: a) = byteLength a + n + 1 := by
      rw [byteLength_cons, hn]
      omega
    rw [hlength, List.cons_append, cutAt?, hn, if_pos (by omega),
      show byteLength a + n + 1 - (n + 1) = byteLength a by omega, ih]
    rfl

/-- A text can be cut at the ends of its beginnings and nowhere else. -/
theorem cutAt?_eq_some {n : Nat} {text a b : List Char} :
    cutAt? n text = some (a, b) ↔ text = a ++ b ∧ byteLength a = n := by
  constructor
  · intro h
    fun_induction cutAt? n text generalizing a b with
    | case1 text =>
      cases h
      exact ⟨rfl, rfl⟩
    | case2 => cases h
    | case3 n c text hfits ih =>
      obtain ⟨⟨a', b'⟩, hcut, heq⟩ := Option.map_eq_some_iff.mp h
      cases heq
      obtain ⟨rfl, hlength⟩ := ih hcut
      rw [byteLength_cons]
      exact ⟨rfl, by omega⟩
    | case4 => cases h
  · rintro ⟨rfl, rfl⟩
    exact cutAt?_append a b

/-- A slice from a byte that begins a character is the text behind it. -/
theorem sliceFrom?_eq_some {text : List Char} {start : Nat} {a b : List Char}
    (htext : text = a ++ b) (hstart : byteLength a = start) : sliceFrom? text start = some b := by
  unfold sliceFrom?
  rw [cutAt?_eq_some.mpr ⟨htext, hstart⟩]
  rfl

/-- A slice between two bytes that begin characters is the text between them. -/
theorem slice?_eq_some {text : List Char} {start stop : Nat} {a b c : List Char}
    (htext : text = a ++ b ++ c) (hstart : byteLength a = start)
    (hstop : byteLength (a ++ b) = stop) : slice? text start stop = some b := by
  unfold slice?
  rw [cutAt?_eq_some.mpr ⟨htext, hstop⟩]
  exact sliceFrom?_eq_some rfl hstart

/-! ## §4. The loop. -/

/-- What a turn of the loop does. -/
inductive PathTurn where
  /-- A text is put out, and what is left is gone over. -/
  | next (text rest : List Char)
  /-- No placeholder is left. -/
  | last
  /-- A name has no value. -/
  | refused (name : String)

/-- One turn, on what is left of the text; there is no result where a slice does not exist. -/
def pathTurn? (values : NameMap Json) (needAll : Bool) (rest : List Char) : Option PathTurn := do
  let some start := bytePosition? '\x7b' rest | return .last
  let some length := bytePosition? '\x7d' (← sliceFrom? rest start) | return .last
  let name ← slice? rest (start + 1) (start + length)
  let front ← slice? rest 0 start
  match values.get? (String.ofList name) with
  | some v => return .next (front ++ pathValue v) (← sliceFrom? rest (start + length + 1))
  | none =>
    if needAll then return .refused (String.ofList name)
    else
      let whole ← slice? rest start (start + length + 1)
      return .next (front ++ whole) (← sliceFrom? rest (start + length + 1))

/-- The name of a placeholder, the text before it, all of it and the text behind it are slices. -/
theorem slices_of_braces (front name behind : List Char) :
    let text := front ++ '\x7b' :: (name ++ '\x7d' :: behind)
    let start := byteLength front
    let length := byteLength ('\x7b' :: name)
    slice? text (start + 1) (start + length) = some name ∧ slice? text 0 start = some front ∧
      slice? text start (start + length + 1) = some (PathPiece.placeholder name).written ∧
      sliceFrom? text (start + length + 1) = some behind := by
  intro text start length
  -- either brace is one byte
  have hwritten : byteLength (PathPiece.placeholder name).written = length + 1 := by
    show byteLength (('\x7b' :: name) ++ ['\x7d']) = _
    rw [byteLength_append]
    rfl
  refine ⟨?_, ?_, ?_, ?_⟩
  · refine slice?_eq_some (a := front ++ ['\x7b']) (c := '\x7d' :: behind) ?_ ?_ ?_
    · simp [text]
    · rw [byteLength_append]
      rfl
    · rw [List.append_assoc, byteLength_append]
      rfl
  · exact slice?_eq_some (a := []) rfl rfl rfl
  · refine slice?_eq_some (a := front) (c := behind) ?_ rfl ?_
    · simp [text, PathPiece.written]
    · rw [byteLength_append, hwritten, Nat.add_assoc]
  · refine sliceFrom?_eq_some (a := front ++ (PathPiece.placeholder name).written) ?_ ?_
    · simp [text, PathPiece.written]
    · rw [byteLength_append, hwritten, Nat.add_assoc]

/-- **A TURN**: its slices exist, and it fills the first placeholder. -/
theorem pathTurn?_eq (values : NameMap Json) (needAll : Bool) (rest : List Char) :
    pathTurn? values needAll rest = some (match firstPlaceholder? rest with
      | none => .last
      | some (front, name, behind) =>
        match (PathPiece.placeholder name).fill values needAll with
        | .ok text => .next (front ++ text) behind
        | .error name => .refused name) := by
  unfold pathTurn? bytePosition?
  cases hopen : splitFirst '\x7b' rest with
  | none =>
    unfold firstPlaceholder?
    rw [hopen]
    rfl
  | some split =>
    obtain ⟨front, tail⟩ := split
    obtain rfl := splitFirst_eq hopen
    rw [firstPlaceholder?_of_open hopen]
    simp only [Option.map_some]
    rw [sliceFrom?_eq_some rfl rfl]
    by_cases hclose : '\x7d' ∈ tail
    · obtain ⟨name, behind, hnot, rfl, hsplit⟩ := exists_splitFirst hclose
      have hbrace : splitFirst '\x7d' ('\x7b' :: (name ++ '\x7d' :: behind))
          = some ('\x7b' :: name, behind) :=
        splitFirst_append (a := '\x7b' :: name) behind (by simpa using hnot)
      -- all four slices are taken where characters begin
      obtain ⟨hname, hfront, hwhole, hbehind⟩ := slices_of_braces front name behind
      simp only [hsplit, hbrace, Option.bind_eq_bind, Option.bind_some, Option.map_some, hname,
        hfront, hwhole, hbehind, PathPiece.fill]
      cases values.get? (String.ofList name) with
      | some v => rfl
      | none => cases needAll <;> rfl
    · -- a brace that is not closed is part of the last piece
      have hbrace : '\x7d' ∉ '\x7b' :: tail := by simpa using hclose
      simp only [splitFirst_eq_none hclose, splitFirst_eq_none hbrace, Option.bind_eq_bind,
        Option.bind_some, Option.map_none]
      rfl

/-- Every turn of the loop that goes on leaves less of the text, so the loop ends. -/
theorem pathTurn?_length {values : NameMap Json} {needAll : Bool} {rest text rest' : List Char}
    (h : pathTurn? values needAll rest = some (.next text rest')) : rest'.length < rest.length := by
  rw [pathTurn?_eq] at h
  cases hfirst : firstPlaceholder? rest with
  | none => simp [hfirst] at h
  | some found =>
    obtain ⟨front, name, behind⟩ := found
    cases hfill : (PathPiece.placeholder name).fill values needAll with
    | error name => simp [hfirst, hfill] at h
    | ok text =>
      simp only [hfirst, hfill, Option.some.injEq, PathTurn.next.injEq] at h
      rw [← h.2]
      exact firstPlaceholder?_length hfirst

/-- The loop, from a text that was put out and what is left; there is no result where a slice
does not exist. -/
def scanPath? (values : NameMap Json) (needAll : Bool) (out rest : List Char) :
    Option (Except String (List Char)) :=
  match _h : pathTurn? values needAll rest with
  | none => none
  | some .last => some (.ok (out ++ rest))
  | some (.refused name) => some (.error name)
  | some (.next text rest') => scanPath? values needAll (out ++ text) rest'
termination_by rest.length
decreasing_by exact pathTurn?_length ‹_›

section Loop

variable {values : NameMap Json} {needAll : Bool} {out rest : List Char}

/-- The last turn appends what is left. -/
theorem scanPath?_of_last (h : pathTurn? values needAll rest = some .last) :
    scanPath? values needAll out rest = some (.ok (out ++ rest)) := by
  rw [scanPath?]
  split <;> simp_all

/-- A turn that is refused ends the loop with the name it lacks. -/
theorem scanPath?_of_refused {name : String}
    (h : pathTurn? values needAll rest = some (.refused name)) :
    scanPath? values needAll out rest = some (.error name) := by
  rw [scanPath?]
  split <;> simp_all

/-- Any other turn appends the text before it and goes on behind it. -/
theorem scanPath?_of_next {text rest' : List Char}
    (h : pathTurn? values needAll rest = some (.next text rest')) :
    scanPath? values needAll out rest = scanPath? values needAll (out ++ text) rest' := by
  rw [scanPath?]
  split <;> simp_all

end Loop

/-- The loop fills piece by piece. -/
theorem scanPath?_eq (values : NameMap Json) (needAll : Bool) (out rest : List Char) :
    scanPath? values needAll out rest =
      some (((pathPieces rest).mapM (PathPiece.fill values needAll)).map (out ++ ·.flatten)) := by
  -- one turn of the loop is one placeholder with the literal before it
  induction rest using pathPieces.induct generalizing out with
  | case1 rest front name behind hfirst ih =>
    have hturn := pathTurn?_eq values needAll rest
    simp only [hfirst] at hturn
    rw [pathPieces_of_some hfirst, List.mapM_cons, List.mapM_cons]
    cases hfill : (PathPiece.placeholder name).fill values needAll with
    | error name =>
      rw [hfill] at hturn
      rw [scanPath?_of_refused hturn]
      rfl
    | ok text =>
      rw [hfill] at hturn
      rw [scanPath?_of_next hturn, ih]
      cases (pathPieces behind).mapM (PathPiece.fill values needAll) with
      | error name => rfl
      | ok texts =>
        show some (Except.ok (out ++ (front ++ text) ++ texts.flatten)) = _
        rw [List.append_assoc, List.append_assoc]
        rfl
  | case2 rest hfirst =>
    have hturn := pathTurn?_eq values needAll rest
    simp only [hfirst] at hturn
    rw [scanPath?_of_last hturn, pathPieces_of_none hfirst]
    show _ = some (Except.ok (out ++ [rest].flatten))
    rw [List.flatten_singleton]

/-! ## §5. One pass. -/

section Path

variable {values : NameMap Json} {needAll : Bool} {path : String}

/-- A name is given back just if all values are needed and it is the first without one. -/
theorem fillPath_eq_error {name : String} : fillPath values needAll path = .error name ↔
    needAll = true ∧ FirstLacking values (pathPieces path.toList) name := by
  unfold fillPath
  rw [mapM_fill, ← findSome?_lacking?]
  cases needAll with
  | false => exact ⟨nofun, fun h => by cases h.1⟩
  | true =>
    rw [if_pos rfl]
    cases (pathPieces path.toList).findSome? (PathPiece.lacking? values) with
    | none => exact ⟨nofun, fun h => by cases h.2⟩
    | some first => exact ⟨fun h => by cases h; exact ⟨rfl, rfl⟩, fun h => by cases h.2; rfl⟩

/-- A template that lacks nothing it needs is filled piece by piece. -/
theorem fillPath_of_complete
    (h : ¬ (needAll = true ∧ ∃ name, FirstLacking values (pathPieces path.toList) name)) :
    fillPath values needAll path
      = .ok (String.ofList ((pathPieces path.toList).flatMap (PathPiece.filledBy values))) := by
  unfold fillPath
  rw [mapM_fill, List.flatMap_def]
  cases needAll with
  | false => rfl
  | true =>
    rw [if_pos rfl]
    cases hfirst : (pathPieces path.toList).findSome? (PathPiece.lacking? values) with
    | none => rfl
    | some first => exact absurd ⟨rfl, first, findSome?_lacking?.mp hfirst⟩ h

/-- Where no value is needed every path is filled. -/
theorem exists_fillPath (values : NameMap Json) (path : String) :
    ∃ text, fillPath values false path = .ok text :=
  ⟨_, fillPath_of_complete fun h => by cases h.1⟩

end Path

/-- The text is filled in one pass over these pieces. -/
structure FillsOnce (values : NameMap Json) (needAll : Bool) (path : String)
    (pieces : List PathPiece) : Prop where
  /-- These are the pieces of the text, and it has no others. -/
  cut : ∀ other, CutsInto path.toList other ↔ other = pieces
  written : pieces.flatMap PathPiece.written = path.toList
  /-- A name is given back just if all values are needed and it is the first without one. -/
  refused : ∀ name, fillPath values needAll path = .error name ↔
    needAll = true ∧ FirstLacking values pieces name
  /-- In all other cases each piece becomes its text. -/
  filled : ¬ (needAll = true ∧ ∃ name, FirstLacking values pieces name) →
    fillPath values needAll path = .ok (String.ofList (pieces.flatMap (PathPiece.filledBy values)))
  /-- The loop comes to an end with all its slices and gives the same. -/
  scanned : scanPath? values needAll [] path.toList
    = some ((fillPath values needAll path).map String.toList)

/-- **ONE PASS**: every path is filled in one pass over its pieces. -/
theorem fillPath_fillsOnce (values : NameMap Json) (needAll : Bool) (path : String) :
    FillsOnce values needAll path (pathPieces path.toList) where
  cut := fun _ => cutsInto_iff
  written := written_pathPieces _
  refused := fun _ => fillPath_eq_error
  filled := fillPath_of_complete
  scanned := by
    unfold fillPath
    rw [scanPath?_eq]
    cases (pathPieces path.toList).mapM (PathPiece.fill values needAll) with
    | error name => rfl
    | ok texts =>
      show some (Except.ok texts.flatten) = some (Except.ok (String.ofList texts.flatten).toList)
      rw [String.toList_ofList]

/-- A value that is written like a placeholder stays a value, and an open brace stays text. -/
example : fillPath (.ofList [("id", .string "\x7bid\x7d")]) true "/ü/\x7bid\x7d/\x7b"
    = .ok "/ü/%7Bid%7D/\x7b" := by
  decide +kernel

end ApiPlaybook.Url
