/-
  ApiPlaybook.Proofs.Preparation.Segments
  ───────────────────────────────────────
  **A PARAMETER STAYS INSIDE ITS SEGMENT.**

  A value in a path is escaped, so it brings no slash and nothing else that the
  reader of URLs takes for a mark.  Each segment of the path of an operation
  becomes one segment of the URL, behind those of the base
  (`prepareOperation_segments`).

  Yet full stops are not escaped, and an empty value leaves nothing: the path is
  read as a text once it is filled, and a segment that became `..` takes away
  the one before it (`not_builtOn_above`).  What the texts must not look like is
  told by `ReadsAsWritten`.
-/
import ApiPlaybook.Proofs.Preparation.Build
import ApiPlaybook.Proofs.Url.Bases
import Mathlib.Data.List.Forall2

namespace ApiPlaybook

open Url

/-! ## §1. Marks of a path. -/

/-- A mark of a path. -/
inductive PathMark where
  | char (c : Char)
  /-- A placeholder. -/
  | value (name : String)
deriving DecidableEq

namespace PathMark

/-- What a mark becomes before the URL is read. -/
def filled (values : NameMap Json) : PathMark → List Char
  | .char c => [c]
  | .value name => ((values.get? name).map pathValue).getD []

/-- How a mark is written in a URL: a character escaped where it has to be, a placeholder as a
text that is decoded to the bytes of its value. -/
def WrittenAs (values : NameMap Json) : PathMark → List Char → Prop
  | .char c, text => text = escape escapedInPath [c]
  | .value name, text => ∃ v, values.get? name = some v ∧ text = pathValue v ∧
      percentDecode text = utf8Bytes v.inlineText.toList

end PathMark

/-- The marks of a piece. -/
def markedPiece : PathPiece → List PathMark
  | .literal text => text.map .char
  | .placeholder name => [.value (String.ofList name)]

/-- The marks of a path. -/
def pathMarks (path : String) : List PathMark := (pathPieces path.toList).flatMap markedPiece

/-- The segments of a path behind the slashes in front of it. -/
def templateSegments (path : String) : List (List PathMark) :=
  ((pathMarks path).dropWhile (· == .char '/')).splitOn (.char '/')

/-- A path with its values. -/
def filledPath (values : NameMap Json) (path : String) : List Char :=
  (pathMarks path).flatMap (PathMark.filled values)

/-- The segments of a path with their values, as they are written in a URL. -/
def filledSegments (values : NameMap Json) (path : String) : List (List Char) :=
  (templateSegments path).map fun segment =>
    escape escapedInPath (segment.flatMap (PathMark.filled values))

/-! ## §2. Filling. -/

/-- Characters without placeholders are filled with themselves. -/
theorem filled_of_literal (values : NameMap Json) (text : List Char) :
    (text.map PathMark.char).flatMap (PathMark.filled values) = text := by
  rw [List.flatMap_map]
  exact List.flatMap_singleton' text

/-- The pieces of a path are filled mark by mark, and every placeholder had a value. -/
theorem mapM_fill_eq_ok {values : NameMap Json} {pieces : List PathPiece}
    {texts : List (List Char)} (h : pieces.mapM (PathPiece.fill values true) = .ok texts) :
    texts.flatten = (pieces.flatMap markedPiece).flatMap (PathMark.filled values) ∧
      ∀ name, .value name ∈ pieces.flatMap markedPiece → ∃ v, values.get? name = some v := by
  induction pieces generalizing texts with
  | nil =>
    cases h
    exact ⟨rfl, nofun⟩
  | cons piece pieces ih =>
    rw [List.mapM_cons] at h
    cases hpiece : PathPiece.fill values true piece with
    | error name =>
      rw [hpiece] at h
      cases h
    | ok text =>
      cases hrest : pieces.mapM (PathPiece.fill values true) with
      | error name =>
        rw [hpiece, hrest] at h
        cases h
      | ok rest =>
        rw [hpiece, hrest] at h
        cases h
        obtain ⟨htexts, hvalues⟩ := ih hrest
        rw [List.flatMap_cons, List.flatMap_append, List.flatten_cons, htexts]
        -- a literal piece stands for itself, a placeholder for its value
        cases piece with
        | literal front =>
          cases hpiece
          refine ⟨by rw [markedPiece, filled_of_literal], fun name hname => ?_⟩
          rcases List.mem_append.mp hname with hname | hname
          · obtain ⟨c, -, hc⟩ := List.mem_map.mp hname
            cases hc
          · exact hvalues name hname
        | placeholder given =>
          cases hv : values.get? (String.ofList given) with
          | none =>
            simp only [PathPiece.fill, hv, if_true] at hpiece
            cases hpiece
          | some v =>
            simp only [PathPiece.fill, hv] at hpiece
            cases hpiece
            refine ⟨by simp [markedPiece, PathMark.filled, hv], fun name hname => ?_⟩
            rcases List.mem_append.mp hname with hname | hname
            · cases List.mem_singleton.mp hname
              exact ⟨v, hv⟩
            · exact hvalues name hname

/-- A path that was filled. -/
theorem fillPath_eq_ok {values : NameMap Json} {path text : String}
    (h : fillPath values true path = .ok text) :
    text.toList = filledPath values path ∧
      ∀ name, .value name ∈ pathMarks path → ∃ v, values.get? name = some v := by
  unfold fillPath at h
  cases htexts : (pathPieces path.toList).mapM (PathPiece.fill values true) with
  | error name =>
    rw [htexts] at h
    cases h
  | ok texts =>
    rw [htexts] at h
    cases h
    obtain ⟨hflat, hvalues⟩ := mapM_fill_eq_ok htexts
    exact ⟨by rw [String.toList_ofList, hflat]; rfl, hvalues⟩

/-- A mark that is a character is one of the path. -/
theorem char_mem_of_mark {path : String} {c : Char} (h : .char c ∈ pathMarks path) :
    c ∈ path.toList := by
  obtain ⟨piece, hpiece, hc⟩ := List.mem_flatMap.mp h
  rw [← written_pathPieces path.toList]
  refine List.mem_flatMap.mpr ⟨piece, hpiece, ?_⟩
  cases piece with
  | literal text =>
    obtain ⟨d, hd, he⟩ := List.mem_map.mp hc
    cases he
    exact hd
  | placeholder name => cases List.mem_singleton.mp hc

/-! ## §3. Escaped values. -/

/-- A character that stands in an escaped value. -/
theorem mem_pathValue {v : Json} {c : Char} (h : c ∈ pathValue v) :
    isUnreserved c = true ∨ c = '%' := by
  have hall : ∀ c ∈ pathValue v, isUnreserved c = true ∨ c = '%' :=
    forall_mem_escape (fun c _ hc => .inl (by simpa using hc)) (by decide) (by decide)
  exact hall c h

/-- The reader leaves the characters of a value as they are. -/
theorem plain_of_mem_pathValue {v : Json} {c : Char} (h : c ∈ pathValue v) :
    escapedInPath c = false ∧ isSlash true c = false ∧ c ∉ ['#', '?', '\t', '\n', '\r'] := by
  rcases mem_pathValue h with h | rfl
  · exact forall_of_ascii (P := fun c => isUnreserved c = true → escapedInPath c = false ∧
        isSlash true c = false ∧ c ∉ ['#', '?', '\t', '\n', '\r'])
      (by decide) (isAscii_of_alphanum_or (by decide) h) h
  · decide

/-- What stands for a value is decoded to its text. -/
theorem percentDecode_pathValue (v : Json) :
    percentDecode (pathValue v) = utf8Bytes v.inlineText.toList := by
  have h := @percentDecode_escape (fun c => !isUnreserved c) (by decide) v.inlineText.toList []
  rw [List.append_nil, show percentDecode [] = [] from rfl, List.append_nil] at h
  exact h

namespace PathMark

/-- A mark that has a value is written as one has to be. -/
theorem writtenAs_filled {values : NameMap Json} {mark : PathMark}
    (h : ∀ name, mark = .value name → ∃ v, values.get? name = some v) :
    mark.WrittenAs values (escape escapedInPath (mark.filled values)) := by
  cases mark with
  | char c => rfl
  | value name =>
    obtain ⟨v, hv⟩ := h name rfl
    have hfilled : (PathMark.value name).filled values = pathValue v := by simp [filled, hv]
    rw [hfilled, escape_eq_self fun c hc => (plain_of_mem_pathValue hc).1]
    exact ⟨v, hv, rfl, percentDecode_pathValue v⟩

/-- Only a slash becomes a slash. -/
theorem isSlash_of_mem_filled {values : NameMap Json} {mark : PathMark} {c : Char}
    (hmark : mark ≠ .char '/') (hback : mark ≠ .char '\\') (h : c ∈ mark.filled values) :
    isSlash true c = false := by
  cases mark with
  | char d =>
    cases List.mem_singleton.mp h
    have hslash : c ≠ '/' := fun hc => hmark (by rw [hc])
    have hback : c ≠ '\\' := fun hc => hback (by rw [hc])
    simp [isSlash, hslash, hback]
  | value name =>
    cases hv : values.get? name with
    | none => simp [filled, hv] at h
    | some v =>
      simp only [filled, hv, Option.map_some, Option.getD_some] at h
      exact (plain_of_mem_pathValue h).2.1

end PathMark

/-! ## §4. Segments. -/

/-- Characters without a slash go into the first part. -/
theorem partsAtSlashes_plain_append {a : List Char} (b : List Char)
    (h : ∀ c ∈ a, isSlash true c = false) :
    partsAtSlashes true (a ++ b) = (partsAtSlashes true b).modifyHead (a ++ ·) := by
  induction a with
  | nil =>
    rw [List.nil_append]
    cases partsAtSlashes true b <;> rfl
  | cons c a ih =>
    rw [List.cons_append, partsAtSlashes, if_neg (by simp [h c List.mem_cons_self]),
      ih fun d hd => h d (List.mem_cons_of_mem _ hd)]
    cases hb : partsAtSlashes true b with
    | nil => exact absurd hb (partsAtSlashes_ne_nil true b)
    | cons part parts => rfl

/-- The parts of a filled path are its filled segments. -/
theorem partsAtSlashes_filled {values : NameMap Json} {marks : List PathMark}
    (h : .char '\\' ∉ marks) :
    partsAtSlashes true (marks.flatMap (PathMark.filled values))
      = (marks.splitOn (.char '/')).map fun segment =>
          segment.flatMap (PathMark.filled values) := by
  induction marks with
  | nil => rfl
  | cons mark marks ih =>
    have ih := ih fun hm => h (List.mem_cons_of_mem _ hm)
    rw [List.flatMap_cons, List.splitOn_cons_eq_if_modifyHead]
    by_cases hslash : mark = .char '/'
    · subst hslash
      rw [if_pos (by simp)]
      show partsAtSlashes true ('/' :: marks.flatMap (PathMark.filled values)) = _
      rw [partsAtSlashes, if_pos (by decide), ih]
      rfl
    · have hback : mark ≠ .char '\\' := fun he => h (he ▸ List.mem_cons_self)
      rw [if_neg (by simpa using hslash), partsAtSlashes_plain_append _ fun c =>
        PathMark.isSlash_of_mem_filled hslash hback, ih]
      cases marks.splitOn (.char '/') <;> rfl

/-- The marks between separators are marks, and no separators. -/
theorem mem_of_mem_splitOn {marks segment : List PathMark} {separator mark : PathMark}
    (h : segment ∈ marks.splitOn separator) (hmark : mark ∈ segment) :
    mark ∈ marks ∧ mark ≠ separator := by
  induction marks generalizing segment with
  | nil =>
    cases List.mem_singleton.mp h
    cases hmark
  | cons first marks ih =>
    -- what was split off before this mark
    have hlater {segment : List PathMark} (h : segment ∈ marks.splitOn separator)
        (hmark : mark ∈ segment) : mark ∈ first :: marks ∧ mark ≠ separator :=
      (ih h hmark).imp_left (List.mem_cons_of_mem _)
    rw [List.splitOn_cons_eq_if_modifyHead] at h
    split at h
    · rcases List.mem_cons.mp h with rfl | h
      · cases hmark
      · exact hlater h hmark
    · next hfirst =>
      cases hs : marks.splitOn separator with
      | nil => exact absurd hs (List.splitOn_ne_nil _ _)
      | cons head rest =>
        rw [hs] at h
        rcases List.mem_cons.mp h with rfl | h
        · rcases List.mem_cons.mp hmark with rfl | hmark
          · exact ⟨List.mem_cons_self, by simpa using hfirst⟩
          · exact hlater (hs ▸ List.mem_cons_self) hmark
        · exact hlater (hs ▸ List.mem_cons_of_mem _ h) hmark

/-- A segment of a path with its values: mark by mark, and without a slash. -/
structure FilledAs (values : NameMap Json) (segment : List PathMark) (text : List Char) :
    Prop where
  marks : ∃ texts, List.Forall₂ (PathMark.WrittenAs values) segment texts ∧ text = texts.flatten
  one : '/' ∉ text

theorem not_slash_mem_escape {cs : List Char} (h : ∀ c ∈ cs, isSlash true c = false) :
    '/' ∉ escape escapedInPath cs := by
  intro hm
  have hall : ∀ c ∈ escape escapedInPath cs, c ≠ '/' := by
    refine forall_mem_escape (fun c hc _ => ?_) (by decide) (by decide)
    rintro rfl
    exact absurd (h '/' hc) (by decide)
  exact hall '/' hm rfl

/-- A segment without slashes is filled mark by mark, and escaped once. -/
theorem filledAs_filled {values : NameMap Json} {segment : List PathMark}
    (hvalues : ∀ name, .value name ∈ segment → ∃ v, values.get? name = some v)
    (hslash : .char '/' ∉ segment) (hback : .char '\\' ∉ segment) :
    FilledAs values segment (escape escapedInPath (segment.flatMap (PathMark.filled values))) := by
  refine ⟨⟨segment.map fun mark => escape escapedInPath (mark.filled values), ?_, ?_⟩, ?_⟩
  · rw [List.forall₂_map_right_iff, List.forall₂_same]
    exact fun mark hmark => PathMark.writtenAs_filled fun name he => hvalues name (he ▸ hmark)
  · induction segment with
    | nil => rfl
    | cons mark segment ih =>
      rw [List.flatMap_cons, escape_append, ih (fun name hn => hvalues name (.tail _ hn))
        (fun hm => hslash (.tail _ hm)) fun hm => hback (.tail _ hm)]
      rfl
  · refine not_slash_mem_escape fun c hc => ?_
    obtain ⟨mark, hmark, hc⟩ := List.mem_flatMap.mp hc
    exact PathMark.isSlash_of_mem_filled (fun he => hslash (he ▸ hmark))
      (fun he => hback (he ▸ hmark)) hc

/-! ## §5. The path of a request. -/

/-- Why a reader of URLs takes a base and a filled path for what they are. -/
structure ReadsAsWritten (base path : String) (values : NameMap Json) : Prop where
  /-- The base ends in no blank. -/
  base : EndsVisibly base.toList
  /-- Nor does the path. -/
  ending : EndsVisibly (filledPath values path)
  /-- The first segment is not empty, unless it is the only one. -/
  first : ∀ rest, filledSegments values path = [] :: rest → rest = []
  /-- No segment is `.` or `..`. -/
  plain : ∀ segment ∈ filledSegments values path, isAbove segment = false ∧ isHere segment = false

/-- A URL whose path has the segments of a base, and one for each segment of a path. -/
def BuiltOn (base : Url) (baseText path : String) (values : NameMap Json) (url : String) : Prop :=
  ∃ kept k segments query,
    -- the base may end in slashes; with a single one the segments kept stand in front of it
    base.path = .segments (kept ++ List.replicate k []) ∧
    Url.ofText (joinPath baseText "") = .ok { base with path := .segments (kept ++ [[]]) } ∧
    List.Forall₂ (FilledAs values) (templateSegments path) segments ∧
    url = Url.text { base with path := .segments (kept ++ segments), query := query }

/-- The slashes in front of a path are those in front of its marks. -/
theorem dropWhile_filled {values : NameMap Json} (marks : List PathMark)
    (h : ((marks.dropWhile (· == .char '/')).flatMap (PathMark.filled values)).head? ≠ some '/') :
    (marks.flatMap (PathMark.filled values)).dropWhile (· == '/')
      = (marks.dropWhile (· == .char '/')).flatMap (PathMark.filled values) := by
  induction marks with
  | nil => rfl
  | cons mark marks ih =>
    by_cases hslash : mark = .char '/'
    · subst hslash
      rw [List.dropWhile_cons_of_pos (by simp)] at h ⊢
      rw [← ih h]
      rfl
    · rw [List.dropWhile_cons_of_neg (by simpa using hslash)] at h ⊢
      cases hp : (mark :: marks).flatMap (PathMark.filled values) with
      | nil => rfl
      | cons c rest =>
        have hc : c ≠ '/' := fun he => h (by rw [hp, he]; rfl)
        exact List.dropWhile_cons_of_neg (by simpa using hc)

section Path

variable {base path : String} {values : NameMap Json}

/-- The path behind its slashes, as a text. -/
theorem dropWhile_filledPath (h : ReadsAsWritten base path values) (hback : '\\' ∉ path.toList) :
    (filledPath values path).dropWhile (· == '/')
        = ((pathMarks path).dropWhile (· == .char '/')).flatMap (PathMark.filled values) ∧
      (partsAtSlashes true ((filledPath values path).dropWhile (· == '/'))).map
        (escape escapedInPath) = filledSegments values path := by
  have hmarks : .char '\\' ∉ (pathMarks path).dropWhile (· == .char '/') := fun hm =>
    hback (char_mem_of_mark ((List.dropWhile_suffix _).subset hm))
  have hsegments : (partsAtSlashes true
      (((pathMarks path).dropWhile (· == .char '/')).flatMap (PathMark.filled values))).map
        (escape escapedInPath) = filledSegments values path := by
    rw [partsAtSlashes_filled hmarks, List.map_map]
    rfl
  have hdrop : (filledPath values path).dropWhile (· == '/')
      = ((pathMarks path).dropWhile (· == .char '/')).flatMap (PathMark.filled values) := by
    refine dropWhile_filled _ fun hhead => ?_
    -- otherwise the first segment would be empty, with another one behind it
    obtain ⟨rest, hrest⟩ := List.head?_eq_some_iff.mp hhead
    rw [hrest, partsAtSlashes, if_pos (by decide)] at hsegments
    have hnone := h.first _ hsegments.symm
    exact partsAtSlashes_ne_nil true rest (List.map_eq_nil_iff.mp hnone)
  exact ⟨hdrop, hdrop ▸ hsegments⟩

/-- A filled path has no mark that would end it. -/
theorem standsInPath_filledPath (h : ReadsAsWritten base path values)
    (hpath : ∀ c ∈ path.toList, c ∉ ['#', '?', '\\', '\t', '\n', '\r']) :
    StandsInPath ((filledPath values path).dropWhile (· == '/')) := by
  refine ⟨fun c hc => ?_, fun c hc => ?_⟩
  · -- a character comes from the template or from an escaped value
    obtain ⟨mark, hmark, hc⟩ := List.mem_flatMap.mp ((List.dropWhile_suffix _).subset hc)
    cases mark with
    | char d =>
      cases List.mem_singleton.mp hc
      have hplain := hpath c (char_mem_of_mark hmark)
      simp only [List.mem_cons, List.not_mem_nil, or_false, not_or] at hplain ⊢
      obtain ⟨hhash, hquery, -, hends⟩ := hplain
      exact ⟨hhash, hquery, hends⟩
    | value name =>
      cases hv : values.get? name with
      | none => simp [PathMark.filled, hv] at hc
      | some v =>
        simp only [PathMark.filled, hv, Option.map_some, Option.getD_some] at hc
        exact (plain_of_mem_pathValue hc).2.2
  · obtain ⟨front, hfront⟩ := List.dropWhile_suffix (l := filledPath values path) (· == '/')
    refine h.ending c ?_
    rw [← hfront, List.getLast?_append, hc]
    rfl

/-- Each segment is filled. -/
theorem filledAs_filledSegments (hback : '\\' ∉ path.toList)
    (hvalues : ∀ name, .value name ∈ pathMarks path → ∃ v, values.get? name = some v) :
    List.Forall₂ (FilledAs values) (templateSegments path) (filledSegments values path) := by
  unfold filledSegments
  rw [List.forall₂_map_right_iff, List.forall₂_same]
  intro segment hsegment
  have hmark {mark : PathMark} (hm : mark ∈ segment) : mark ∈ pathMarks path :=
    (List.dropWhile_suffix _).subset (mem_of_mem_splitOn hsegment hm).1
  exact filledAs_filled (fun name hname => hvalues name (hmark hname))
    (fun hm => (mem_of_mem_splitOn hsegment hm).2 rfl) fun hm => hback (char_mem_of_mark (hmark hm))

end Path

/-- **A PARAMETER STAYS INSIDE ITS SEGMENT.**  A request that was built goes to the segments of
its base with one segment for each of the path behind them. -/
theorem prepareOperation_segments {doc : ApiDocument} {server id : String} {t : Template}
    {credentials : AuthResult} {r : HttpRequest} {o : ApiOperation} {base : Url}
    (ho : (doc.operation? id).value = some o)
    (hr : (prepareOperation doc server id t credentials).value = .ok r)
    (hpath : ∀ c ∈ o.path.toList, c ∉ ['#', '?', '\\', '\t', '\n', '\r'])
    (hbase : Url.ofText (o.base server) = .ok base) (hscheme : IsHttp base.scheme)
    (hquery : base.query = none) (hfragment : base.fragment = none)
    (h : ReadsAsWritten (o.base server) o.path t.parameters.path) :
    BuiltOn base (o.base server) o.path t.parameters.path r.url := by
  obtain ⟨o', u, ho', hu, hfinish⟩ := prepareOperation_value_eq_ok hr
  rw [ho] at ho'
  cases ho'
  obtain ⟨path, hfill, hread⟩ := ApiOperation.url_eq_ok hu
  obtain ⟨htext, hvalues⟩ := fillPath_eq_ok hfill
  have hback : '\\' ∉ o.path.toList := fun hm => hpath _ hm (by decide)
  obtain ⟨kept, k, hkept, hjoin⟩ := ofText_joinPath hbase hscheme hquery hfragment h.base
  -- the filled path stands behind the base as it is written
  have hpathText : ofText (joinPath (o.base server) path) = .ok { base with
      path := .segments (kept ++ filledSegments t.parameters.path o.path) } := by
    rw [hjoin path (htext ▸ standsInPath_filledPath h hpath), htext,
      (dropWhile_filledPath h hback).2, resolveParts_of_plain kept h.plain]
  rw [hread] at hpathText
  cases hpathText
  obtain ⟨query, hurl⟩ := url_of_finish_draftOf hfinish rfl
  refine ⟨kept, k, filledSegments t.parameters.path o.path, query, hkept, ?_,
    filledAs_filledSegments hback hvalues, hurl⟩
  rw [hjoin "" ⟨nofun, nofun⟩]
  have hempty : (partsAtSlashes true ("".toList.dropWhile (· == '/'))).map (escape escapedInPath)
      = [[]] := rfl
  rw [hempty, resolveParts_of_plain kept (by decide)]

/-- An API with one operation, and a user in its path. -/
def usersApi : ApiDocument :=
  ⟨.ofMembers [("paths", .ofMembers [("/users/\x7bid\x7d/items",
    .ofMembers [("get", .ofMembers [("operationId", .string "list")])])])]⟩

def usersOperation : ApiOperation := ⟨"list", "GET", "/users/\x7bid\x7d/items", "", []⟩

/-- A template with the user of an id. -/
def userTemplate (id : String) : Template :=
  ⟨none, none, ⟨.empty, .empty, .ofList [("id", .string id)], .empty⟩, none⟩

def usersServer : String := "http://[::1]/v1/"

/-- The request for the items of a user. -/
def userRequest (id : String) : Except BuildError HttpRequest :=
  (prepareOperation usersApi usersServer "list" (userTemplate id) .empty).value

/-- The base of these requests. -/
def usersBase : Url :=
  ⟨"http".toList, some ⟨[], [], .ipv6 [0, 0, 0, 0, 0, 0, 0, 1], none⟩,
    .segments ["v1".toList, []], none, none⟩

/-- The operation of the document at hand. -/
theorem usersApi_operation : (usersApi.operation? "list").value = some usersOperation := by
  decide +kernel

/-- Its path has no mark that would end it. -/
theorem usersOperation_plain (c : Char) (h : c ∈ usersOperation.path.toList) :
    c ∉ ['#', '?', '\\', '\t', '\n', '\r'] := by
  have hall : usersOperation.path.toList.all
      (fun c => decide (c ∉ ['#', '?', '\\', '\t', '\n', '\r'])) = true := by
    decide +kernel
  exact of_decide_eq_true (List.all_eq_true.mp hall c h)

theorem ofText_usersBase : Url.ofText (usersOperation.base usersServer) = .ok usersBase := by
  decide +kernel

/-- A slash and a blank stay in the segment of the user. -/
theorem builtOn_userRequest : ∃ r, userRequest "a/b c" = .ok r ∧
    r.url = "http://[::1]/v1/users/a%2Fb%20c/items" ∧
    BuiltOn usersBase (usersOperation.base usersServer) usersOperation.path
      (userTemplate "a/b c").parameters.path r.url := by
  obtain ⟨r, hr, hurl⟩ := exists_of_toOption_map (userRequest "a/b c") (·.url)
    "http://[::1]/v1/users/a%2Fb%20c/items" (by decide +kernel)
  have hsegments : filledSegments (userTemplate "a/b c").parameters.path usersOperation.path
      = ["users".toList, "a%2Fb%20c".toList, "items".toList] := by
    decide +kernel
  have hreads : ReadsAsWritten (usersOperation.base usersServer) usersOperation.path
      (userTemplate "a/b c").parameters.path := by
    refine ⟨by decide +kernel, by decide +kernel, fun rest h => ?_, ?_⟩
    · rw [hsegments] at h
      cases h
    · rw [hsegments]
      decide
  exact ⟨r, hr, hurl, prepareOperation_segments usersApi_operation hr usersOperation_plain
    ofText_usersBase (.inl rfl) rfl rfl hreads⟩

/-- Every segment has a slash in front of it. -/
theorem length_le_count_segmentsText (parts : List (List Char)) :
    parts.length ≤ (segmentsText parts).count '/' := by
  induction parts with
  | nil => exact Nat.le_refl 0
  | cons part parts ih =>
    have hcons : segmentsText (part :: parts) = '/' :: (part ++ segmentsText parts) := rfl
    rw [hcons, List.count_cons_self, List.count_append, List.length_cons]
    omega

/-- Behind an authority all segments are written. -/
theorem pathText_of_authority (parts : List (List Char)) :
    pathText true (.segments parts) = segmentsText parts := by
  unfold pathText
  dsimp only
  split
  · rfl
  · rfl

/-- The user `..` is taken for a step up, and the segment in front of it is gone. -/
theorem not_builtOn_above : ∃ r, userRequest ".." = .ok r ∧
    r.url = "http://[::1]/v1/items" ∧
    (usersApi.operation? "list").value = some usersOperation ∧
    (∀ c ∈ usersOperation.path.toList, c ∉ ['#', '?', '\\', '\t', '\n', '\r']) ∧
    Url.ofText (usersOperation.base usersServer) = .ok usersBase ∧
    ¬ BuiltOn usersBase (usersOperation.base usersServer) usersOperation.path
      (userTemplate "..").parameters.path r.url := by
  obtain ⟨r, hr, hurl⟩ := exists_of_toOption_map (userRequest "..") (·.url)
    "http://[::1]/v1/items" (by decide +kernel)
  refine ⟨r, hr, hurl, usersApi_operation, usersOperation_plain, ofText_usersBase, ?_⟩
  rintro ⟨kept, k, segments, query, -, -, hfilled, htext⟩
  -- the authority and three segments have five slashes, the URL has four
  have hlength : 3 = segments.length := by
    have htemplate : (templateSegments usersOperation.path).length = 3 := by decide +kernel
    rw [← htemplate, hfilled.length_eq]
  have hcount : r.url.toList.count '/' = 4 := by
    rw [hurl]
    decide +kernel
  have hparts := length_le_count_segmentsText (kept ++ segments)
  have hlist : r.url.toList = "http://[::1]".toList ++ (segmentsText (kept ++ segments)
      ++ marked '?' query) := by
    have hfront : usersBase.scheme ++ ':' :: (Authority.text ⟨[], [],
        .ipv6 [0, 0, 0, 0, 0, 0, 0, 1], none⟩) = "http://[::1]".toList := by
      decide +kernel
    rw [htext, Url.text, String.toList_ofList, ← hfront, ← pathText_of_authority]
    simp [Url.toList, usersBase, marked]
  rw [hlist, List.count_append, List.count_append] at hcount
  rw [List.length_append] at hparts
  have hfront : "http://[::1]".toList.count '/' = 2 := by decide
  omega

end ApiPlaybook
