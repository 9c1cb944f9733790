/-
  ApiPlaybook.Proofs.Url.Hierarchies
  ──────────────────────────────────
  **WHAT STANDS BEHIND A SCHEME IS READ AGAIN.**

  Behind the scheme of a URL that was read stand an authority with segments,
  segments alone or a free path, their characters escaped (`IsHierarchy`).  The
  text of each of them is read without an error (`IsHierarchy.exists_hierarchyOf`):

      a file        has neither a user nor a port,
      an authority  is told from its path by the slash,
      segments      that could be taken for an authority follow a full stop.

  The path may be another one when it is read again: a drive letter behind empty
  parts of a `file` URL is found only then.
-/
import ApiPlaybook.Proofs.Url.Authorities

namespace ApiPlaybook.Url

/-! ## §1. Paths. -/

/-- Segments as they were read: escaped where they have to be, without a slash. -/
def AreSegments (parts : List (List Char)) : Prop :=
  ∀ part ∈ parts, ∀ c ∈ part, escapedInPath c = false ∧ c ≠ '/'

/-- No part between slashes has a slash. -/
theorem mem_partsAtSlashes {special : Bool} {cs part : List Char}
    (h : part ∈ partsAtSlashes special cs) : ∀ c ∈ part, isSlash special c = false := by
  induction cs generalizing part with
  | nil =>
    rw [List.mem_singleton.mp h]
    exact fun _ hc => absurd hc List.not_mem_nil
  | cons d cs ih =>
    rw [partsAtSlashes] at h
    split at h
    · rcases List.mem_cons.mp h with rfl | h
      · exact fun _ hc => absurd hc List.not_mem_nil
      · exact ih h
    · -- a character that is no slash goes to the first part
      next hd =>
      cases hparts : partsAtSlashes special cs with
      | nil => exact absurd hparts (partsAtSlashes_ne_nil special cs)
      | cons first more =>
        rw [hparts] at h ih
        rcases List.mem_cons.mp h with rfl | h
        · intro c hc
          rcases List.mem_cons.mp hc with rfl | hc
          · exact Bool.eq_false_iff.mpr hd
          · exact ih List.mem_cons_self c hc
        · exact ih (List.mem_cons_of_mem _ h)

/-- Walking over a part adds at most this part. -/
theorem mem_walkPart {done : List (List Char)} {first part : List Char}
    (h : part ∈ walkPart done first) : part ∈ done ∨ part = first := by
  unfold walkPart at h
  split at h
  · left
    unfold shorten at h
    split at h
    · exact h
    · exact List.dropLast_subset _ h
  · split at h
    · exact .inl h
    · exact (List.mem_append.mp h).imp_right List.mem_singleton.mp

/-- A walk reaches no part that it was not given. -/
theorem mem_foldl_walkPart {done parts : List (List Char)} {part : List Char}
    (h : part ∈ parts.foldl walkPart done) : part ∈ done ∨ part ∈ parts := by
  induction parts generalizing done with
  | nil => exact .inl h
  | cons first rest ih =>
    rcases ih h with h | h
    · rcases mem_walkPart h with h | rfl
      · exact .inl h
      · exact .inr List.mem_cons_self
    · exact .inr (List.mem_cons_of_mem _ h)

/-- What a path is resolved to has escaped segments without slashes. -/
theorem areSegments_segmentsOf {special : Bool} {cs : List Char} :
    AreSegments (segmentsOf special cs) := by
  intro part hpart
  obtain ⟨k, hk⟩ := exists_resolveParts_eq [] ((partsAtSlashes special cs).map (escape escapedInPath))
  unfold segmentsOf at hpart
  rw [hk] at hpart
  -- a part of the text, or the empty one that a move leaves at the end
  rcases List.mem_append.mp hpart with hpart | hpart
  · rcases mem_foldl_walkPart hpart with hpart | hpart
    · cases hpart
    · obtain ⟨piece, hpiece, rfl⟩ := List.mem_map.mp hpart
      refine forall_mem_escape (fun c hc hplain => ⟨hplain, ?_⟩) (by decide) (by decide)
      rintro rfl
      have hslash := mem_partsAtSlashes hpiece '/' hc
      cases special <;> cases hslash
  · rw [List.eq_of_mem_replicate hpart]
    exact fun _ hc => absurd hc List.not_mem_nil

theorem areSegments_pathBehindAuthority (special : Bool) (cs : List Char) :
    ∃ parts, pathBehindAuthority special cs = .segments parts ∧ AreSegments parts := by
  unfold pathBehindAuthority
  split
  · exact ⟨[], rfl, nofun⟩
  · exact ⟨_, rfl, areSegments_segmentsOf⟩

/-- Writing a drive letter in its usual form keeps that. -/
theorem areSegments_withDriveLetter {parts : List (List Char)} (h : AreSegments parts) :
    AreSegments (withDriveLetter parts) := by
  have hcolon : escapedInPath ':' = false ∧ ':' ≠ '/' := by decide
  cases parts with
  | nil => exact nofun
  | cons first rest =>
    obtain ⟨hfirst, hrest⟩ := List.forall_mem_cons.mp h
    unfold withDriveLetter
    dsimp only
    split
    · -- a bar becomes a colon
      refine List.forall_mem_cons.mpr ⟨?_, hrest⟩
      split
      · intro c hc
        rcases List.mem_cons.mp hc with rfl | hc
        · exact hfirst c List.mem_cons_self
        · rw [List.mem_singleton.mp hc]
          exact hcolon
      · exact hfirst
    · split
      · refine List.forall_mem_cons.mpr ⟨fun c hc => ?_, List.forall_mem_cons.mpr ⟨fun c hc => ?_, hrest⟩⟩
        · rcases List.mem_cons.mp hc with rfl | hc
          · exact hfirst c List.mem_cons_self
          · rw [List.mem_singleton.mp hc]
            exact hcolon
        · exact hfirst c (List.mem_cons_of_mem _ (List.mem_cons_of_mem _ hc))
      · exact h
    · exact h

/-- What is left behind the empty segments in front was there before. -/
theorem mem_withoutEmptyFront {parts : List (List Char)} {part : List Char}
    (h : part ∈ withoutEmptyFront parts) : part ∈ parts := by
  induction parts using withoutEmptyFront.induct with
  | case1 second rest ih =>
    rw [withoutEmptyFront] at h
    exact List.mem_cons_of_mem _ (ih h)
  | case2 parts hnot =>
    rw [withoutEmptyFront] at h
    · exact h
    · exact hnot

/-! ## §2. Files. -/

/-- The host of a `file` URL; it may be missing. -/
def fileHost (cs : List Char) : Except UrlError Host :=
  if cs.isEmpty then .ok (.name []) else Host.ofSpecial cs

/-- What a host and the text of a path make: in front of a drive letter stands no host. -/
def fileAt (host : Host) (path : List Char) : Authority × Path :=
  let parts := withDriveLetter (segmentsOf true (behindSlash true path))
  (⟨[], [], if host == .name "localhost".toList || parts.head?.any isDriveLetter then .name []
    else host, none⟩, .segments (withoutEmptyFront parts))

/-- The text of the host and the text behind it. -/
def fileCut : List Char → List Char × List Char
  | a :: b :: rest =>
    if isSlash true a && isSlash true b then
      let hostText := rest.takeWhile fun c => !isSlash true c
      if isDriveLetter hostText then ([], rest)
      else (hostText, rest.dropWhile fun c => !isSlash true c)
    else ([], a :: b :: rest)
  | cs => ([], cs)

/-- The URL of a file in parts: the text is cut, the host is read and the path is resolved. -/
theorem fileOf_eq (cs : List Char) :
    fileOf cs = (fileHost (fileCut cs).1).map (fileAt · (fileCut cs).2) := by
  have hcut : fileOf cs = if (fileCut cs).1.isEmpty then .ok (fileAt (.name []) (fileCut cs).2)
      else (Host.ofSpecial (fileCut cs).1).bind fun host => .ok (fileAt host (fileCut cs).2) := by
    rcases cs with _ | ⟨a, _ | ⟨b, rest⟩⟩ <;> rfl
  rw [hcut]
  unfold fileHost
  split
  · rfl
  · cases Host.ofSpecial (fileCut cs).1 <;> rfl

/-- What every authority of a `file` URL satisfies. -/
structure Authority.IsFile (a : Authority) : Prop where
  username : a.username = []
  password : a.password = []
  port : a.port = none
  host : a.host = .name [] ∨ a.host.Rereads true

/-- What is read as the URL of a file has a host or none, and segments. -/
theorem isFile_of_fileOf {cs : List Char} {r : Authority × Path} (h : fileOf cs = .ok r) :
    r.1.IsFile ∧ ∃ parts, r.2 = .segments parts ∧ AreSegments parts := by
  rw [fileOf_eq] at h
  obtain ⟨host, hhost, rfl⟩ := map_eq_ok.mp h
  constructor
  · refine ⟨rfl, rfl, rfl, ?_⟩
    show (if _ then _ else _) = _ ∨ Host.Rereads true (if _ then _ else _)
    split
    · exact .inl rfl
    · unfold fileHost at hhost
      split at hhost
      · cases hhost
        exact .inl rfl
      · exact .inr (Host.rereads_ofSpecial hhost).1
  · refine ⟨_, rfl, fun part hpart => ?_⟩
    exact areSegments_withDriveLetter areSegments_segmentsOf part (mem_withoutEmptyFront hpart)

/-! ## §3. What stands behind a scheme. -/

/-- What was read behind a scheme. -/
inductive IsHierarchy (scheme : List Char) : Option Authority → Path → Prop
  | file {a : Authority} {parts : List (List Char)} (hscheme : scheme = "file".toList)
    (ha : a.IsFile) (hparts : AreSegments parts) : IsHierarchy scheme (some a) (.segments parts)
  | named {a : Authority} {parts : List (List Char)} (hscheme : scheme ≠ "file".toList)
    (ha : a.IsRead scheme) (hnamed : isSpecial scheme = true → a.host ≠ .name [])
    (hparts : AreSegments parts) : IsHierarchy scheme (some a) (.segments parts)
  | rooted {parts : List (List Char)} (hspecial : isSpecial scheme = false)
    (hparts : AreSegments parts) : IsHierarchy scheme none (.segments parts)
  | free {text : List Char} (hspecial : isSpecial scheme = false)
    (htext : ∀ c ∈ text, escapedAlways c = false ∧ c ∉ ['#', '?'])
    (hstart : text.head? ≠ some '/') : IsHierarchy scheme none (.free text)

/-- An authority and a path as they are written. -/
def hierarchyText (authority : Option Authority) (path : Path) : List Char :=
  (match authority with
    | some a => a.text
    | none => []) ++ pathText authority.isSome path

theorem hierarchyText_some (a : Authority) (path : Path) :
    hierarchyText (some a) path = '/' :: '/' :: (a.inner ++ pathText true path) :=
  congrArg (· ++ pathText true path) a.text_eq

/-- What is read behind two slashes is an authority and segments. -/
theorem isHierarchy_of_authorityOf {scheme cs : List Char} {more : Bool} {r : Authority × Path}
    (hscheme : scheme ≠ "file".toList) (h : authorityOf scheme cs more = .ok r) :
    IsHierarchy scheme (some r.1) r.2 ∧ ∀ text, r.2 ≠ .free text := by
  obtain ⟨ha, hnamed, text, hpath⟩ := isRead_of_authorityOf h
  obtain ⟨parts, hparts, hread⟩ := areSegments_pathBehindAuthority (isSpecial scheme) text
  rw [hpath, hparts]
  exact ⟨.named hscheme ha hnamed hread, nofun⟩

/-- A text does not start differently because it is escaped. -/
theorem head?_of_escape {mustEscape : Char → Bool} {cs : List Char} {c : Char} (hc : c ≠ '%')
    (h : (escape mustEscape cs).head? = some c) : cs.head? = some c := by
  cases cs with
  | nil => cases h
  | cons d cs =>
    rw [escape_cons] at h
    split at h
    · obtain ⟨rest, hrest⟩ := exists_escapedChar_eq d
      rw [hrest] at h
      exact absurd (Option.some.inj h).symm hc
    · exact h

/-- What is read behind a scheme is well formed, and free text is as it was, escaped. -/
theorem isHierarchy_of_hierarchyOf {scheme cs : List Char} {more : Bool}
    {r : Option Authority × Path} (hmarks : ∀ c ∈ cs, c ∉ ['#', '?'])
    (h : hierarchyOf scheme cs more = .ok r) :
    IsHierarchy scheme r.1 r.2 ∧ ∀ text, r.2 = .free text → text = escape escapedAlways cs := by
  unfold hierarchyOf at h
  split at h
  · next hfile =>
    obtain ⟨⟨a, path⟩, hread, h⟩ := bind_eq_ok.mp h
    cases h
    obtain ⟨ha, parts, hpath, hparts⟩ := isFile_of_fileOf hread
    dsimp only at hpath
    rw [hpath]
    exact ⟨.file (eq_of_beq hfile) ha hparts, nofun⟩
  next hfile =>
  have hfile : scheme ≠ "file".toList := by simpa using hfile
  split at h
  · obtain ⟨⟨a, path⟩, hread, h⟩ := bind_eq_ok.mp h
    cases h
    obtain ⟨hnamed, hpath⟩ := isHierarchy_of_authorityOf hfile hread
    exact ⟨hnamed, fun text hfree => absurd hfree (hpath text)⟩
  next hspecial =>
  have hspecial : isSpecial scheme = false := Bool.eq_false_iff.mpr hspecial
  split at h
  · obtain ⟨⟨a, path⟩, hread, h⟩ := bind_eq_ok.mp h
    cases h
    obtain ⟨hnamed, hpath⟩ := isHierarchy_of_authorityOf hfile hread
    exact ⟨hnamed, fun text hfree => absurd hfree (hpath text)⟩
  · cases h
    exact ⟨.rooted hspecial areSegments_segmentsOf, nofun⟩
  · next hnot =>
    cases h
    refine ⟨.free hspecial ?_ fun hslash => ?_, fun text hfree => (Path.free.inj hfree).symm⟩
    · -- a path that is free text does not begin with a slash
      exact forall_mem_escape (fun c hc hplain => ⟨hplain, hmarks c hc⟩) (by decide) (by decide)
    · have hslash := head?_of_escape (by decide) hslash
      cases cs with
      | nil => cases hslash
      | cons c cs =>
        cases hslash
        exact hnot cs rfl

/-- Without an authority a full stop may stand in front of the segments. -/
theorem pathText_segments (hasAuthority : Bool) (parts : List (List Char)) :
    pathText hasAuthority (.segments parts) = segmentsText parts ∨
      pathText hasAuthority (.segments parts) = '/' :: '.' :: segmentsText parts := by
  unfold pathText
  dsimp only
  split
  · cases hasAuthority
    · exact .inr rfl
    · exact .inl rfl
  · exact .inl rfl

/-- The text of segments begins with a slash. -/
theorem head?_pathText (hasAuthority : Bool) (parts : List (List Char)) :
    ∀ c, (pathText hasAuthority (.segments parts)).head? = some c → c = '/' := by
  intro c hc
  rcases pathText_segments hasAuthority parts with htext | htext
  · rw [htext] at hc
    cases parts with
    | nil => cases hc
    | cons part parts => exact (Option.some.inj hc).symm
  · rw [htext] at hc
    exact (Option.some.inj hc).symm

/-- What is not escaped in a path is visible, and ends no path. -/
theorem visible_of_path {c : Char} (h : escapedInPath c = false) : ' ' < c ∧ c ∉ ['#', '?'] :=
  forall_of_not_escaped (P := fun c => ' ' < c ∧ c ∉ ['#', '?'])
    (fun c hc => by simp [escapedInPath, escapedInFragment, hc]) (by decide) h

/-- No segment has a blank or a mark that begins a query or a fragment. -/
theorem AreSegments.mem_segmentsText {parts : List (List Char)} (h : AreSegments parts) {c : Char}
    (hc : c ∈ segmentsText parts) : ' ' < c ∧ c ∉ ['#', '?'] := by
  obtain ⟨part, hpart, hc⟩ := List.mem_flatMap.mp hc
  rcases List.mem_cons.mp hc with rfl | hc
  · decide
  · exact visible_of_path (h part hpart c hc).1

theorem AreSegments.mem_pathText {parts : List (List Char)} (h : AreSegments parts)
    {hasAuthority : Bool} {c : Char} (hc : c ∈ pathText hasAuthority (.segments parts)) :
    ' ' < c ∧ c ∉ ['#', '?'] := by
  rcases pathText_segments hasAuthority parts with htext | htext
  · exact h.mem_segmentsText (htext ▸ hc)
  · rw [htext] at hc
    rcases List.mem_cons.mp hc with rfl | hc
    · decide
    rcases List.mem_cons.mp hc with rfl | hc
    · decide
    · exact h.mem_segmentsText hc

/-- Segments without an authority do not look like one. -/
theorem AreSegments.pathText_ne {parts : List (List Char)} (h : AreSegments parts)
    (rest : List Char) : pathText false (.segments parts) ≠ '/' :: '/' :: rest := by
  intro heq
  -- behind an empty first segment there is the full stop, behind another one its first character
  rcases parts with _ | ⟨_ | ⟨c, part⟩, _ | ⟨second, parts⟩⟩
  · cases heq
  · cases heq
  · cases heq
  · have hc : c = '/' := (List.cons.inj (List.cons.inj heq).2).1
    exact (h _ List.mem_cons_self c List.mem_cons_self).2 hc
  · have hc : c = '/' := (List.cons.inj (List.cons.inj heq).2).1
    exact (h _ List.mem_cons_self c List.mem_cons_self).2 hc

theorem Authority.IsFile.isRead {a : Authority} (h : a.IsFile) : a.IsRead "file".toList where
  user := by
    rw [h.username, h.password]
    exact nofun
  port := by
    rw [h.port]
    exact nofun
  host := h.host
  bare := fun _ => ⟨h.username, h.password, h.port⟩

section Hierarchy

variable {scheme : List Char} {authority : Option Authority} {path : Path}

/-- Behind an authority stand segments, and both are visible. -/
theorem IsHierarchy.visible {parts : List (List Char)}
    (h : IsHierarchy scheme authority (.segments parts)) {c : Char}
    (hc : c ∈ hierarchyText authority (.segments parts)) : ' ' < c ∧ c ∉ ['#', '?'] := by
  have hnamed {a : Authority} {s : List Char} (ha : a.IsRead s) (hparts : AreSegments parts)
      (hc : c ∈ hierarchyText (some a) (.segments parts)) : ' ' < c ∧ c ∉ ['#', '?'] := by
    rw [hierarchyText_some] at hc
    rcases List.mem_cons.mp hc with rfl | hc
    · decide
    rcases List.mem_cons.mp hc with rfl | hc
    · decide
    rcases List.mem_append.mp hc with hc | hc
    · obtain ⟨hvisible, hnot⟩ := ha.mem_inner hc
      refine ⟨hvisible, fun hmem => hnot ?_⟩
      simp only [List.mem_cons, List.not_mem_nil, or_false] at hmem ⊢
      tauto
    · exact hparts.mem_pathText hc
  cases h with
  | file hscheme ha hparts => exact hnamed ha.isRead hparts hc
  | named hscheme ha hhost hparts => exact hnamed ha hparts hc
  | rooted hspecial hparts => exact hparts.mem_pathText hc

/-- A hierarchy that was read has no mark of a query or a fragment in its text. -/
theorem IsHierarchy.mem_text (h : IsHierarchy scheme authority path) {c : Char}
    (hc : c ∈ hierarchyText authority path) : ' ' ≤ c ∧ c ∉ ['#', '?'] := by
  cases path with
  | segments parts =>
    obtain ⟨hvisible, hnot⟩ := h.visible hc
    exact ⟨Nat.le_of_lt hvisible, hnot⟩
  | free text =>
    cases h with
    | free hspecial htext hstart =>
      obtain ⟨hplain, hnot⟩ := htext c hc
      exact ⟨(escapedAlways_eq_false.mp hplain).1, hnot⟩

/-- Its text ends visibly, since only free text may end in blanks. -/
theorem IsHierarchy.endsVisibly (h : IsHierarchy scheme authority path)
    (hfree : ∀ text, path = .free text → EndsVisibly text) :
    EndsVisibly (hierarchyText authority path) := by
  cases path with
  | segments parts =>
    intro c hc
    exact (h.visible (List.mem_of_getLast? hc)).1
  | free text =>
    cases h with
    | free hspecial htext hstart => exact hfree text rfl

/-- A file is read again. -/
theorem Authority.IsFile.fileOf {a : Authority} (h : a.IsFile) {path : List Char}
    (hpath : ∀ c, path.head? = some c → c = '/') : ∃ r, fileOf ('/' :: '/' :: (a.inner ++ path)) = .ok r := by
  obtain ⟨htake, hdrop⟩ := takeWhile_dropWhile_inner h.isRead true hpath
  have hinner : a.inner = a.host.text := by
    unfold Authority.inner Authority.address
    rw [h.username, h.password, h.port]
    exact List.append_nil _
  have hhost : ∃ host, fileHost a.host.text = .ok host := by
    unfold fileHost
    split
    · exact ⟨_, rfl⟩
    · next hsome =>
      rcases h.host with hempty | hrereads
      · rw [hempty] at hsome
        exact absurd rfl hsome
      · exact ⟨a.host, hrereads.reads⟩
  -- a host that looks like a drive letter is taken for the path, and then there is no host
  have hcut : (fileCut ('/' :: '/' :: (a.inner ++ path))).1 = []
      ∨ (fileCut ('/' :: '/' :: (a.inner ++ path))).1 = a.host.text := by
    have hslashes : (isSlash true '/' && isSlash true '/') = true := by decide
    unfold fileCut
    dsimp only
    rw [if_pos hslashes, htake, hinner]
    split
    · exact .inl rfl
    · exact .inr rfl
  rw [fileOf_eq]
  rcases hcut with hcut | hcut
  · rw [hcut]
    exact ⟨_, rfl⟩
  · obtain ⟨host, hhost⟩ := hhost
    rw [hcut, hhost]
    exact ⟨_, rfl⟩

/-- An authority with a host has a text. -/
theorem Authority.IsRead.inner_ne_nil {a : Authority} (hhost : a.host ≠ .name []) :
    a.inner ≠ [] := by
  intro hnil
  exact hhost (Host.text_eq_nil (List.append_eq_nil_iff.mp (List.append_eq_nil_iff.mp hnil).2).1)

/-- Behind any number of slashes stands the authority of a special scheme. -/
theorem Authority.IsRead.dropWhile_slashes {a : Authority} (h : a.IsRead scheme)
    (hhost : a.host ≠ .name []) (path : List Char) :
    ('/' :: '/' :: (a.inner ++ path)).dropWhile (isSlash true) = a.inner ++ path := by
  obtain ⟨c, inner, hinner⟩ := List.exists_cons_of_ne_nil (Authority.IsRead.inner_ne_nil hhost)
  have hc : isSlash true c = false := by
    have hnot := (h.mem_inner (hinner ▸ List.mem_cons_self : c ∈ a.inner)).2
    simp only [List.mem_cons, not_or] at hnot
    simp [isSlash, hnot.1, hnot.2.1]
  have hslash : isSlash true '/' = true := by decide
  rw [hinner, List.dropWhile_cons_of_pos hslash, List.dropWhile_cons_of_pos hslash,
    List.cons_append, List.dropWhile_cons_of_neg (by simp [hc])]

/-- Under other schemes an authority stands behind two slashes. -/
theorem hierarchyOf_slashes (hfile : scheme ≠ "file".toList) (hspecial : isSpecial scheme = false)
    (cs : List Char) (more : Bool) : hierarchyOf scheme ('/' :: '/' :: cs) more
      = (authorityOf scheme cs more).map fun r => (some r.1, r.2) := by
  unfold hierarchyOf
  rw [if_neg (by simpa using hfile), if_neg (by simp [hspecial])]
  show (authorityOf scheme cs more).bind (fun r => .ok (some r.1, r.2)) = _
  cases authorityOf scheme cs more <;> rfl

/-- Under other schemes what does not look like an authority is a path. -/
theorem exists_hierarchyOf_of_other {cs : List Char} (hspecial : isSpecial scheme = false)
    (hcs : ∀ rest, cs ≠ '/' :: '/' :: rest) (more : Bool) :
    ∃ r, hierarchyOf scheme cs more = .ok r := by
  have hfile : ¬ (scheme == "file".toList) = true := by
    intro hfile
    rw [eq_of_beq hfile] at hspecial
    exact absurd hspecial (by decide)
  unfold hierarchyOf
  rw [if_neg hfile, if_neg (by simp [hspecial])]
  split
  · exact absurd rfl (hcs _)
  · exact ⟨_, rfl⟩
  · exact ⟨_, rfl⟩

/-- **WHAT STANDS BEHIND A SCHEME IS READ AGAIN.** -/
theorem IsHierarchy.exists_hierarchyOf (h : IsHierarchy scheme authority path) (more : Bool) :
    ∃ r, hierarchyOf scheme (hierarchyText authority path) more = .ok r := by
  cases h with
  | @file a parts hscheme ha hparts =>
    obtain ⟨r, hr⟩ := ha.fileOf (head?_pathText true parts)
    unfold hierarchyOf
    rw [if_pos (beq_iff_eq.mpr hscheme), hierarchyText_some, hr]
    exact ⟨_, rfl⟩
  | @named a parts hscheme ha hhost hparts =>
    obtain ⟨r, hr⟩ := ha.authorityOf hhost (head?_pathText true parts) more
    rw [hierarchyText_some]
    cases hspecial : isSpecial scheme with
    | true =>
      rw [hierarchyOf_special hscheme hspecial, ha.dropWhile_slashes (hhost hspecial), hr]
      exact ⟨_, rfl⟩
    | false =>
      rw [hierarchyOf_slashes hscheme hspecial, hr]
      exact ⟨_, rfl⟩
  | rooted hspecial hparts =>
    exact exists_hierarchyOf_of_other hspecial hparts.pathText_ne more
  | @free text hspecial htext hstart =>
    -- free text does not begin with a slash, so no authority is looked for
    refine exists_hierarchyOf_of_other hspecial (fun rest heq => hstart ?_) more
    exact congrArg List.head? heq

end Hierarchy

end ApiPlaybook.Url
