/-
  ApiPlaybook.Proofs.Url.Authorities
  ──────────────────────────────────
  **AN AUTHORITY IS READ BACK.**

  What is read as an authority has its user and password escaped, a host that is
  read back, and a port in range; without a host it has neither user nor port
  (`Authority.IsRead`).  The text of such an authority, with any path behind it,
  is read without an error (`IsRead.authorityOf`).
-/
import ApiPlaybook.Proofs.Url.Bases
import ApiPlaybook.Proofs.Url.Hosts

namespace ApiPlaybook.Url

/-! ## §1. Behind the user. -/

/-- The port of an authority, and the text behind it. -/
def portIn (scheme : List Char) : Option (List Char) → Except UrlError (Option Nat × List Char)
  | some text => portOf scheme text
  | none => .ok (none, [])

/-- The authority and the path, once the user is told from the address. -/
def addressOf (scheme username password address path : List Char) :
    Except UrlError (Authority × Path) :=
  let (hostText, portText) := splitPort false address
  if isSpecial scheme && hostText.isEmpty then .error .emptyHost
  else (hostOf (isSpecial scheme) hostText).bind fun host =>
    if host.isEmpty && portText.isSome then .error .emptyHost
    else (portIn scheme portText).bind fun (port, behind) =>
      if host.isEmpty && !(username.isEmpty && password.isEmpty) then .error .emptyHost
      else .ok (⟨username, password, host, port⟩,
        pathBehindAuthority (isSpecial scheme) (behind ++ path))

/-- The reader of an authority in parts: the user before the last `@`, then the address. -/
theorem authorityOf_eq (scheme cs : List Char) (more : Bool) :
    authorityOf scheme cs more =
      let front := cs.takeWhile fun c => !isSlash (isSpecial scheme) c
      let path := cs.dropWhile fun c => !isSlash (isSpecial scheme) c
      match splitLast '@' front with
      | none => addressOf scheme [] [] front path
      | some ([], address) =>
        if address.isEmpty && (more || !path.isEmpty) then .error .emptyHost
        else addressOf scheme [] [] address path
      | some (user, address) =>
        addressOf scheme (userInfoOf user).1 (userInfoOf user).2 address path := by
  unfold authorityOf addressOf
  dsimp only
  generalize isSpecial scheme = special
  generalize cs.takeWhile (fun c => !isSlash special c) = front
  generalize cs.dropWhile (fun c => !isSlash special c) = path
  cases splitLast '@' front with
  | none =>
    simp only [pure_bind]
    -- both sides refuse at the same places, for either kind of scheme
    rcases splitPort false front with ⟨hostText, _ | text⟩ <;> cases special <;> rfl
  | some r =>
    obtain ⟨_ | ⟨c, user⟩, address⟩ := r
    · by_cases hnobody : (address.isEmpty && (more || !path.isEmpty)) = true
      · simp only [hnobody, if_true]
        rfl
      · simp only [hnobody, pure_bind]
        rcases splitPort false address with ⟨hostText, _ | text⟩ <;> cases special <;> rfl
    · simp only [pure_bind]
      rcases splitPort false address with ⟨hostText, _ | text⟩ <;> cases special <;> rfl

/-- A computation in two steps succeeds when both do. -/
theorem bind_eq_ok {ε α β : Type} {e : Except ε α} {f : α → Except ε β} {b : β} :
    e.bind f = .ok b ↔ ∃ a, e = .ok a ∧ f a = .ok b := by
  cases e with
  | error e => exact ⟨nofun, nofun⟩
  | ok a => exact ⟨fun h => ⟨a, rfl, h⟩, fun ⟨_, ha, h⟩ => by cases ha; exact h⟩

/-- A mapped result is the image of a result. -/
theorem map_eq_ok {ε α β : Type} {e : Except ε α} {f : α → β} {b : β} :
    e.map f = .ok b ↔ ∃ a, e = .ok a ∧ f a = b := by
  cases e with
  | error e => exact ⟨nofun, nofun⟩
  | ok a =>
    exact ⟨fun h => ⟨a, rfl, Except.ok.inj h⟩, fun ⟨_, ha, h⟩ => by cases ha; exact congrArg _ h⟩

/-- A check that may refuse has let pass what is read behind it. -/
theorem ite_error_eq_ok {ε α : Type} {c : Prop} [Decidable c] {e : ε} {x : Except ε α} {a : α} :
    (if c then .error e else x) = .ok a ↔ ¬ c ∧ x = .ok a := by
  by_cases h : c
  · rw [if_pos h]
    exact ⟨nofun, fun hnot => absurd h hnot.1⟩
  · rw [if_neg h]
    exact ⟨fun hx => ⟨h, hx⟩, And.right⟩

/-- An authority is read if there is a host wherever one is needed. -/
theorem addressOf_eq_ok {scheme username password address path : List Char}
    {r : Authority × Path} : addressOf scheme username password address path = .ok r ↔
      ∃ host port behind,
        ¬ (isSpecial scheme && (splitPort false address).1.isEmpty) = true ∧
        hostOf (isSpecial scheme) (splitPort false address).1 = .ok host ∧
        ¬ (host.isEmpty && (splitPort false address).2.isSome) = true ∧
        portIn scheme (splitPort false address).2 = .ok (port, behind) ∧
        ¬ (host.isEmpty && !(username.isEmpty && password.isEmpty)) = true ∧
        r = (⟨username, password, host, port⟩,
          pathBehindAuthority (isSpecial scheme) (behind ++ path)) := by
  unfold addressOf
  dsimp only
  rw [ite_error_eq_ok, bind_eq_ok]
  constructor
  · rintro ⟨hsome, host, hhost, h⟩
    obtain ⟨hport, h⟩ := ite_error_eq_ok.mp h
    obtain ⟨⟨port, behind⟩, hread, h⟩ := bind_eq_ok.mp h
    obtain ⟨hbare, h⟩ := ite_error_eq_ok.mp h
    exact ⟨host, port, behind, hsome, hhost, hport, hread, hbare, (Except.ok.inj h).symm⟩
  · rintro ⟨host, port, behind, hsome, hhost, hport, hread, hbare, rfl⟩
    refine ⟨hsome, host, hhost, ite_error_eq_ok.mpr ⟨hport, ?_⟩⟩
    exact bind_eq_ok.mpr ⟨(port, behind), hread, ite_error_eq_ok.mpr ⟨hbare, rfl⟩⟩

/-! ## §2. What was read. -/

/-- What every authority that was read satisfies. -/
structure Authority.IsRead (scheme : List Char) (a : Authority) : Prop where
  user : ∀ c ∈ a.username ++ a.password, escapedInUserInfo c = false
  port : ∀ port, a.port = some port → port ≤ 65535
  host : a.host = .name [] ∨ a.host.Rereads (isSpecial scheme)
  /-- Nothing stands around an empty host. -/
  bare : a.host = .name [] → a.username = [] ∧ a.password = [] ∧ a.port = none

/-- A user name and a password that were read are escaped. -/
theorem escapedInUserInfo_userInfoOf (cs : List Char) :
    ∀ c ∈ (userInfoOf cs).1 ++ (userInfoOf cs).2, escapedInUserInfo c = false := by
  have hescape (part : List Char) :
      ∀ c ∈ escape escapedInUserInfo part, escapedInUserInfo c = false :=
    forall_mem_escape (fun _ _ h => h) (by decide) (by decide)
  unfold userInfoOf
  intro c hc
  split at hc
  · rcases List.mem_append.mp hc with hc | hc
    · exact hescape _ c hc
    · exact hescape _ c hc
  · rw [List.append_nil] at hc
    exact hescape _ c hc

/-- A port that could be read has 16 bits. -/
theorem portOf_le {scheme text behind : List Char} {port : Option Nat}
    (h : portOf scheme text = .ok (port, behind)) : ∀ p, port = some p → p ≤ 65535 := by
  unfold portOf at h
  dsimp only at h
  obtain ⟨hrange, h⟩ := ite_error_eq_ok.mp h
  rintro p rfl
  split at h
  · cases h
  · cases h
    simp only [Bool.or_eq_true, decide_eq_true_eq, not_or] at hrange
    exact Nat.le_of_not_lt hrange.1

theorem Host.isEmpty_iff {h : Host} : h.isEmpty = true ↔ h = .name [] := beq_iff_eq

/-- A host that was read is read back; it is empty only where one may be missing. -/
theorem rereads_of_hostOf {special : Bool} {cs : List Char} {h : Host}
    (hread : hostOf special cs = .ok h) :
    h.Rereads special ∧ (special = true → h ≠ .name []) := by
  unfold hostOf at hread
  cases special with
  | true =>
    obtain ⟨hrereads, hsome⟩ := Host.rereads_ofSpecial hread
    refine ⟨hrereads, fun _ hempty => ?_⟩
    rw [Host.isEmpty_iff.mpr hempty] at hsome
    cases hsome
  | false => exact ⟨Host.rereads_ofOther hread, nofun⟩

/-- What was read behind the user. -/
theorem isRead_of_addressOf {scheme username password address path : List Char}
    {r : Authority × Path} (huser : ∀ c ∈ username ++ password, escapedInUserInfo c = false)
    (h : addressOf scheme username password address path = .ok r) :
    r.1.IsRead scheme ∧ (isSpecial scheme = true → r.1.host ≠ .name []) ∧
      ∃ text, r.2 = pathBehindAuthority (isSpecial scheme) text := by
  obtain ⟨host, port, behind, -, hhost, hport, hread, hbare, rfl⟩ := addressOf_eq_ok.mp h
  obtain ⟨hrereads, hnamed⟩ := rereads_of_hostOf hhost
  refine ⟨⟨huser, ?_, .inr hrereads, ?_⟩, hnamed, _, rfl⟩
  · cases htext : (splitPort false address).2 with
    | none =>
      rw [htext] at hread
      cases hread
      exact nofun
    | some text =>
      rw [htext] at hread
      exact portOf_le hread
  · -- an empty host was let pass without user, password and port only
    intro hempty
    have hempty : host.isEmpty = true := Host.isEmpty_iff.mpr hempty
    rw [hempty, Bool.true_and] at hport hbare
    have hnone : (splitPort false address).2 = none := by simpa using hport
    rw [hnone] at hread
    cases hread
    simp at hbare
    exact ⟨hbare.1, hbare.2, rfl⟩

theorem isRead_of_authorityOf {scheme cs : List Char} {more : Bool} {r : Authority × Path}
    (h : authorityOf scheme cs more = .ok r) :
    r.1.IsRead scheme ∧ (isSpecial scheme = true → r.1.host ≠ .name []) ∧
      ∃ text, r.2 = pathBehindAuthority (isSpecial scheme) text := by
  rw [authorityOf_eq] at h
  dsimp only at h
  split at h
  · exact isRead_of_addressOf (by simp) h
  · exact isRead_of_addressOf (by simp) (ite_error_eq_ok.mp h).2
  · exact isRead_of_addressOf (escapedInUserInfo_userInfoOf _) h

/-! ## §3. Reading it back. -/

/-- The host and the port of an authority as they are written. -/
def Authority.address (a : Authority) : List Char :=
  a.host.text ++ (a.port.elim [] fun port => ':' :: Nat.toDigits 10 port)

/-- The text of an authority behind its slashes. -/
def Authority.inner (a : Authority) : List Char :=
  userInfoText a.username a.password ++ a.address

theorem Authority.text_eq (a : Authority) : a.text = '/' :: '/' :: a.inner := by
  unfold Authority.text Authority.inner Authority.address
  cases a.port <;> simp

/-- What is not escaped in a user is escaped nowhere, and is no mark. -/
theorem isHostChar_of_userInfo {c : Char} (h : escapedInUserInfo c = false) : IsHostChar c :=
  forall_of_not_escaped
    (fun c hc => by simp [escapedInUserInfo, escapedInPath, escapedInFragment, hc]) (by decide) h

section Text

variable {scheme : List Char} {a : Authority}

/-- The digits of a port may stand in a host. -/
theorem isHostChar_of_mem_toDigits {n : Nat} {c : Char} (h : c ∈ Nat.toDigits 10 n) :
    IsHostChar c := by
  obtain ⟨d, hd, rfl⟩ := Host.exists_of_mem_toDigits (by decide) h
  exact (by decide : ∀ d < 10, IsHostChar d.digitChar) d hd

/-- Behind the user stands no mark of another part of a URL. -/
theorem Authority.IsRead.mem_address (h : a.IsRead scheme) {c : Char}
    (hc : c ∈ a.address) : IsHostChar c := by
  rcases List.mem_append.mp hc with hc | hc
  · rcases h.host with hempty | hrereads
    · rw [hempty] at hc
      cases hc
    · exact hrereads.visible c hc
  · cases hport : a.port with
    | none =>
      rw [hport] at hc
      cases hc
    | some port =>
      rw [hport] at hc
      rcases List.mem_cons.mp hc with rfl | hc
      · decide
      · exact isHostChar_of_mem_toDigits hc

/-- No slash stands in an authority, and nothing invisible. -/
theorem Authority.IsRead.mem_inner (h : a.IsRead scheme) {c : Char} (hc : c ∈ a.inner) :
    ' ' < c ∧ c ∉ ['/', '\\', '?', '#'] := by
  have hhost {c : Char} (hc : IsHostChar c) : ' ' < c ∧ c ∉ ['/', '\\', '?', '#'] := by
    refine ⟨hc.1, fun hmem => hc.2 ?_⟩
    simp only [List.mem_cons, List.not_mem_nil, or_false] at hmem ⊢
    tauto
  have huser {c : Char} (hc : c ∈ a.username ++ a.password) : IsHostChar c :=
    isHostChar_of_userInfo (h.user c hc)
  rcases List.mem_append.mp hc with hc | hc
  · unfold userInfoText at hc
    dsimp only at hc
    split at hc
    · cases hc
    · -- the user, a colon and the password, and the `@` behind them
      rcases List.mem_append.mp hc with hc | hc
      · rcases List.mem_append.mp hc with hc | hc
        · exact hhost (huser (List.mem_append_left _ hc))
        · split at hc
          · cases hc
          · rcases List.mem_cons.mp hc with rfl | hc
            · decide
            · exact hhost (huser (List.mem_append_right _ hc))
      · rw [List.mem_singleton.mp hc]
        decide
  · exact hhost (h.mem_address hc)

/-- The text is cut at the last mark. -/
theorem splitLast_append {mark : Char} {behind : List Char} (front : List Char)
    (h : mark ∉ behind) : splitLast mark (front ++ mark :: behind) = some (front, behind) := by
  have hreverse : (front ++ mark :: behind).reverse = behind.reverse ++ mark :: front.reverse := by
    simp
  unfold splitLast
  rw [hreverse, splitFirst_append _ (by simpa using h)]
  simp

/-- A text without the mark is not cut. -/
theorem splitLast_of_not_mem {mark : Char} {cs : List Char} (h : mark ∉ cs) :
    splitLast mark cs = none := by
  unfold splitLast
  rw [splitFirst_eq_none (by simpa using h)]
  rfl

/-- The digits of a port are read as a port. -/
theorem exists_portOf_toDigits (scheme : List Char) {port : Nat} (h : port ≤ 65535) :
    ∃ read, portOf scheme (Nat.toDigits 10 port) = .ok (read, []) := by
  have hdigit : ∀ c ∈ Nat.toDigits 10 port, c.isDigit = true := fun c hc =>
    Nat.isDigit_of_mem_toDigits (by decide) (by decide) hc
  have htake : (Nat.toDigits 10 port).takeWhile Char.isDigit = Nat.toDigits 10 port :=
    List.takeWhile_eq_self_iff.mpr hdigit
  have hdrop : (Nat.toDigits 10 port).dropWhile Char.isDigit = [] :=
    List.dropWhile_eq_nil_iff.mpr hdigit
  have hvalue : (Nat.toDigits 10 port).foldl (fun n c => 10 * n + (c.toNat - 48)) 0 = port :=
    Nat.ofDigitChars_ten_toDigits
  unfold portOf
  dsimp only
  rw [htake, hdrop, hvalue, if_neg (by simp; omega)]
  split
  · exact ⟨_, rfl⟩
  · exact ⟨_, rfl⟩

/-- Only the empty host has no text. -/
theorem Host.text_eq_nil {h : Host} (hnil : h.text = []) : h = .name [] := by
  cases h with
  | name text => exact congrArg Host.name hnil
  | ipv4 address =>
    have hends := Host.endsInNumber_text address
    rw [hnil] at hends
    exact absurd hends (by decide)
  | ipv6 pieces => cases hnil

/-- The empty host of a scheme that is not special is read back. -/
theorem rereads_empty : (Host.name []).Rereads false :=
  .of_chars rfl nofun

/-- The host and the port are told apart. -/
theorem Authority.splitPort_address (hhost : a.host.Rereads (isSpecial scheme)) :
    splitPort false a.address = (a.host.text, a.port.map (Nat.toDigits 10)) := by
  unfold Authority.address
  rw [hhost.split]
  cases a.port with
  | none => exact Prod.ext (List.append_nil _) rfl
  | some port => exact Prod.ext (List.append_nil _) rfl

/-- Behind the user the host and the port are read. -/
theorem Authority.IsRead.addressOf (h : a.IsRead scheme)
    (hnamed : isSpecial scheme = true → a.host ≠ .name []) {username password : List Char}
    (hbare : a.host = .name [] → username = [] ∧ password = []) (path : List Char) :
    ∃ r, addressOf scheme username password a.address path = .ok r := by
  have hhost : a.host.Rereads (isSpecial scheme) := by
    rcases h.host with hempty | hhost
    · cases hspecial : isSpecial scheme with
      | true => exact absurd hempty (hnamed hspecial)
      | false => exact hempty ▸ rereads_empty
    · exact hhost
  obtain ⟨port, hport⟩ : ∃ port, portIn scheme (a.port.map (Nat.toDigits 10)) = .ok (port, []) := by
    cases hport : a.port with
    | none => exact ⟨none, rfl⟩
    | some port => exact exists_portOf_toDigits scheme (h.port port hport)
  refine ⟨(⟨username, password, a.host, port⟩, pathBehindAuthority (isSpecial scheme) ([] ++ path)),
    addressOf_eq_ok.mpr ⟨a.host, port, [], ?_⟩⟩
  rw [Authority.splitPort_address hhost]
  refine ⟨fun hmissing => ?_, hhost.reads, fun hempty => ?_, hport, fun hempty => ?_, rfl⟩
  · -- a special scheme has a host
    obtain ⟨hspecial, hnil⟩ := Bool.and_eq_true_iff.mp hmissing
    exact hnamed hspecial (Host.text_eq_nil (List.isEmpty_iff.mp hnil))
  · obtain ⟨hempty, hsome⟩ := Bool.and_eq_true_iff.mp hempty
    -- without a host there is no port
    rw [(h.bare (Host.isEmpty_iff.mp hempty)).2.2] at hsome
    cases hsome
  · obtain ⟨hempty, hsome⟩ := Bool.and_eq_true_iff.mp hempty
    -- nor a user
    obtain ⟨rfl, rfl⟩ := hbare (Host.isEmpty_iff.mp hempty)
    cases hsome

/-- What stands in front of a slash, and what behind it. -/
theorem takeWhile_dropWhile_inner (h : a.IsRead scheme) (special : Bool) {path : List Char}
    (hpath : ∀ c, path.head? = some c → c = '/') :
    (a.inner ++ path).takeWhile (fun c => !isSlash special c) = a.inner ∧
      (a.inner ++ path).dropWhile (fun c => !isSlash special c) = path := by
  have hinner : ∀ c ∈ a.inner, (!isSlash special c) = true := by
    intro c hc
    have hnot := (h.mem_inner hc).2
    simp only [List.mem_cons, not_or] at hnot
    simp [isSlash, hnot.1, hnot.2.1]
  rw [List.takeWhile_append_of_pos hinner, List.dropWhile_append_of_pos hinner]
  cases path with
  | nil => simp
  | cons c path =>
    obtain rfl := hpath c rfl
    simp [isSlash]

/-- **AN AUTHORITY IS READ BACK**, with any path behind it. -/
theorem Authority.IsRead.authorityOf (h : a.IsRead scheme)
    (hnamed : isSpecial scheme = true → a.host ≠ .name []) {path : List Char}
    (hpath : ∀ c, path.head? = some c → c = '/') (more : Bool) :
    ∃ r, authorityOf scheme (a.inner ++ path) more = .ok r := by
  obtain ⟨htake, hdrop⟩ := takeWhile_dropWhile_inner h (isSpecial scheme) hpath
  rw [authorityOf_eq]
  dsimp only
  rw [htake, hdrop]
  have hat : '@' ∉ a.address := fun hc => (h.mem_address hc).2 (by decide)
  -- the reader cuts at the `@` that is written behind a user
  by_cases hnobody : a.username = [] ∧ a.password = []
  · have hinner : a.inner = a.address := by
      unfold Authority.inner
      rw [hnobody.1, hnobody.2]
      rfl
    rw [hinner, splitLast_of_not_mem hat]
    exact h.addressOf hnamed (fun _ => ⟨rfl, rfl⟩) path
  · -- there is a user, so there is a host
    have hhost : a.host ≠ .name [] := fun hempty => hnobody
      ⟨(h.bare hempty).1, (h.bare hempty).2.1⟩
    obtain ⟨c, user, huser⟩ : ∃ c user, userInfoText a.username a.password = c :: user ++ ['@'] := by
      have hsome : (a.username.isEmpty && a.password.isEmpty) = false := by
        simpa using fun hu hp => hnobody ⟨hu, hp⟩
      unfold userInfoText
      dsimp only
      rw [hsome]
      cases hu : a.username with
      | cons c user => exact ⟨c, _, rfl⟩
      | nil =>
        cases hp : a.password with
        | nil => exact absurd ⟨hu, hp⟩ hnobody
        | cons d password => exact ⟨':', d :: password, rfl⟩
    have hinner : a.inner = (c :: user) ++ '@' :: a.address := by
      unfold Authority.inner
      rw [huser, List.append_assoc, List.singleton_append]
    rw [hinner, splitLast_append _ hat]
    exact h.addressOf hnamed (fun hempty => absurd hempty hhost) path

end Text

end ApiPlaybook.Url
