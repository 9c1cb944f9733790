/-
  ApiPlaybook.Proofs.Extraction.SetCookies
  ────────────────────────────────────────
  **COOKIES OF A RESPONSE ARE FOUND.**

  A response sets each cookie in a header line of its own, `name=value` with
  attributes behind semicolons.  The values of all lines of one name become one
  text with commas between them, and a comma may also stand inside an attribute,
  as in a date.  Who looks for a cookie cuts at every comma and keeps of each
  part what stands in front of a semicolon.

      a part that begins inside an attribute has no equals sign in front of a
      semicolon, so it is no cookie (`CookieSetting.IsPlain.attributes`);
      a part that begins a line is the cookie of this line
      (`CookieSetting.IsPlain.cookiesSetIn_text`).

  So the parts of the joined text are the cookies of the lines, in their order,
  and the first one of a name is found (`setCookies_read_back`).
-/
import Mathlib.Data.List.Induction
import Mathlib.Data.List.Infix
import Mathlib.Data.List.TakeWhile
import ApiPlaybook.Proofs.Bundle.Normal
import ApiPlaybook.Proofs.Extraction.Cookies

namespace ApiPlaybook

/-! ## §1. Settings. -/

/-- What one header line sets. -/
structure CookieSetting where
  name : String
  value : String
  attributes : List String
deriving DecidableEq

namespace CookieSetting

/-- The attributes as they stand behind the cookie. -/
def attributesText (s : CookieSetting) : String := String.join (s.attributes.map ("; " ++ ·))

/-- The value of the header line. -/
def text (s : CookieSetting) : String := s.name ++ "=" ++ s.value ++ s.attributesText

/-- The cookie without its attributes. -/
def pair (s : CookieSetting) : String × String := (s.name, s.value)

/-- No separator stands in the cookie, and no blanks around name and value; in the attributes no
equals sign stands between a comma and the next comma or semicolon, or the end. -/
structure IsPlain (s : CookieSetting) : Prop where
  cookie : IsPlainCookie s.pair
  name_comma : ',' ∉ s.name.toList
  value_comma : ',' ∉ s.value.toList
  attributes : ∀ after, ',' :: after <:+ s.attributesText.toList →
    '=' ∉ after.takeWhile fun c => c != ',' && c != ';'

end CookieSetting

/-! ## §2. Cutting at commas. -/

/-- The first part goes up to the first mark, and each other one from a mark to the next. -/
theorem splitAll_eq (mark : Char) (cs : List Char) :
    ∃ rest, splitAll mark cs = cs.takeWhile (· != mark) :: rest ∧
      ∀ part ∈ rest, ∃ after, mark :: after <:+ cs ∧ part = after.takeWhile (· != mark) := by
  induction cs with
  | nil => exact ⟨[], rfl, nofun⟩
  | cons c cs ih =>
    obtain ⟨rest, hsplit, hrest⟩ := ih
    have hlater : ∀ part ∈ rest, ∃ after, mark :: after <:+ c :: cs ∧
        part = after.takeWhile (· != mark) := by
      intro part hpart
      obtain ⟨after, hsuffix, hafter⟩ := hrest part hpart
      exact ⟨after, hsuffix.trans (List.suffix_cons c cs), hafter⟩
    rw [splitAll, hsplit]
    by_cases hc : c = mark
    · refine ⟨cs.takeWhile (· != mark) :: rest, by simp [hc], ?_⟩
      rintro part hpart
      rcases List.mem_cons.mp hpart with rfl | hpart
      · exact ⟨cs, hc ▸ List.suffix_rfl, rfl⟩
      · exact hlater part hpart
    · exact ⟨rest, by simp [hc], hlater⟩

/-- Up to a comma and then up to a semicolon is up to the first of either. -/
theorem takeWhile_before (cs : List Char) :
    (cs.takeWhile (· != ',')).takeWhile (· != ';')
      = cs.takeWhile fun c => c != ',' && c != ';' := by
  rw [List.takeWhile_takeWhile]
  congr 1
  funext c
  rw [Bool.eq_iff_iff]
  simp [and_comm]

/-- The cookies that the value of a header for setting them holds. -/
def cookiesSetIn (header : String) : List (String × String) :=
  ((splitAll ',' header.toList).map (·.takeWhile (· != ';'))).filterMap cookieOf?

/-- The cookie that is found is the first that is set under its name. -/
theorem setCookie?_eq (header name : String) :
    setCookie? header name = ((cookiesSetIn header).find? (·.1 == name)).map (·.2) := by
  unfold cookiesSetIn
  rw [← findSome?_cookieValue?, List.findSome?_map]
  rfl

/-- Two values with ", " between them hold the cookies of both, whatever they are. -/
theorem cookiesSetIn_append (a b : String) :
    cookiesSetIn (a ++ ", " ++ b) = cookiesSetIn a ++ cookiesSetIn b := by
  have htext : (a ++ ", " ++ b).toList = a.toList ++ ',' :: ' ' :: b.toList := by simp
  have hblank : (splitAll ',' (' ' :: b.toList)).map (·.takeWhile (· != ';'))
      = ((splitAll ',' b.toList).map (·.takeWhile (· != ';'))).modifyHead (' ' :: ·) := by
    rw [splitAll, if_neg (by decide)]
    obtain ⟨rest, hsplit, -⟩ := splitAll_eq ',' b.toList
    rw [hsplit]
    rfl
  unfold cookiesSetIn
  rw [htext, Url.splitAll_append, List.map_append, List.filterMap_append, hblank]
  cases (splitAll ',' b.toList).map (·.takeWhile (· != ';')) with
  | nil => rfl
  | cons part parts =>
    rw [List.modifyHead_cons, List.filterMap_cons, List.filterMap_cons, cookieOf?_blank]

/-! ## §3. One line. -/

namespace CookieSetting

/-- The attributes begin with a semicolon, if there are any. -/
theorem attributesText_cases (s : CookieSetting) :
    s.attributesText.toList = [] ∨ ∃ rest, s.attributesText.toList = ';' :: rest := by
  unfold attributesText
  cases s.attributes with
  | nil => exact .inl rfl
  | cons part rest =>
    refine .inr ⟨' ' :: part.toList ++ (String.join (rest.map ("; " ++ ·))).toList, ?_⟩
    rw [List.map_cons, String.join_cons]
    simp

/-- What is asked of the attributes may be looked at comma by comma. -/
theorem attributes_of_tails {s : CookieSetting}
    (h : ∀ cs ∈ s.attributesText.toList.tails, cs.head? = some ',' →
      '=' ∉ cs.tail.takeWhile fun c => c != ',' && c != ';') (after : List Char)
    (hafter : ',' :: after <:+ s.attributesText.toList) :
    '=' ∉ after.takeWhile fun c => c != ',' && c != ';' :=
  h _ ((List.mem_tails _ _).mpr hafter) rfl

/-- How a setting is written: the cookie and then its attributes. -/
theorem toList_text (s : CookieSetting) :
    s.text.toList = (s.name.toList ++ '=' :: s.value.toList) ++ s.attributesText.toList := by
  simp [text]

namespace IsPlain

variable {s : CookieSetting}

theorem comma_not_mem (h : s.IsPlain) : ',' ∉ s.name.toList ++ '=' :: s.value.toList := by
  simp [h.name_comma, h.value_comma]

/-- In front of the first comma or semicolon stands the cookie. -/
theorem takeWhile_text (h : s.IsPlain) :
    s.text.toList.takeWhile (fun c => c != ',' && c != ';')
      = s.name.toList ++ '=' :: s.value.toList := by
  have hsemicolon : ';' ∉ s.name.toList ++ '=' :: s.value.toList := by
    have hname : ';' ∉ s.name.toList := h.cookie.name_semicolon
    have hvalue : ';' ∉ s.value.toList := h.cookie.value_semicolon
    simp [hname, hvalue]
  have hcookie : ∀ c ∈ s.name.toList ++ '=' :: s.value.toList, (c != ',' && c != ';') = true := by
    intro c hc
    have hcomma : c ≠ ',' := fun heq => h.comma_not_mem (heq ▸ hc)
    have hother : c ≠ ';' := fun heq => hsemicolon (heq ▸ hc)
    simp [hcomma, hother]
  have hbehind : s.attributesText.toList.takeWhile (fun c => c != ',' && c != ';') = [] := by
    rcases s.attributesText_cases with hnone | ⟨rest, hrest⟩
    · rw [hnone, List.takeWhile_nil]
    · rw [hrest]
      rfl
  rw [toList_text, List.takeWhile_append_of_pos hcookie, hbehind, List.append_nil]

/-- What stands behind a comma of the line stands behind one of the attributes. -/
theorem equals_not_mem (h : s.IsPlain) {after : List Char} (hafter : ',' :: after <:+ s.text.toList) :
    '=' ∉ after.takeWhile fun c => c != ',' && c != ';' := by
  obtain ⟨before, hbefore⟩ := hafter
  rw [toList_text] at hbefore
  refine h.attributes after ?_
  rcases List.append_eq_append_iff.mp hbefore with ⟨middle, hcookie, hmiddle⟩ | ⟨middle, -, hmiddle⟩
  · cases middle with
    | nil => exact ⟨[], hmiddle⟩
    | cons c middle =>
      -- then the comma would stand in the cookie
      cases hmiddle
      exact absurd (hcookie ▸ List.mem_append_right before List.mem_cons_self) h.comma_not_mem
  · exact ⟨middle, hmiddle.symm⟩

/-- A line holds its cookie and nothing else. -/
theorem cookiesSetIn_text (h : s.IsPlain) : cookiesSetIn s.text = [s.pair] := by
  obtain ⟨rest, hsplit, hrest⟩ := splitAll_eq ',' s.text.toList
  have hcookie : cookieOf? (s.name.toList ++ '=' :: s.value.toList) = some s.pair := by
    have hname : trimBlanks s.name = s.name := h.cookie.name_trimmed
    have hvalue : trimBlanks s.value = s.value := h.cookie.value_trimmed
    have hequals : '=' ∉ s.name.toList := h.cookie.name_equals
    rw [cookieOf?, splitFirst_append _ hequals]
    simp [hname, hvalue, pair]
  have hothers : (rest.map (·.takeWhile (· != ';'))).filterMap cookieOf? = [] := by
    rw [List.filterMap_eq_nil_iff]
    intro part hpart
    obtain ⟨part, hmem, rfl⟩ := List.mem_map.mp hpart
    obtain ⟨after, hafter, rfl⟩ := hrest part hmem
    rw [cookieOf?, takeWhile_before, splitFirst_eq_none (h.equals_not_mem hafter)]
    rfl
  unfold cookiesSetIn
  rw [hsplit, List.map_cons, takeWhile_before, h.takeWhile_text, List.filterMap_cons, hcookie,
    hothers]

end IsPlain

end CookieSetting

/-- Lines that were joined hold their cookies, in their order. -/
theorem cookiesSetIn_join {settings : List CookieSetting} (h : ∀ s ∈ settings, s.IsPlain) :
    cookiesSetIn (", ".intercalate (settings.map (·.text))) = settings.map (·.pair) := by
  induction settings with
  | nil => rfl
  | cons s rest ih =>
    have hs : s.IsPlain := h s List.mem_cons_self
    rw [List.map_cons, List.map_cons]
    by_cases hrest : rest = []
    · rw [hrest, List.map_nil, String.intercalate_singleton]
      exact hs.cookiesSetIn_text
    · rw [String.intercalate_cons_of_ne_nil (by simpa using hrest), cookiesSetIn_append,
        hs.cookiesSetIn_text, ih fun s' hs' => h s' (List.mem_cons_of_mem _ hs')]
      rfl

/-! ## §4. Header lines. -/

/-- The values of the lines of one name, in their order. -/
def valuesOfLines (lines : List (String × String)) (name : String) : List String :=
  (lines.filter fun line => sameIgnoringCase line.1 name).map (·.2)

/-- Names of collected headers are in lower case. -/
theorem lowerAscii_of_headersOfLines {lines : List (String × String)} :
    ∀ name ∈ (headersOfLines lines).names, lowerAscii name = name := by
  induction lines using List.reverseRecOn with
  | nil => nofun
  | append_singleton lines line ih =>
    intro name hname
    unfold headersOfLines at hname ih
    rw [List.foldl_append, List.foldl_cons, List.foldl_nil, withHeaderLine] at hname
    split at hname <;> rcases NameMap.mem_names_insert.mp hname with rfl | hname
    · exact lowerAscii_lowerAscii line.1
    · exact ih name hname
    · exact lowerAscii_lowerAscii line.1
    · exact ih name hname

/-- One more line adds its value, if it has the name. -/
theorem valuesOfLines_append (lines : List (String × String)) (line : String × String)
    (name : String) : valuesOfLines (lines ++ [line]) name
      = valuesOfLines lines name ++ if sameIgnoringCase line.1 name then [line.2] else [] := by
  unfold valuesOfLines
  rw [List.filter_append, List.map_append]
  congr 1
  cases hname : sameIgnoringCase line.1 name <;> simp [hname]

/-- The values of one name stand in one header, with commas between them. -/
theorem get?_headersOfLines (lines : List (String × String)) (name : String) :
    (headersOfLines lines).get? (lowerAscii name)
      = if valuesOfLines lines name = [] then none
        else some (", ".intercalate (valuesOfLines lines name)) := by
  -- the last line is the one that is joined to the rest
  induction lines using List.reverseRecOn with
  | nil => rfl
  | append_singleton lines line ih =>
    have hstep : headersOfLines (lines ++ [line]) = withHeaderLine (headersOfLines lines) line := by
      unfold headersOfLines
      rw [List.foldl_append, List.foldl_cons, List.foldl_nil]
    rw [hstep, valuesOfLines_append, withHeaderLine]
    by_cases hname : sameIgnoringCase line.1 name = true
    · have hlower : lowerAscii line.1 = lowerAscii name := eq_of_beq hname
      rw [hlower, if_pos hname, if_neg (by simp)]
      -- the first value of a name has no comma before it
      by_cases hnone : valuesOfLines lines name = []
      · rw [if_pos hnone] at ih
        rw [ih, hnone, List.nil_append, String.intercalate_singleton]
        exact NameMap.get?_insert_self _ _ _
      · rw [if_neg hnone] at ih
        rw [ih, String.intercalate_append_of_ne_nil hnone (by simp), String.intercalate_singleton]
        exact NameMap.get?_insert_self _ _ _
    · have hother : ¬ lowerAscii name = lowerAscii line.1 := fun heq =>
        hname (beq_iff_eq.mpr heq.symm)
      rw [if_neg hname, List.append_nil, ← ih]
      split <;> rw [NameMap.get?_insert, if_neg hother]

/-- A header is asked for in any case. -/
theorem findHeader_headersOfLines (lines : List (String × String)) (name : String) :
    findHeader (headersOfLines lines) name = (headersOfLines lines).get? (lowerAscii name) := by
  have hsame : sameIgnoringCase name (lowerAscii name) = true := by
    unfold sameIgnoringCase
    rw [lowerAscii_lowerAscii]
    exact beq_self_eq_true _
  -- the only spelling of a name is the one in lower case
  have hspelling : ∀ n ∈ (headersOfLines lines).names,
      sameIgnoringCase n (lowerAscii name) = true → n = lowerAscii name := by
    intro n hn hs
    have hlower : lowerAscii n = lowerAscii (lowerAscii name) := eq_of_beq hs
    rwa [lowerAscii_of_headersOfLines n hn, lowerAscii_lowerAscii] at hlower
  rw [findHeader_of_same _ hsame]
  cases hvalue : (headersOfLines lines).get? (lowerAscii name) with
  | some value =>
    refine findHeader_of_get? (fun e he hs => ?_) hvalue
    have hname : e.1 = lowerAscii name := hspelling e.1 (List.mem_map_of_mem he) hs
    exact hname ▸ String.le_refl _
  | none =>
    rw [findHeader_eq_none]
    intro n hn
    cases hs : sameIgnoringCase n (lowerAscii name) with
    | false => rfl
    | true =>
      have hsome := NameMap.get?_isSome.mpr (hspelling n hn hs ▸ hn)
      rw [hvalue] at hsome
      cases hsome

/-! ## §5. Cookies of a response. -/

/-- A rule for the cookies of a response looks at those that its headers set. -/
theorem ExtractionRule.find_setCookie {rule : ExtractionRule} (hside : rule.side = .response)
    (hlocation : rule.location = .cookie) (request : HttpRequest) (response : HttpResponse) :
    rule.find request response
      = textAt rule (((response.header? "set-cookie").elim [] cookiesSetIn |>.find?
          (·.1 == rule.path)).map (·.2)) := by
  unfold ExtractionRule.find
  rw [hside, hlocation]
  cases response.header? "set-cookie" with
  | none => rfl
  | some header =>
    show textAt rule (setCookie? header rule.path) = _
    rw [setCookie?_eq]
    rfl

/-- Lines of one name that set cookies hold them, in their order, when they were collected. -/
theorem cookiesSetIn_headersOfLines {settings : List CookieSetting} (h : ∀ s ∈ settings, s.IsPlain)
    {lines : List (String × String)} {name : String}
    (hlines : valuesOfLines lines name = settings.map (·.text)) :
    (findHeader (headersOfLines lines) name).elim [] cookiesSetIn = settings.map (·.pair) := by
  rw [findHeader_headersOfLines, get?_headersOfLines, hlines, ← cookiesSetIn_join h]
  by_cases hnone : settings = []
  · rw [hnone]
    rfl
  · rw [if_neg (by simpa using hnone)]
    rfl

/-- **COOKIES OF A RESPONSE ARE FOUND.**  Let some header lines set cookies without separators in
them.  In the joined text of the lines the value found for a name is that of the first of these
cookies that has it, and none is found exactly if none of them has it, whatever the attributes are
called.  A rule finds the same in a response whose headers were collected from such lines and
others. -/
theorem setCookies_read_back {settings : List CookieSetting} (h : ∀ s ∈ settings, s.IsPlain) :
    (∀ name, setCookie? (", ".intercalate (settings.map (·.text))) name
        = (settings.find? (·.name == name)).map (·.value) ∧
      (setCookie? (", ".intercalate (settings.map (·.text))) name = none ↔
        ∀ s ∈ settings, s.name ≠ name)) ∧
    ∀ lines, valuesOfLines lines "set-cookie" = settings.map (·.text) →
      ∀ (rule : ExtractionRule) (request : HttpRequest) (status : Nat) (body : String),
        rule.side = .response → rule.location = .cookie → rule.pattern = none →
          rule.FindsFirst request ⟨status, headersOfLines lines, body⟩ (settings.map (·.pair)) := by
  constructor
  · intro name
    have hfind : setCookie? (", ".intercalate (settings.map (·.text))) name
        = (settings.find? (·.name == name)).map (·.value) := by
      rw [setCookie?_eq, cookiesSetIn_join h, List.find?_map, Option.map_map]
      rfl
    refine ⟨hfind, ?_⟩
    rw [hfind, Option.map_eq_none_iff, List.find?_eq_none]
    simp
  · intro lines hlines rule request status body hside hlocation hpattern
    refine rule.findsFirst_of_find hpattern ((rule.find_setCookie hside hlocation _ _).trans ?_)
    have hcookies := cookiesSetIn_headersOfLines h hlines
    exact congrArg (fun pairs : List (String × String) =>
      textAt rule ((pairs.find? (·.1 == rule.path)).map (·.2))) hcookies

/-- A session that ends at a certain time; one of its attributes looks like a cookie. -/
def datedSession : CookieSetting :=
  ⟨"sid", "abc", ["Expires=Wed, 21 Oct 2015 07:28:00 GMT", "theme=light"]⟩

def darkTheme : CookieSetting := ⟨"theme", "da=rk", ["Path=/"]⟩

/-- Its date has a comma, but its cookie does not. -/
theorem isPlain_datedSession : datedSession.IsPlain where
  cookie := ⟨by decide, by decide, rfl, by decide, rfl⟩
  name_comma := by decide
  value_comma := by decide
  attributes := CookieSetting.attributes_of_tails (by decide +kernel)

/-- Its value has an equals sign of its own, which is no matter. -/
theorem isPlain_darkTheme : darkTheme.IsPlain where
  cookie := ⟨by decide, by decide, rfl, by decide, rfl⟩
  name_comma := by decide
  value_comma := by decide
  attributes := CookieSetting.attributes_of_tails (by decide +kernel)

/-- Two lines that set cookies, with another one between them. -/
def cookieLines : List (String × String) :=
  [("Set-Cookie", datedSession.text), ("Server", "test"), ("set-cookie", darkTheme.text)]

def themeRule : ExtractionRule := ⟨.response, .cookie, .pointer, "theme", none⟩

/-- The second cookie is found, not the attribute of the first that is called like it; and the name
of an attribute is the name of no cookie. -/
theorem setCookies_read_back_theme :
    (∀ s ∈ [datedSession, darkTheme], s.IsPlain) ∧
    setCookie? "sid=abc; Expires=Wed, 21 Oct 2015 07:28:00 GMT; theme=light, theme=da=rk; Path=/"
      "theme" = some "da=rk" ∧
    setCookie? "sid=abc; Expires=Wed, 21 Oct 2015 07:28:00 GMT; theme=light, theme=da=rk; Path=/"
      "Expires" = none ∧
    ∀ request, themeRule.extract request ⟨200, headersOfLines cookieLines, ""⟩
      = .ok (.string "da=rk") := by
  have hplain : ∀ s ∈ [datedSession, darkTheme], s.IsPlain := by
    intro s hs
    rcases List.mem_cons.mp hs with rfl | hs
    · exact isPlain_datedSession
    · cases List.mem_singleton.mp hs
      exact isPlain_darkTheme
  have htext : ", ".intercalate ([datedSession, darkTheme].map (·.text))
      = "sid=abc; Expires=Wed, 21 Oct 2015 07:28:00 GMT; theme=light, theme=da=rk; Path=/" := by
    decide +kernel
  -- the line between them has another name
  have hlines : valuesOfLines cookieLines "set-cookie" = [datedSession, darkTheme].map (·.text) := by
    have hupper : lowerAscii "Set-Cookie" = "set-cookie" := by decide +kernel
    have hlower : lowerAscii "set-cookie" = "set-cookie" := by decide +kernel
    have hother : lowerAscii "Server" = "server" := by decide +kernel
    simp [valuesOfLines, cookieLines, sameIgnoringCase, hupper, hlower, hother]
  obtain ⟨hjoined, hrules⟩ := setCookies_read_back hplain
  refine ⟨hplain, ?_, ?_, fun request => ?_⟩
  · rw [← htext]
    exact (hjoined "theme").1
  · have hnone : ∀ s ∈ [datedSession, darkTheme], s.name ≠ "Expires" := by decide +kernel
    rw [← htext]
    exact (hjoined "Expires").2.mpr hnone
  · exact (hrules _ hlines themeRule request 200 "" rfl rfl rfl).first [datedSession.pair] "da=rk"
      [] rfl (by decide)

end ApiPlaybook
