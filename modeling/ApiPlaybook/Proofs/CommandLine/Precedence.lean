/-
  ApiPlaybook.Proofs.CommandLine.Precedence
  ─────────────────────────────────────────
  **WHICH RUNTIME VALUE COUNTS.**

  A runtime value can come from four places: the secrets of the command line,
  those of the file, the default values of the command line and those of the
  file.  The command line writes its values as texts, and of the texts that set
  a name the last one counts (`SetsLast`).  A place counts where all places
  before it are silent (`RuntimeSources.Provides`), and the default of a
  declaration where all four are and the variable is optional.

  The program puts maps over one another and looks names up in them.  For every
  declaration this gives each variable its value by that order, no other
  variable, and a report of exactly the required ones that have none
  (`runtimeValues_precedence`).
-/
import Mathlib.Data.List.Induction
import ApiPlaybook.CommandLine.Session
import ApiPlaybook.Proofs.Bundle.Records

namespace ApiPlaybook

/-! ## §1. Values written on the command line. -/

/-- A text `name=value`: the value is all that stands behind the first `=`. -/
structure Sets (text name value : String) : Prop where
  written : text = name ++ "=" ++ value
  named : name ≠ ""
  first : '=' ∉ name.toList

/-- Of the texts that set a name the last one sets it to this value. -/
def SetsLast (texts : List String) (name value : String) : Prop :=
  ∃ before text after, texts = before ++ text :: after ∧ Sets text name value ∧
    ∀ later ∈ after, ∀ other, ¬ Sets later name other

/-- No text sets the name. -/
def SetsNever (texts : List String) (name : String) : Prop :=
  ∀ text ∈ texts, ∀ value, ¬ Sets text name value

/-- Every text sets some name. -/
def AreSettings (texts : List String) : Prop := ∀ text ∈ texts, ∃ name value, Sets text name value

/-- Reading a text as a pair finds what it sets. -/
theorem readPair?_eq_some {text name : String} {j : Json} :
    readPair? text = some (name, j) ↔ ∃ value, j = .string value ∧ Sets text name value := by
  unfold readPair? splitOnce
  constructor
  · intro h
    -- the text is cut at its first equals sign
    by_cases hmark : '=' ∈ text.toList
    · obtain ⟨a, b, htext, ha⟩ := List.eq_append_cons_of_mem hmark
      rw [htext, splitFirst_append b ha] at h
      simp only [Option.map_some] at h
      split at h
      · cases h
      · next hname =>
        cases h
        refine ⟨String.ofList b, rfl, ⟨String.toList_inj.mp ?_, by simpa using hname, by simpa⟩⟩
        simpa using htext
    · rw [splitFirst_eq_none hmark] at h
      cases h
  · rintro ⟨value, rfl, h⟩
    have htext : text.toList = name.toList ++ '=' :: value.toList := by simp [h.written]
    rw [htext, splitFirst_append value.toList h.first]
    simp [h.named]

/-- A text sets one name, and to one value. -/
theorem Sets.unique {text name name' value value' : String} (h : Sets text name value)
    (h' : Sets text name' value') : name = name' ∧ value = value' := by
  have hread := readPair?_eq_some.mpr ⟨value, rfl, h⟩
  rw [readPair?_eq_some.mpr ⟨value', rfl, h'⟩] at hread
  cases hread
  exact ⟨rfl, rfl⟩

/-- Texts that all set something are read without an error. -/
theorem readPairs_eq_ok {ε : Type} (bad : String → ε) {texts : List String}
    (h : AreSettings texts) : readPairs bad texts = .ok (texts.filterMap readPair?) := by
  unfold readPairs
  induction texts with
  | nil => rfl
  | cons text rest ih =>
    obtain ⟨name, value, hsets⟩ := h text List.mem_cons_self
    have hread := readPair?_eq_some.mpr ⟨value, rfl, hsets⟩
    rw [List.mapM_cons, ih fun later hlater => h later (List.mem_cons_of_mem _ hlater), hread,
      List.filterMap_cons_some hread]
    rfl

/-! ### One more text -/

section Concat

variable {texts : List String} {text name value : String}

/-- No text of a longer list sets a name when none of the shorter one nor the last text does. -/
theorem setsNever_concat : SetsNever (texts ++ [text]) name ↔
    SetsNever texts name ∧ ∀ value, ¬ Sets text name value := by
  unfold SetsNever
  rw [List.forall_mem_append, List.forall_mem_singleton]

/-- A last text that sets the name decides about its value. -/
theorem setsLast_concat_of_sets (h : Sets text name value) {other : String} :
    SetsLast (texts ++ [text]) name other ↔ other = value := by
  constructor
  · rintro ⟨before, text', after, htexts, hsets, hlater⟩
    rcases List.eq_nil_or_concat after with rfl | ⟨front, last, rfl⟩
    · obtain ⟨-, hlast⟩ := List.append_inj' htexts rfl
      cases hlast
      exact (hsets.unique h).2
    · -- then the text itself stands behind the last one that sets the name
      rw [List.concat_eq_append, ← List.cons_append, ← List.append_assoc] at htexts
      obtain ⟨-, hlast⟩ := List.append_inj' htexts rfl
      cases hlast
      exact absurd h (hlater text (by simp) value)
  · rintro rfl
    exact ⟨texts, text, [], rfl, h, by simp⟩

/-- One that does not leaves it to the texts before it. -/
theorem setsLast_concat_of_silent (h : ∀ value, ¬ Sets text name value) :
    SetsLast (texts ++ [text]) name value ↔ SetsLast texts name value := by
  constructor
  · rintro ⟨before, text', after, htexts, hsets, hlater⟩
    rcases List.eq_nil_or_concat after with rfl | ⟨front, last, rfl⟩
    · obtain ⟨-, hlast⟩ := List.append_inj' htexts rfl
      cases hlast
      exact absurd hsets (h value)
    · rw [List.concat_eq_append, ← List.cons_append, ← List.append_assoc] at htexts
      obtain ⟨rfl, -⟩ := List.append_inj' htexts rfl
      exact ⟨before, text', front, rfl, hsets, fun later hm => hlater later (by simp [hm])⟩
  · rintro ⟨before, text', after, rfl, hsets, hlater⟩
    refine ⟨before, text', after ++ [text], by simp, hsets, ?_⟩
    exact List.forall_mem_append.mpr ⟨hlater, List.forall_mem_singleton.mpr h⟩

end Concat

/-- The values that texts set, each read on its own and put into a map in turn. -/
def settings (texts : List String) : NameMap Json := .ofList (texts.filterMap readPair?)

/-- The map of settings has the value of the last text. -/
theorem settings_concat_of_sets {texts : List String} {text name value : String}
    (h : Sets text name value) :
    settings (texts ++ [text]) = (settings texts).insert name (.string value) := by
  have hread := readPair?_eq_some.mpr ⟨value, rfl, h⟩
  unfold settings NameMap.ofList
  rw [List.filterMap_append, List.foldl_append, List.filterMap_cons_some hread]
  rfl

/-- A text that sets nothing adds nothing. -/
theorem settings_concat_of_none {texts : List String} {text : String}
    (h : readPair? text = none) : settings (texts ++ [text]) = settings texts := by
  unfold settings
  rw [List.filterMap_append, List.filterMap_cons_none h, List.filterMap_nil, List.append_nil]

/-- The map holds what the last texts set, and nothing else. -/
theorem get?_settings (texts : List String) (name : String) :
    (∀ j, (settings texts).get? name = some j ↔
      ∃ value, j = .string value ∧ SetsLast texts name value) ∧
    ((settings texts).get? name = none ↔ SetsNever texts name) := by
  -- from the last text on, since it is the one that counts
  induction texts using List.reverseRecOn with
  | nil =>
    refine ⟨fun j => ⟨nofun, ?_⟩, fun _ => nofun, fun _ => rfl⟩
    rintro ⟨value, -, before, text, after, htexts, -⟩
    exact absurd htexts (by simp)
  | append_singleton texts text ih =>
    obtain ⟨hsome, hnone⟩ := ih
    rw [setsNever_concat]
    cases hread : readPair? text with
    | none =>
      have hsilent : ∀ name value, ¬ Sets text name value := by
        intro name value h
        rw [readPair?_eq_some.mpr ⟨value, rfl, h⟩] at hread
        cases hread
      simp only [settings_concat_of_none hread, setsLast_concat_of_silent (hsilent name)]
      exact ⟨hsome, hnone.trans ⟨fun h => ⟨h, hsilent name⟩, And.left⟩⟩
    | some pair =>
      obtain ⟨key, j⟩ := pair
      obtain ⟨value, rfl, hsets⟩ := readPair?_eq_some.mp hread
      rw [settings_concat_of_sets hsets]
      -- the last text sets this name, or it changes nothing about it
      by_cases heq : name = key
      · subst heq
        simp only [NameMap.get?_insert_self, setsLast_concat_of_sets hsets, Option.some.injEq]
        refine ⟨fun j => ⟨fun h => ⟨value, h.symm, rfl⟩, fun ⟨_, hj, h⟩ => ?_⟩, nofun, ?_⟩
        · rw [hj, h]
        · exact fun h => absurd hsets (h.2 value)
      · have hsilent : ∀ value, ¬ Sets text name value := fun _ h => heq (h.unique hsets).1
        simp only [NameMap.get?_insert, if_neg heq, setsLast_concat_of_silent hsilent]
        exact ⟨hsome, hnone.trans ⟨fun h => ⟨h, hsilent⟩, And.left⟩⟩

/-! ## §2. Four places. -/

namespace RuntimeSources

/-- What the places have for a runtime name, `file` being what was read from the file: each
place counts where all places before it have nothing. -/
inductive Provides (r : RuntimeSources) (file : RuntimeValues) (name : String) : Json → Prop where
  | secret {value : String} (h : SetsLast r.secrets name value) :
      Provides r file name (.string value)
  | fileSecret {j : Json} (hs : SetsNever r.secrets name) (h : file.secrets.get? name = some j) :
      Provides r file name j
  | default {value : String} (hs : SetsNever r.secrets name) (hf : file.secrets.get? name = none)
      (h : SetsLast r.defaults name value) : Provides r file name (.string value)
  | fileDefault {j : Json} (hs : SetsNever r.secrets name) (hf : file.secrets.get? name = none)
      (hd : SetsNever r.defaults name) (h : file.defaults.get? name = some j) :
      Provides r file name j

/-- None of the places has anything for a runtime name. -/
structure Lacks (r : RuntimeSources) (file : RuntimeValues) (name : String) : Prop where
  secret : SetsNever r.secrets name
  fileSecret : file.secrets.get? name = none
  default : SetsNever r.defaults name
  fileDefault : file.defaults.get? name = none

/-- The values of the file with those of the command line put over them. -/
def valuesOver (r : RuntimeSources) (file : RuntimeValues) : RuntimeValues :=
  file.override (r.defaults.filterMap readPair?) (r.secrets.filterMap readPair?)

variable {r : RuntimeSources} {file : RuntimeValues} {name : String}

/-- The four places, put over one another in their order. -/
theorem value?_over : (r.valuesOver file).value? name =
    (((settings r.secrets).get? name).or (file.secrets.get? name)).or
      (((settings r.defaults).get? name).or (file.defaults.get? name)) := by
  unfold valuesOver RuntimeValues.override RuntimeValues.value?
  rw [NameMap.get?_union, NameMap.get?_union]
  rfl

/-- A name has no value when all four places lack it. -/
theorem value?_over_eq_none : (r.valuesOver file).value? name = none ↔ r.Lacks file name := by
  rw [value?_over, Option.or_eq_none_iff, Option.or_eq_none_iff, Option.or_eq_none_iff,
    (get?_settings _ _).2, (get?_settings _ _).2]
  exact ⟨fun ⟨⟨hs, hf⟩, hd, h⟩ => ⟨hs, hf, hd, h⟩,
    fun h => ⟨⟨h.secret, h.fileSecret⟩, h.default, h.fileDefault⟩⟩

/-- **THE FIRST PLACE THAT IS NOT SILENT** provides the value. -/
theorem value?_over_eq_some {j : Json} :
    (r.valuesOver file).value? name = some j ↔ r.Provides file name j := by
  obtain ⟨hsecret, hnoSecret⟩ := get?_settings r.secrets name
  obtain ⟨hdefault, hnoDefault⟩ := get?_settings r.defaults name
  rw [value?_over]
  constructor
  · -- go through the places in their order, up to the first that is not silent
    intro h
    cases hs : (settings r.secrets).get? name with
    | some j' =>
      obtain ⟨value, rfl, hlast⟩ := (hsecret j').mp hs
      rw [hs] at h
      cases h
      exact .secret hlast
    | none =>
      have hnone := hnoSecret.mp hs
      cases hf : file.secrets.get? name with
      | some j' =>
        rw [hs, hf] at h
        cases h
        exact .fileSecret hnone hf
      | none =>
        rw [hs, hf, Option.none_or, Option.none_or] at h
        cases hd : (settings r.defaults).get? name with
        | some j' =>
          obtain ⟨value, rfl, hlast⟩ := (hdefault j').mp hd
          rw [hd] at h
          cases h
          exact .default hnone hf hlast
        | none =>
          rw [hd, Option.none_or] at h
          exact .fileDefault hnone hf (hnoDefault.mp hd) h
  · -- a place provides a value when those before it are silent
    intro h
    cases h with
    | secret h => simp [(hsecret _).mpr ⟨_, rfl, h⟩]
    | fileSecret hs h => simp [hnoSecret.mpr hs, h]
    | default hs hf h => simp [hnoSecret.mpr hs, hf, (hdefault _).mpr ⟨_, rfl, h⟩]
    | fileDefault hs hf hd h => simp [hnoSecret.mpr hs, hf, hnoDefault.mpr hd, h]

end RuntimeSources

/-! ## §3. Declared variables. -/

/-- The value of a variable comes from the four places, or from its declaration. -/
theorem ImportedVariable.value?_over {r : RuntimeSources} {file : RuntimeValues}
    {v : ImportedVariable} {j : Json} : v.value? (r.valuesOver file) = some j ↔
      r.Provides file v.runtimeName j ∨
        r.Lacks file v.runtimeName ∧ v.required = false ∧ v.default = some j := by
  rw [← RuntimeSources.value?_over_eq_some, ← RuntimeSources.value?_over_eq_none]
  unfold ImportedVariable.value?
  cases (r.valuesOver file).value? v.runtimeName with
  | some j' => simp
  | none => cases v.required <;> simp

namespace EnvironmentDecl

/-- A binding is a declared variable with the value that it takes. -/
theorem mem_bindings {decl : EnvironmentDecl} {values : RuntimeValues} {name : String} {j : Json} :
    (name, j) ∈ decl.bindings values ↔
      ∃ v, decl.imports.get? name = some v ∧ v.value? values = some j := by
  unfold bindings
  rw [List.mem_filterMap]
  constructor
  · rintro ⟨⟨declared, v⟩, hmem, hvalue⟩
    obtain ⟨j', hj', heq⟩ := Option.map_eq_some_iff.mp hvalue
    cases heq
    exact ⟨v, NameMap.mem_entries_iff.mp hmem, hj'⟩
  · rintro ⟨v, hget, hvalue⟩
    exact ⟨(name, v), NameMap.mem_of_get? hget, by simp [hvalue]⟩

/-- No variable is bound twice. -/
theorem bindings_nodup (decl : EnvironmentDecl) (values : RuntimeValues) :
    ((decl.bindings values).map (·.1)).Nodup := by
  have hsublist : ((decl.bindings values).map (·.1)).Sublist decl.imports.names := by
    unfold bindings NameMap.names
    induction decl.imports.entries with
    | nil => exact .slnil
    | cons entry rest ih =>
      obtain ⟨name, v⟩ := entry
      cases hvalue : v.value? values with
      | none => simpa [hvalue] using ih.cons name
      | some j => simpa [hvalue] using ih.cons_cons name
  exact decl.imports.names_nodup.sublist hsublist

/-- A declared environment was imported by the order of the places. -/
structure ImportedBy (decl : EnvironmentDecl) (r : RuntimeSources) (file : RuntimeValues)
    (imported : ImportedScope) : Prop where
  id : imported.scope.id = scopeId
  assignments : imported.scope.assignments = []
  /-- Each variable that is declared has the value of its runtime name, or else its default if
  it is optional, and no other variable has a value. -/
  value_iff : ∀ name j, imported.scope.vars.get? name = some j ↔
    ∃ v, decl.imports.get? name = some v ∧ (r.Provides file v.runtimeName j ∨
      r.Lacks file v.runtimeName ∧ v.required = false ∧ v.default = some j)
  /-- One name is reported for each required variable for which no place has anything, in the
  order of the variables. -/
  missing : ∃ lacking : List (String × ImportedVariable), lacking.Sublist decl.imports.entries ∧
    (∀ e ∈ decl.imports.entries,
      e ∈ lacking ↔ e.2.required = true ∧ r.Lacks file e.2.runtimeName) ∧
    imported.missing = lacking.map fun e => e.2.runtimeName

/-- What an environment imports has the values that its places provide. -/
theorem importFrom_over (decl : EnvironmentDecl) (r : RuntimeSources) (file : RuntimeValues) :
    decl.ImportedBy r file (decl.importFrom (r.valuesOver file)) where
  id := rfl
  assignments := rfl
  value_iff := by
    intro name j
    show (NameMap.ofList (decl.bindings (r.valuesOver file))).get? name = some j ↔ _
    -- the names of the variables differ, so none overwrites another
    rw [NameMap.get?_ofList_of_nodup (decl.bindings_nodup _), mem_bindings]
    simp only [ImportedVariable.value?_over]
  missing := by
    refine ⟨decl.imports.entries.filter fun e =>
      e.2.required && ((r.valuesOver file).value? e.2.runtimeName).isNone,
      List.filter_sublist, ?_, ?_⟩
    · intro e he
      rw [List.mem_filter, Bool.and_eq_true, Option.isNone_iff_eq_none,
        RuntimeSources.value?_over_eq_none]
      exact and_iff_right he
    · show ((decl.imports.entries.map (·.2)).filter _).map _ = _
      rw [List.filter_map, List.map_map]
      rfl

end EnvironmentDecl

/-! ## §4. Files and texts. -/

/-- Runtime values are read from the text of a value that stands for them. -/
theorem RuntimeValues.ofText_text {j : Json} {v : RuntimeValues}
    (hlikely : likelyFormat j.text = .json) (hnumbers : j.NumbersReadBack)
    (hdepth : j.depth ≤ JsonText.greatestDepth) (h : RuntimeValues.decode j.draft = .ok v) :
    RuntimeValues.ofText j.text = .ok v := by
  have hread := decodeText_text hnumbers hdepth h
  have htext : Reader.text (fun _ => RuntimeValues.decode) .json j.text = .ok v := by
    show (decodeText RuntimeValues.decode (JsonText.read j.text)).mapError DocumentError.json = _
    rw [hread]
    rfl
  unfold RuntimeValues.ofText Reader.ofText Reader.anyText
  dsimp only
  rw [hlikely, htext]
  rfl

/-- **THE ORDER OF RUNTIME VALUES**: whatever the file holds and whatever the texts of the command
line set, there are runtime values, and every declaration is imported from them by the order
of the places. -/
theorem runtimeValues_precedence (s : Surroundings) (r : RuntimeSources) (file : RuntimeValues)
    (hfile : s.runtimeFile r.file = .ok file) (hdefaults : AreSettings r.defaults)
    (hsecrets : AreSettings r.secrets) :
    ∃ values, s.runtimeValues r = .ok values ∧
      ∀ decl : EnvironmentDecl, decl.ImportedBy r file (decl.importFrom values) := by
  refine ⟨r.valuesOver file, ?_, fun decl => decl.importFrom_over r file⟩
  unfold Surroundings.runtimeValues
  rw [hfile, readPairs_eq_ok _ hdefaults, readPairs_eq_ok _ hsecrets]
  rfl

/-! ### A null and a text set twice -/

/-- A file that has one value twice, once as the secret `null`. -/
def envFile : Surroundings where
  readFile
    | "env.json" => .ok "\x7b\"default\":\x7b\"A\":1,\"B\":2\x7d,\"secrets\":\x7b\"B\":null\x7d\x7d"
    | _ => .error "no such file"
  server := none

/-- The command line sets `A` twice, the second time to a text with a `=` in it. -/
def setTwice : RuntimeSources := ⟨some "env.json", ["A=x", "A=y=z"], ["C="]⟩

/-- What the file says. -/
def envFileJson : Json :=
  .object [("default", .object [("A", .ofInt 1), ("B", .ofInt 2)]),
    ("secrets", .object [("B", .null)])]

theorem readFile_envFile : envFile.readFile "env.json" = .ok envFileJson.text := by
  refine congrArg Except.ok ?_
  decide +kernel

/-- The file as it is read. -/
def envFileValues : RuntimeValues :=
  ⟨.ofList [("A", .ofInt 1), ("B", .ofInt 2)], .ofList [("B", .null)]⟩

/-- Here all four places have values, and every declaration is imported by their order. -/
theorem runtimeValues_precedence_setTwice :
    envFile.runtimeFile setTwice.file = .ok envFileValues ∧
      ∃ values, envFile.runtimeValues setTwice = .ok values ∧
        ∀ decl : EnvironmentDecl,
          decl.ImportedBy setTwice envFileValues (decl.importFrom values) := by
  have hvalues : RuntimeValues.ofText envFileJson.text = .ok envFileValues :=
    RuntimeValues.ofText_text (by decide +kernel) (by decide +kernel) (by decide +kernel) rfl
  have hfile : envFile.runtimeFile setTwice.file = .ok envFileValues := by
    unfold Surroundings.runtimeFile setTwice
    simp only [readFile_envFile, Except.mapError, bind, Except.bind, hvalues]
  have hx : Sets "A=x" "A" "x" := ⟨by decide, by decide, by decide⟩
  have hy : Sets "A=y=z" "A" "y=z" := ⟨by decide, by decide, by decide⟩
  have hc : Sets "C=" "C" "" := ⟨by decide, by decide, by decide⟩
  refine ⟨hfile, runtimeValues_precedence envFile setTwice envFileValues hfile ?_ ?_⟩
  · intro text htext
    rcases List.mem_cons.mp htext with rfl | htext
    · exact ⟨"A", "x", hx⟩
    · cases List.mem_singleton.mp htext
      exact ⟨"A", "y=z", hy⟩
  · intro text htext
    cases List.mem_singleton.mp htext
    exact ⟨"C", "", hc⟩

end ApiPlaybook
