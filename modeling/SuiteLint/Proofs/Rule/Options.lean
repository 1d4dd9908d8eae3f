import SuiteLint.Config.Basic
import SuiteLint.Proofs.Outcome.Success
import SuiteLint.Rule.SideEffectCode

/-!
# Which option values count

The options of a rule come from a list of values, of which the tables are looked into, and from the
fields written directly among its settings.  Of all the values that a key is given in them one
counts: `RuleSettings.Effective settings key v` says that it is `v`.

`SideEffectCode.ofOptions_allOptions`: setting up the rule on side-effect code depends on the
effective values of three keys and on nothing else.  It succeeds iff each of them is absent or of
the right form, and then the settings of the classifier are the defaults extended by these values
(`Extends`).  Otherwise it fails by the first key with a value of the wrong form (`FirstOffence`).
This is so for any compiler of patterns: which patterns are accepted, and how a refusal is worded,
is up to it.

The proof has a step for each of the three keys, which gives the settings or the failure that the
effective value of the key asks for; the outcome of the whole is put together from these.
-/

namespace SuiteLint

open SuiteLint.Toml (Value)

/-! ### Effective values -/

/-- **The last table** of a list that has a key has this value under it. -/
def LastUnder (values : List Value) (key : String) (v : Value) : Prop :=
  ∃ before entries after, values = before ++ .table entries :: after ∧
    entries.lookup key = some v ∧ ∀ later, .table later ∈ after → later.lookup key = none

/-- **Effective value** of an option: that of the field, if there is one, and else the one in the
last listed table that has the key. -/
inductive RuleSettings.Effective (settings : RuleSettings) (key : String) : Value → Prop where
  /-- The option is written as a field. -/
  | field {v : Value} (written : settings.fields.lookup key = some v) : Effective settings key v
  /-- It is not, but a listed table has it. -/
  | listed {v : Value} (unwritten : settings.fields.lookup key = none)
      (last : LastUnder settings.options key v) : Effective settings key v

/-- **Overridden option**: it is written as a field, or a table has it among the values that come
after a place in the list. -/
def RuleSettings.Overridden (settings : RuleSettings) (after : List Value) (key : String) : Prop :=
  settings.fields.lookup key ≠ none ∨ ∃ entries, .table entries ∈ after ∧ entries.lookup key ≠ none

namespace RuleOptions

theorem field?_append (before after : List Value) (key : String) :
    field? ⟨before ++ after⟩ key = (field? ⟨after⟩ key).or (field? ⟨before⟩ key) := by
  simp only [field?, List.reverse_append, List.filterMap_append, List.findSome?_append]

theorem field?_singleton (v : Value) (key : String) :
    field? ⟨[v]⟩ key = v.asTable?.bind fun entries => entries.lookup key := by
  cases v <;> simp [field?, Value.asTable?]

theorem field?_eq_none_iff {values : List Value} {key : String} :
    field? ⟨values⟩ key = none ↔
      ∀ entries, .table entries ∈ values → entries.lookup key = none := by
  induction values with
  | nil => exact iff_of_true rfl nofun
  | cons v values ih =>
    rw [← List.singleton_append, field?_append, Option.or_eq_none_iff, ih, field?_singleton]
    cases v <;> simp [Value.asTable?, and_comm]

/-- **The value that is looked up** is the one in the last table that has the key. -/
theorem field?_eq_some_iff {values : List Value} {key : String} {v : Value} :
    field? ⟨values⟩ key = some v ↔ LastUnder values key v := by
  constructor
  · intro h
    induction values with
    | nil => nomatch h
    | cons first values ih =>
      rw [← List.singleton_append, field?_append, Option.or_eq_some_iff] at h
      rcases h with hlater | ⟨hnone, hfirst⟩
      · obtain ⟨before, entries, after, rfl, hlast⟩ := ih hlater
        exact ⟨first :: before, entries, after, rfl, hlast⟩
      · rw [field?_singleton, Option.bind_eq_some_iff] at hfirst
        obtain ⟨entries, htable, hv⟩ := hfirst
        obtain rfl : first = .table entries := by
          cases first <;> simp [Value.asTable?] at htable
          rw [htable]
        exact ⟨[], entries, values, rfl, hv, field?_eq_none_iff.mp hnone⟩
  · rintro ⟨before, entries, after, rfl, hv, hlast⟩
    rw [← List.singleton_append, field?_append, field?_append, field?_eq_none_iff.mpr hlast,
      field?_singleton]
    simp [Value.asTable?, hv]

end RuleOptions

namespace RuleSettings

/-- The fields are looked into before the list. -/
theorem field?_allOptions (settings : RuleSettings) (key : String) :
    RuleOptions.field? ⟨settings.allOptions⟩ key =
      (settings.fields.lookup key).or (RuleOptions.field? ⟨settings.options⟩ key) := by
  unfold allOptions
  split_ifs with hempty
  · rw [List.isEmpty_iff.mp hempty]
    rfl
  · rw [RuleOptions.field?_append, RuleOptions.field?_singleton]
    rfl

/-- **A rule receives** the effective value of each option. -/
theorem field?_allOptions_eq_some_iff {settings : RuleSettings} {key : String} {v : Value} :
    RuleOptions.field? ⟨settings.allOptions⟩ key = some v ↔ settings.Effective key v := by
  rw [field?_allOptions, Option.or_eq_some_iff, RuleOptions.field?_eq_some_iff]
  constructor
  · rintro (hfield | ⟨hnone, hlast⟩)
    · exact .field hfield
    · exact .listed hnone hlast
  · rintro (hfield | ⟨hnone, hlast⟩)
    · exact Or.inl hfield
    · exact Or.inr ⟨hnone, hlast⟩

theorem Effective.unique {settings : RuleSettings} {key : String} {v w : Value}
    (hv : settings.Effective key v) (hw : settings.Effective key w) : v = w := by
  rw [← field?_allOptions_eq_some_iff] at hv hw
  exact Option.some.inj (hv.symm.trans hw)

theorem field?_allOptions_eq_none_iff {settings : RuleSettings} {key : String} :
    RuleOptions.field? ⟨settings.allOptions⟩ key = none ↔ ∀ v, ¬ settings.Effective key v := by
  simp only [Option.eq_none_iff_forall_ne_some, ne_eq, field?_allOptions_eq_some_iff]

/-- **What is overridden** or makes no difference among its neighbours can be exchanged. -/
theorem effective_exchange {settings : RuleSettings} {key : String}
    {front old new back : List Value}
    (h : settings.Overridden back key ∨ ∀ v, LastUnder old key v ↔ LastUnder new key v)
    (v : Value) :
    Effective { settings with options := front ++ old ++ back } key v ↔
      Effective { settings with options := front ++ new ++ back } key v := by
  simp only [← field?_allOptions_eq_some_iff, field?_allOptions, RuleOptions.field?_append]
  rcases h with (hfield | ⟨entries, hlater, hhas⟩) | hsame
  · obtain ⟨w, hw⟩ := Option.ne_none_iff_exists'.mp hfield
    simp only [hw, Option.some_or]
  · have hback : RuleOptions.field? ⟨back⟩ key ≠ none :=
      fun hnone => hhas (RuleOptions.field?_eq_none_iff.mp hnone entries hlater)
    obtain ⟨w, hw⟩ := Option.ne_none_iff_exists'.mp hback
    simp only [hw, Option.some_or]
  · have hvalue : RuleOptions.field? ⟨old⟩ key = RuleOptions.field? ⟨new⟩ key := by
      refine Option.ext fun w => ?_
      rw [RuleOptions.field?_eq_some_iff, RuleOptions.field?_eq_some_iff, hsame]
    rw [hvalue]

end RuleSettings

/-! ### Lists of texts -/

namespace RuleOptions

variable {rule key : String}

theorem asString?_eq_some_iff {v : Value} {text : String} :
    v.asString? = some text ↔ v = .string text := by
  cases v <;> simp [Value.asString?]

theorem asString?_eq_none_iff {v : Value} : v.asString? = none ↔ ∀ text, v ≠ .string text := by
  cases v <;> simp [Value.asString?]

theorem allStrings_eq_ok_iff {items : List Value} {texts : List String} :
    allStrings rule key items = .ok texts ↔ items = texts.map .string := by
  induction items generalizing texts with
  | nil => simp [allStrings, eq_comm]
  | cons v items ih =>
    unfold allStrings
    cases htext : v.asString? with
    | none =>
      refine iff_of_false nofun fun h => ?_
      obtain ⟨text, more, rfl, hv, -⟩ := List.map_eq_cons_iff.mp h.symm
      exact asString?_eq_none_iff.mp htext text hv.symm
    | some text =>
      obtain rfl := asString?_eq_some_iff.mp htext
      simp only [map_eq_ok_iff, ih]
      constructor
      · rintro ⟨more, rfl, rfl⟩
        rfl
      · intro h
        obtain ⟨_, more, rfl, hv, hitems⟩ := List.map_eq_cons_iff.mp h.symm
        obtain rfl := Value.string.inj hv
        exact ⟨more, hitems.symm, rfl⟩

/-- **A list is refused** by its first item that is no text. -/
theorem allStrings_eq_error_iff {items : List Value} {e : RuleError} :
    allStrings rule key items = .error e ↔
      ∃ (texts : List String) (item : Value) (after : List Value),
        items = texts.map .string ++ item :: after ∧ (∀ text, item ≠ .string text) ∧
          e = notStrings rule key item := by
  induction items with
  | nil =>
    refine iff_of_false nofun ?_
    rintro ⟨texts, item, after, h, -⟩
    simp at h
  | cons v items ih =>
    unfold allStrings
    cases htext : v.asString? with
    | none =>
      have hv := asString?_eq_none_iff.mp htext
      constructor
      · intro h
        exact ⟨[], v, items, rfl, hv, (Except.error.inj h).symm⟩
      · rintro ⟨texts, item, after, h, -, rfl⟩
        cases texts with
        | nil => rw [(List.cons.inj h).1]
        | cons text texts => exact absurd (List.cons.inj h).1 (hv text)
    | some text =>
      obtain rfl := asString?_eq_some_iff.mp htext
      simp only [map_eq_error_iff, ih]
      constructor
      · rintro ⟨texts, item, after, rfl, hitem⟩
        exact ⟨text :: texts, item, after, rfl, hitem⟩
      · rintro ⟨texts, item, after, h, hitem⟩
        cases texts with
        | nil => exact absurd (List.cons.inj h).1.symm (hitem.1 text)
        | cons _ texts => exact ⟨texts, item, after, (List.cons.inj h).2, hitem⟩

variable {options : RuleOptions}

theorem string?_eq_ok_iff {text? : Option String} :
    options.string? rule key = .ok text? ↔ options.field? key = text?.map .string := by
  unfold string?
  cases options.field? key with
  | none => cases text? <;> simp
  | some v => cases v <;> cases text? <;> simp [Value.asString?]

theorem string?_eq_error_iff {e : RuleError} :
    options.string? rule key = .error e ↔ ∃ v, options.field? key = some v ∧
      (∀ text, v ≠ .string text) ∧
        e = .invalidOption rule key ("expected a string, found " ++ v.typeName) := by
  unfold string?
  cases options.field? key with
  | none => simp
  | some v => cases v <;> simp [Value.asString?, eq_comm]

theorem strings_eq_ok_iff {texts : List String} :
    options.strings rule key = .ok texts ↔ (options.field? key = none ∧ texts = []) ∨
      options.field? key = some (.array (texts.map .string)) := by
  unfold strings
  cases options.field? key with
  | none => simp [eq_comm]
  | some v => cases v <;> simp [Value.asArray?, allStrings_eq_ok_iff]

theorem strings_eq_error_iff {e : RuleError} :
    options.strings rule key = .error e ↔
      (∃ v, options.field? key = some v ∧ (∀ items, v ≠ .array items) ∧
        e = notStrings rule key v) ∨
      ∃ (texts : List String) (item : Value) (after : List Value),
        options.field? key = some (.array (texts.map .string ++ item :: after)) ∧
          (∀ text, item ≠ .string text) ∧ e = notStrings rule key item := by
  unfold strings
  cases options.field? key with
  | none => simp
  | some v => cases v <;> simp [Value.asArray?, allStrings_eq_error_iff, eq_comm (a := e)]

end RuleOptions

/-! ### The three options -/

namespace SideEffectCode

open SuiteLint.Tree (ClassifierSettings)

/-- The options that the rule looks up, in this order. -/
def optionKeys : List String := ["ignore", "safe_calls", "safe_constructors"]

/-- `GivesPattern compile settings ignore`: there is no pattern in the settings, or it is a text
that compiles. -/
inductive GivesPattern (compile : Regex.Compiler) (settings : RuleSettings) :
    Option Regex → Prop where
  | absent (h : ∀ v, ¬ settings.Effective "ignore" v) : GivesPattern compile settings none
  | text {pattern : String} {regex : Regex} (h : settings.Effective "ignore" (.string pattern))
      (compiles : compile pattern = .ok regex) : GivesPattern compile settings (some regex)

/-- `GivesTexts settings key texts`: there is no list in the settings, or it consists of texts. -/
inductive GivesTexts (settings : RuleSettings) (key : String) : List String → Prop where
  | absent (h : ∀ v, ¬ settings.Effective key v) : GivesTexts settings key []
  | list {texts : List String} (h : settings.Effective key (.array (texts.map .string))) :
      GivesTexts settings key texts

/-- The default settings of the classifier with a pattern and with more calls and constructors. -/
def extended (ignore : Option Regex) (calls constructors : List String) : ClassifierSettings :=
  let defaults : ClassifierSettings := {}
  { safeCallTexts := defaults.safeCallTexts ++ calls
    safeCallTargets := defaults.safeCallTargets ++ calls
    safeConstructors := defaults.safeConstructors ++ constructors
    ignore := ignore }

/-- **Settings of the classifier** that the rule gets: the defaults, extended by what is given. -/
def Extends (compile : Regex.Compiler) (settings : RuleSettings) (c : ClassifierSettings) : Prop :=
  ∃ ignore calls constructors, GivesPattern compile settings ignore ∧
    GivesTexts settings "safe_calls" calls ∧ GivesTexts settings "safe_constructors" constructors ∧
    c = extended ignore calls constructors

/-- **Offence**: the effective value of a key has the wrong form, for this reason. -/
inductive Offends (compile : Regex.Compiler) (settings : RuleSettings) :
    (key reason : String) → Prop where
  /-- The pattern is no text. -/
  | noText {v : Value} (h : settings.Effective "ignore" v) (other : ∀ text, v ≠ .string text) :
      Offends compile settings "ignore" ("expected a string, found " ++ v.typeName)
  /-- The pattern does not compile, and the compiler gives the reason. -/
  | noPattern {pattern reason : String} (h : settings.Effective "ignore" (.string pattern))
      (fails : compile pattern = .error reason) : Offends compile settings "ignore" reason
  /-- A list is none. -/
  | noList {key : String} {v : Value} (hkey : key = "safe_calls" ∨ key = "safe_constructors")
      (h : settings.Effective key v) (other : ∀ items, v ≠ .array items) :
      Offends compile settings key ("expected an array of strings, found " ++ v.typeName)
  /-- An item of a list is no text, and it is the first such item. -/
  | noTextAt {key : String} {texts : List String} {item : Value} {after : List Value}
      (hkey : key = "safe_calls" ∨ key = "safe_constructors")
      (h : settings.Effective key (.array (texts.map .string ++ item :: after)))
      (other : ∀ text, item ≠ .string text) :
      Offends compile settings key ("expected an array of strings, found " ++ item.typeName)

/-- **The first offence** among keys that are looked up one after the other. -/
inductive FirstOffence (compile : Regex.Compiler) (settings : RuleSettings) :
    (keys : List String) → (key reason : String) → Prop where
  | here {key reason : String} {rest : List String} (h : Offends compile settings key reason) :
      FirstOffence compile settings (key :: rest) key reason
  | later {first key reason : String} {rest : List String}
      (h : ∀ r, ¬ Offends compile settings first r)
      (hrest : FirstOffence compile settings rest key reason) :
      FirstOffence compile settings (first :: rest) key reason

variable {compile : Regex.Compiler}

theorem firstOffence_cons_iff {settings : RuleSettings} {first key reason : String}
    {rest : List String} :
    FirstOffence compile settings (first :: rest) key reason ↔
      (key = first ∧ Offends compile settings first reason) ∨
        (∀ r, ¬ Offends compile settings first r) ∧
          FirstOffence compile settings rest key reason := by
  constructor
  · rintro (h | ⟨h, hrest⟩)
    · exact Or.inl ⟨rfl, h⟩
    · exact Or.inr ⟨h, hrest⟩
  · rintro (⟨rfl, h⟩ | ⟨h, hrest⟩)
    · exact .here h
    · exact .later h hrest

/-- The first step: the pattern is looked up and compiled. -/
def patternOf (compile : Regex.Compiler) (options : RuleOptions) :
    Except RuleError (Option Regex) :=
  options.string? name "ignore" >>= fun
    | none => .ok none
    | some pattern => (compileIgnore compile pattern).map some

/-- **The rule is set up** in three steps. -/
theorem settingsOf_eq (options : RuleOptions) :
    settingsOf options compile =
      patternOf compile options >>= fun ignore =>
        options.strings name "safe_calls" >>= fun calls =>
          options.strings name "safe_constructors" >>= fun constructors =>
            .ok (extended ignore calls constructors) := by
  unfold settingsOf patternOf
  cases options.string? name "ignore" with
  | error e => rfl
  | ok pattern => cases pattern <;> rfl

section

variable {settings : RuleSettings}

/-- The first step succeeds with the pattern that the settings give. -/
theorem patternOf_eq_ok_iff {ignore : Option Regex} :
    patternOf compile ⟨settings.allOptions⟩ = .ok ignore ↔
      GivesPattern compile settings ignore := by
  simp only [patternOf, bind_eq_ok_iff, RuleOptions.string?_eq_ok_iff]
  constructor
  · rintro ⟨pattern?, hfield, hignore⟩
    cases pattern? with
    | none =>
      obtain rfl := Except.ok.inj hignore
      exact .absent (RuleSettings.field?_allOptions_eq_none_iff.mp hfield)
    | some pattern =>
      obtain ⟨regex, hregex, rfl⟩ := map_eq_ok_iff.mp hignore
      exact .text (RuleSettings.field?_allOptions_eq_some_iff.mp hfield)
        (mapError_eq_ok_iff.mp hregex)
  · rintro (habsent | ⟨h, hcompiles⟩)
    · exact ⟨none, RuleSettings.field?_allOptions_eq_none_iff.mpr habsent, rfl⟩
    · exact ⟨some _, RuleSettings.field?_allOptions_eq_some_iff.mpr h,
        map_eq_ok_iff.mpr ⟨_, mapError_eq_ok_iff.mpr hcompiles, rfl⟩⟩

theorem patternOf_eq_error_iff {e : RuleError} :
    patternOf compile ⟨settings.allOptions⟩ = .error e ↔
      ∃ reason, Offends compile settings "ignore" reason ∧
        e = .invalidOption name "ignore" reason := by
  simp only [patternOf, bind_eq_error_iff, RuleOptions.string?_eq_ok_iff,
    RuleOptions.string?_eq_error_iff]
  constructor
  · rintro (⟨v, hfield, hother, rfl⟩ | ⟨pattern?, hfield, hfails⟩)
    · exact ⟨_, .noText (RuleSettings.field?_allOptions_eq_some_iff.mp hfield) hother, rfl⟩
    · cases pattern? with
      | none => nomatch hfails
      | some pattern =>
        obtain ⟨reason, hreason, rfl⟩ := mapError_eq_error_iff.mp (map_eq_error_iff.mp hfails)
        exact ⟨_, .noPattern (RuleSettings.field?_allOptions_eq_some_iff.mp hfield) hreason, rfl⟩
  · rintro ⟨_, hoffends, rfl⟩
    cases hoffends with
    | noText h hother =>
      exact Or.inl ⟨_, RuleSettings.field?_allOptions_eq_some_iff.mpr h, hother, rfl⟩
    | noPattern h hfails =>
      exact Or.inr ⟨some _, RuleSettings.field?_allOptions_eq_some_iff.mpr h,
        map_eq_error_iff.mpr (mapError_eq_error_iff.mpr ⟨_, hfails, rfl⟩)⟩
    | noList hkey => simp at hkey
    | noTextAt hkey => simp at hkey

/-- The other steps succeed with the texts that the settings give. -/
theorem strings_allOptions_eq_ok_iff {key : String} {texts : List String} :
    RuleOptions.strings ⟨settings.allOptions⟩ name key = .ok texts ↔
      GivesTexts settings key texts := by
  rw [RuleOptions.strings_eq_ok_iff, RuleSettings.field?_allOptions_eq_none_iff,
    RuleSettings.field?_allOptions_eq_some_iff]
  constructor
  · rintro (⟨habsent, rfl⟩ | h)
    · exact .absent habsent
    · exact .list h
  · rintro (habsent | h)
    · exact Or.inl ⟨habsent, rfl⟩
    · exact Or.inr h

theorem strings_allOptions_eq_error_iff {key : String} {e : RuleError}
    (hkey : key = "safe_calls" ∨ key = "safe_constructors") :
    RuleOptions.strings ⟨settings.allOptions⟩ name key = .error e ↔
      ∃ reason, Offends compile settings key reason ∧ e = .invalidOption name key reason := by
  simp only [RuleOptions.strings_eq_error_iff, RuleSettings.field?_allOptions_eq_some_iff]
  constructor
  · rintro (⟨v, h, hother, rfl⟩ | ⟨texts, item, after, h, hother, rfl⟩)
    · exact ⟨_, .noList hkey h hother, rfl⟩
    · exact ⟨_, .noTextAt hkey h hother, rfl⟩
  · rintro ⟨_, hoffends, rfl⟩
    cases hoffends with
    | noText => simp at hkey
    | noPattern => simp at hkey
    | noList _ h hother => exact Or.inl ⟨_, h, hother, rfl⟩
    | noTextAt _ h hother => exact Or.inr ⟨_, _, _, h, hother, rfl⟩

/-! ### All of them -/

theorem settingsOf_eq_ok_iff {c : ClassifierSettings} :
    settingsOf ⟨settings.allOptions⟩ compile = .ok c ↔ Extends compile settings c := by
  simp only [settingsOf_eq, bind_eq_ok_iff, patternOf_eq_ok_iff, strings_allOptions_eq_ok_iff,
    Extends]
  constructor
  · rintro ⟨ignore, hignore, calls, hcalls, constructors, hconstructors, hc⟩
    exact ⟨ignore, calls, constructors, hignore, hcalls, hconstructors, (Except.ok.inj hc).symm⟩
  · rintro ⟨ignore, calls, constructors, hignore, hcalls, hconstructors, rfl⟩
    exact ⟨ignore, hignore, calls, hcalls, constructors, hconstructors, rfl⟩

/-- A key offends iff its step does not succeed. -/
theorem forall_not_offends_iff {key : String} {α : Type} {step : Except RuleError α}
    (h : ∀ e, step = .error e ↔
      ∃ reason, Offends compile settings key reason ∧ e = .invalidOption name key reason) :
    (∀ reason, ¬ Offends compile settings key reason) ↔ ∃ a, step = .ok a := by
  cases step with
  | ok a =>
    refine iff_of_true (fun reason hoffends => ?_) ⟨a, rfl⟩
    nomatch (h _).mpr ⟨reason, hoffends, rfl⟩
  | error e =>
    obtain ⟨reason, hoffends, -⟩ := (h e).mp rfl
    exact iff_of_false (fun hnone => hnone reason hoffends) nofun

/-- **A step and those after it** fail by the first offence, if the ones after it do. -/
theorem bind_eq_error_iff_firstOffence {key : String} {rest : List String} {α β : Type}
    {step : Except RuleError α} {next : α → Except RuleError β}
    (hstep : ∀ e, step = .error e ↔
      ∃ reason, Offends compile settings key reason ∧ e = .invalidOption name key reason)
    (hnext : ∀ a e, next a = .error e ↔
      ∃ later reason, FirstOffence compile settings rest later reason ∧
        e = .invalidOption name later reason) (e : RuleError) :
    step >>= next = .error e ↔
      ∃ found reason, FirstOffence compile settings (key :: rest) found reason ∧
        e = .invalidOption name found reason := by
  simp only [bind_eq_error_iff, hstep, hnext, firstOffence_cons_iff, forall_not_offends_iff hstep]
  constructor
  · rintro (⟨reason, hoffends, rfl⟩ | ⟨a, ha, later, reason, hlater, rfl⟩)
    · exact ⟨key, reason, Or.inl ⟨rfl, hoffends⟩, rfl⟩
    · exact ⟨later, reason, Or.inr ⟨⟨a, ha⟩, hlater⟩, rfl⟩
  · rintro ⟨found, reason, ⟨rfl, hoffends⟩ | ⟨⟨a, ha⟩, hlater⟩, rfl⟩
    · exact Or.inl ⟨reason, hoffends, rfl⟩
    · exact Or.inr ⟨a, ha, found, reason, hlater, rfl⟩

theorem settingsOf_eq_error_iff {e : RuleError} :
    settingsOf ⟨settings.allOptions⟩ compile = .error e ↔
      ∃ key reason, FirstOffence compile settings optionKeys key reason ∧
        e = .invalidOption name key reason := by
  rw [settingsOf_eq]
  refine bind_eq_error_iff_firstOffence (fun _ => patternOf_eq_error_iff) (fun ignore => ?_) e
  refine bind_eq_error_iff_firstOffence
    (fun _ => strings_allOptions_eq_error_iff (Or.inl rfl)) (fun calls => ?_)
  refine bind_eq_error_iff_firstOffence
    (fun _ => strings_allOptions_eq_error_iff (Or.inr rfl)) (fun constructors _ => ?_)
  refine iff_of_false nofun ?_
  rintro ⟨_, _, hnone, -⟩
  nomatch hnone

/-- **The outcome depends** on the effective values of the three keys alone. -/
theorem settingsOf_congr {settings' : RuleSettings}
    (h : ∀ key ∈ optionKeys, ∀ v, settings'.Effective key v ↔ settings.Effective key v) :
    settingsOf ⟨settings'.allOptions⟩ compile = settingsOf ⟨settings.allOptions⟩ compile := by
  have hfield : ∀ key ∈ optionKeys, RuleOptions.field? ⟨settings'.allOptions⟩ key =
      RuleOptions.field? ⟨settings.allOptions⟩ key := by
    intro key hkey
    refine Option.ext fun v => ?_
    rw [RuleSettings.field?_allOptions_eq_some_iff, RuleSettings.field?_allOptions_eq_some_iff,
      h key hkey v]
  have hignore := hfield "ignore" (by decide)
  have hcalls := hfield "safe_calls" (by decide)
  have hconstructors := hfield "safe_constructors" (by decide)
  simp only [settingsOf_eq, patternOf, RuleOptions.string?, RuleOptions.strings, hignore, hcalls,
    hconstructors]

theorem exists_givesPattern_iff :
    (∃ ignore, GivesPattern compile settings ignore) ↔ ∀ v, settings.Effective "ignore" v →
      ∃ pattern regex, v = .string pattern ∧ compile pattern = .ok regex := by
  constructor
  · rintro ⟨_, habsent | ⟨htext, hcompiles⟩⟩ v h
    · exact absurd h (habsent v)
    · exact ⟨_, _, h.unique htext, hcompiles⟩
  · intro hform
    by_cases hgiven : ∃ v, settings.Effective "ignore" v
    · obtain ⟨v, h⟩ := hgiven
      obtain ⟨pattern, regex, rfl, hcompiles⟩ := hform v h
      exact ⟨some regex, .text h hcompiles⟩
    · exact ⟨none, .absent (not_exists.mp hgiven)⟩

theorem exists_givesTexts_iff {key : String} :
    (∃ texts, GivesTexts settings key texts) ↔ ∀ v, settings.Effective key v →
      ∃ texts : List String, v = .array (texts.map .string) := by
  constructor
  · rintro ⟨_, habsent | hlist⟩ v h
    · exact absurd h (habsent v)
    · exact ⟨_, h.unique hlist⟩
  · intro hform
    by_cases hgiven : ∃ v, settings.Effective key v
    · obtain ⟨v, h⟩ := hgiven
      obtain ⟨texts, rfl⟩ := hform v h
      exact ⟨texts, .list h⟩
    · exact ⟨[], .absent (not_exists.mp hgiven)⟩

/-- The settings can be given iff each effective value has the right form. -/
theorem exists_extends_iff :
    (∃ c, Extends compile settings c) ↔
      (∃ ignore, GivesPattern compile settings ignore) ∧
        (∃ calls, GivesTexts settings "safe_calls" calls) ∧
        ∃ constructors, GivesTexts settings "safe_constructors" constructors := by
  constructor
  · rintro ⟨_, ignore, calls, constructors, hignore, hcalls, hconstructors, -⟩
    exact ⟨⟨ignore, hignore⟩, ⟨calls, hcalls⟩, ⟨constructors, hconstructors⟩⟩
  · rintro ⟨⟨ignore, hignore⟩, ⟨calls, hcalls⟩, ⟨constructors, hconstructors⟩⟩
    exact ⟨_, ignore, calls, constructors, hignore, hcalls, hconstructors, rfl⟩

end

/-- **Setting up the rule** from the options among its settings, with any compiler of patterns.  It
succeeds iff the effective pattern is absent or a text that compiles and the effective lists are
absent or consist of texts; the settings of the classifier are then the defaults, extended by these
values.  Otherwise it fails by the first of the three keys that offends.  The outcome is the same
for any settings with the same effective values of these keys; in particular a stretch of the list
can be exchanged for another one if each of the keys is overridden, or has the same last value in
both. -/
theorem ofOptions_allOptions (compile : Regex.Compiler) (settings : RuleSettings) :
    ((∃ r, ofOptions ⟨settings.allOptions⟩ compile = .ok r) ↔
        (∀ v, settings.Effective "ignore" v →
          ∃ pattern regex, v = .string pattern ∧ compile pattern = .ok regex) ∧
        ∀ key ∈ ["safe_calls", "safe_constructors"], ∀ v, settings.Effective key v →
          ∃ texts : List String, v = .array (texts.map .string)) ∧
      (∀ r, ofOptions ⟨settings.allOptions⟩ compile = .ok r ↔
        ∃ c, Extends compile settings c ∧ r = rule c) ∧
      (∀ e, ofOptions ⟨settings.allOptions⟩ compile = .error e ↔
        ∃ key reason, FirstOffence compile settings optionKeys key reason ∧
          e = .invalidOption name key reason) ∧
      (∀ settings' : RuleSettings,
        (∀ key ∈ optionKeys, ∀ v, settings'.Effective key v ↔ settings.Effective key v) →
        ofOptions ⟨settings'.allOptions⟩ compile = ofOptions ⟨settings.allOptions⟩ compile) ∧
      ∀ front old new back, settings.options = front ++ old ++ back →
        (∀ key ∈ optionKeys, settings.Overridden back key ∨
          ∀ v, LastUnder old key v ↔ LastUnder new key v) →
        ofOptions ⟨RuleSettings.allOptions { settings with options := front ++ new ++ back }⟩
            compile =
          ofOptions ⟨settings.allOptions⟩ compile := by
  have hok : ∀ r, ofOptions ⟨settings.allOptions⟩ compile = .ok r ↔
      ∃ c, Extends compile settings c ∧ r = rule c := by
    intro r
    simp only [ofOptions, map_eq_ok_iff, settingsOf_eq_ok_iff, eq_comm (a := r)]
  have hcongr : ∀ settings' : RuleSettings,
      (∀ key ∈ optionKeys, ∀ v, settings'.Effective key v ↔ settings.Effective key v) →
      ofOptions ⟨settings'.allOptions⟩ compile = ofOptions ⟨settings.allOptions⟩ compile :=
    fun settings' h => by rw [ofOptions, ofOptions, settingsOf_congr h]
  refine ⟨?_, hok, fun e => ?_, hcongr, fun front old new back hsplit hkeys => ?_⟩
  · have hsome : (∃ r, ofOptions ⟨settings.allOptions⟩ compile = .ok r) ↔
        ∃ c, Extends compile settings c := by
      simp only [hok]
      exact ⟨fun ⟨_, c, hc, _⟩ => ⟨c, hc⟩, fun ⟨c, hc⟩ => ⟨rule c, c, hc, rfl⟩⟩
    rw [hsome, exists_extends_iff, exists_givesPattern_iff, exists_givesTexts_iff,
      exists_givesTexts_iff, List.forall_mem_cons, List.forall_mem_singleton]
  · rw [ofOptions, map_eq_error_iff, settingsOf_eq_error_iff]
  · refine hcongr _ fun key hkey v => ?_
    have hold : settings = { settings with options := front ++ old ++ back } := by rw [← hsplit]
    rw [← RuleSettings.effective_exchange (hkeys key hkey) v, ← hold]

/-- A number, a malformed list and a malformed pattern that are overridden make no difference: the
pattern of the field and the later list count.  A list with a number in it is refused. -/
theorem ofOptions_allOptions_overridden :
    let stale : List Value :=
      [.integer 3, .table [("safe_calls", .boolean true), ("ignore", .string "(")]]
    let calls : Value := .table [("safe_calls", .array [.string "load()"])]
    let settings : RuleSettings :=
      { options := stale ++ [calls], fields := [("ignore", .string "^mock")] }
    let refused : RuleSettings :=
      { settings with
        fields := [("safe_constructors", .array [.string "Stub", .integer 1])], options := [calls] }
    (∃ regex, Regex.compiler "^mock" = .ok regex ∧
        regex.isMatch "mockAll()" = true ∧ regex.isMatch "loadMock()" = false ∧
        ofOptions ⟨settings.allOptions⟩ = .ok (rule (extended (some regex) ["load()"] []))) ∧
      ofOptions ⟨RuleSettings.allOptions { settings with options := [calls] }⟩
        = ofOptions ⟨settings.allOptions⟩ ∧
      ofOptions ⟨refused.allOptions⟩ = .error (.invalidOption name "safe_constructors"
        "expected an array of strings, found integer") := by
  intro stale calls settings refused
  obtain ⟨-, hok, -, -, hexchange⟩ := ofOptions_allOptions Regex.compiler settings
  obtain ⟨-, -, herror, -, -⟩ := ofOptions_allOptions Regex.compiler refused
  have hpattern : settings.Effective "ignore" (.string "^mock") := .field rfl
  have hcalls : settings.Effective "safe_calls" (.array (["load()"].map .string)) :=
    RuleSettings.field?_allOptions_eq_some_iff.mp rfl
  have hconstructors : ∀ v, ¬ settings.Effective "safe_constructors" v :=
    RuleSettings.field?_allOptions_eq_none_iff.mp rfl
  refine ⟨?_, ?_, ?_⟩
  · refine ⟨_, rfl, by decide +kernel, by decide +kernel, (hok _).mpr ⟨_, ?_, rfl⟩⟩
    exact ⟨_, _, _, .text hpattern rfl, .list hcalls, .absent hconstructors, rfl⟩
  · refine hexchange [] stale [] [calls] rfl fun key hkey => ?_
    have hkeys : key = "ignore" ∨ key = "safe_calls" ∨ key = "safe_constructors" := by
      simpa [optionKeys] using hkey
    rcases hkeys with rfl | rfl | rfl
    · exact Or.inl (Or.inl (by simp [settings]))
    · exact Or.inl (Or.inr ⟨_, List.mem_singleton_self _, by simp⟩)
    · refine Or.inr fun v => ?_
      rw [← RuleOptions.field?_eq_some_iff, ← RuleOptions.field?_eq_some_iff]
      rfl
  · have hignore : patternOf Regex.compiler ⟨refused.allOptions⟩ = .ok none := rfl
    have hlist : RuleOptions.strings ⟨refused.allOptions⟩ name "safe_calls" = .ok ["load()"] := rfl
    refine (herror _).mpr ⟨"safe_constructors", _, .later ?_ (.later ?_ (.here ?_)), rfl⟩
    · exact (forall_not_offends_iff fun _ => patternOf_eq_error_iff).mpr ⟨none, hignore⟩
    · exact (forall_not_offends_iff fun _ => strings_allOptions_eq_error_iff (Or.inl rfl)).mpr
        ⟨_, hlist⟩
    · have hvalue : refused.Effective "safe_constructors"
          (.array (["Stub"].map .string ++ .integer 1 :: [])) := .field rfl
      exact .noTextAt (Or.inr rfl) hvalue nofun

end SideEffectCode

end SuiteLint
