import Mathlib.Data.List.Forall2
import SuiteLint.Proofs.Analysis.SeverityOverride
import SuiteLint.Proofs.Outcome.Success
import SuiteLint.Rule.Catalog

/-!
# The rules for a run

A run is asked for rules by a list of entries, each the name or the code of a rule, or by a preset.
This module says which rules come out, and in which failures, whatever compiles the patterns among
the options.

* `Denotes` relates an entry to the rule that it asks for, and `Accepts` and `Rejects` a rule to
  options that it can and cannot be set up with.  Out of these are made the outcomes for one entry
  (`Built`, `Refused`), and the functions that compute them agree (`configured_eq_ok_iff`,
  `configured_eq_error_iff`).
* `rulesFor_outcome` puts the entries together: the first one that is refused decides, switched off
  or not; otherwise the rules come out in the order of the entries, less those switched off.  It
  makes no difference whether an entry is a code or a name, and an analyzer with the same
  configuration applies every rule that comes out.
-/

namespace SuiteLint.Catalog

open SuiteLint.Tree (Dialect)

/-! ### One entry -/

/-- `Denotes entry m`: the entry is the name or the code of the rule with this description. -/
def Denotes (entry : String) (m : RuleMetadata) : Prop :=
  m ∈ catalog ∧ (entry = m.name ∨ entry = m.code)

/-- `Accepts compile m options rule`: the described rule, set up with these options, is `rule`.  The
rule on side-effect code reads its settings from them; the one on stateless classes has no
options. -/
def Accepts (compile : Regex.Compiler) (m : RuleMetadata) (options : RuleOptions) (rule : Rule) :
    Prop :=
  (m = SideEffectCode.metadata ∧ ∃ settings,
      SideEffectCode.settingsOf options compile = .ok settings ∧
        SideEffectCode.rule settings = rule) ∨
    (m = StatelessClass.metadata ∧ StatelessClass.rule = rule)

/-- `Rejects compile m options e`: the described rule cannot be set up with these options. -/
def Rejects (compile : Regex.Compiler) (m : RuleMetadata) (options : RuleOptions) (e : RuleError) :
    Prop :=
  m = SideEffectCode.metadata ∧ SideEffectCode.settingsOf options compile = .error e

/-- The entry asks for a rule, and the options under the name of that rule make it `rule`. -/
def Built (compile : Regex.Compiler) (config : Config) (entry : String) (rule : Rule) : Prop :=
  ∃ m, Denotes entry m ∧ Accepts compile m ⟨config.optionsFor m.name⟩ rule

/-- The entry asks for no rule, or the options under the name of its rule are rejected. -/
def Refused (compile : Regex.Compiler) (config : Config) (entry : String) (e : RuleError) : Prop :=
  ((∀ m, ¬ Denotes entry m) ∧ e = .unknown entry) ∨
    ∃ m, Denotes entry m ∧ Rejects compile m ⟨config.optionsFor m.name⟩ e

variable {compile : Regex.Compiler}

theorem mem_catalog_iff {m : RuleMetadata} :
    m ∈ catalog ↔ m = SideEffectCode.metadata ∨ m = StatelessClass.metadata := by
  have hcatalog : catalog = [SideEffectCode.metadata, StatelessClass.metadata] := rfl
  rw [hcatalog, List.mem_cons, List.mem_singleton]

theorem canonicalName_of_denotes {entry : String} {m : RuleMetadata} (h : Denotes entry m) :
    canonicalName entry = m.name := by
  obtain ⟨hm, hentry⟩ := h
  rcases mem_catalog_iff.mp hm with rfl | rfl <;> rcases hentry with rfl | rfl <;> rfl

theorem build_of_denotes {entry : String} {m : RuleMetadata} (h : Denotes entry m)
    (options : RuleOptions) : build entry options compile = build m.name options compile := by
  obtain ⟨hm, hentry⟩ := h
  rcases mem_catalog_iff.mp hm with rfl | rfl <;> rcases hentry with rfl | rfl <;> rfl

theorem denotes_name {m : RuleMetadata} (h : m ∈ catalog) : Denotes m.name m :=
  ⟨h, Or.inl rfl⟩

/-- **A code stands for its name**, in what is built as well as in whose options are taken. -/
theorem configured_of_denotes {entry : String} {m : RuleMetadata} (h : Denotes entry m)
    (config : Config) :
    configured compile config entry = build m.name ⟨config.optionsFor m.name⟩ compile := by
  rw [configured, canonicalName_of_denotes h, build_of_denotes h]

theorem configured_name_of_denotes {entry : String} {m : RuleMetadata} (h : Denotes entry m)
    (config : Config) : configured compile config entry = configured compile config m.name := by
  rw [configured_of_denotes h, configured_of_denotes (denotes_name h.1)]

theorem metadata_ne : SideEffectCode.metadata ≠ StatelessClass.metadata := by
  decide

theorem build_name_eq_ok_iff {m : RuleMetadata} (hm : m ∈ catalog) {options : RuleOptions}
    {rule : Rule} : build m.name options compile = .ok rule ↔ Accepts compile m options rule := by
  rcases mem_catalog_iff.mp hm with rfl | rfl
  · have hbuild : build SideEffectCode.metadata.name options compile
        = (SideEffectCode.settingsOf options compile).map SideEffectCode.rule := rfl
    rw [hbuild, map_eq_ok_iff, Accepts, or_iff_left fun h => metadata_ne h.1, and_iff_right rfl]
  · have hbuild : build StatelessClass.metadata.name options compile
        = .ok StatelessClass.rule := rfl
    rw [hbuild, Except.ok.injEq, Accepts, or_iff_right fun h => metadata_ne h.1.symm,
      and_iff_right rfl]

theorem build_name_eq_error_iff {m : RuleMetadata} (hm : m ∈ catalog) {options : RuleOptions}
    {e : RuleError} : build m.name options compile = .error e ↔ Rejects compile m options e := by
  rcases mem_catalog_iff.mp hm with rfl | rfl
  · have hbuild : build SideEffectCode.metadata.name options compile
        = (SideEffectCode.settingsOf options compile).map SideEffectCode.rule := rfl
    rw [hbuild, map_eq_error_iff, Rejects, and_iff_right rfl]
  · have hbuild : build StatelessClass.metadata.name options compile
        = .ok StatelessClass.rule := rfl
    rw [hbuild]
    exact iff_of_false nofun fun h => metadata_ne h.1.symm

theorem build_of_forall_not_denotes {entry : String} (h : ∀ m, ¬ Denotes entry m)
    (options : RuleOptions) : build entry options compile = .error (.unknown entry) := by
  have hcode := h SideEffectCode.metadata
  have hclass := h StatelessClass.metadata
  rw [Denotes, and_iff_right (mem_catalog_iff.mpr (Or.inl rfl))] at hcode
  rw [Denotes, and_iff_right (mem_catalog_iff.mpr (Or.inr rfl))] at hclass
  exact (if_neg hcode).trans (if_neg hclass)

theorem configured_eq_ok_iff {config : Config} {entry : String} {rule : Rule} :
    configured compile config entry = .ok rule ↔ Built compile config entry rule := by
  constructor
  · intro h
    by_cases hknown : ∃ m, Denotes entry m
    · obtain ⟨m, hm⟩ := hknown
      rw [configured_of_denotes hm, build_name_eq_ok_iff hm.1] at h
      exact ⟨m, hm, h⟩
    · rw [configured, build_of_forall_not_denotes (not_exists.mp hknown)] at h
      contradiction
  · rintro ⟨m, hm, haccepts⟩
    rw [configured_of_denotes hm, build_name_eq_ok_iff hm.1]
    exact haccepts

theorem configured_eq_error_iff {config : Config} {entry : String} {e : RuleError} :
    configured compile config entry = .error e ↔ Refused compile config entry e := by
  constructor
  · intro h
    by_cases hknown : ∃ m, Denotes entry m
    · obtain ⟨m, hm⟩ := hknown
      rw [configured_of_denotes hm, build_name_eq_error_iff hm.1] at h
      exact Or.inr ⟨m, hm, h⟩
    · rw [configured, build_of_forall_not_denotes (not_exists.mp hknown)] at h
      exact Or.inl ⟨not_exists.mp hknown, (Except.error.inj h).symm⟩
  · rintro (⟨hunknown, rfl⟩ | ⟨m, hm, hrejects⟩)
    · exact build_of_forall_not_denotes hunknown _
    · rw [configured_of_denotes hm, build_name_eq_error_iff hm.1]
      exact hrejects

/-- An entry is refused or not, and in the latter case it makes a rule. -/
theorem exists_built_iff {config : Config} {entry : String} :
    (∃ rule, configured compile config entry = .ok rule) ↔
      ∀ e, ¬ Refused compile config entry e := by
  simp only [← configured_eq_error_iff]
  cases configured compile config entry <;> simp

/-! ### The entries of a run -/

/-- `Requested config only entries`: these are the entries to set up, the listed ones or, where none
is listed, the names of the rules that the preset takes from the catalogue. -/
inductive Requested (config : Config) : List String → List String → Prop where
  /-- What is listed is asked for. -/
  | listed {only : List String} (h : only ≠ []) : Requested config only only
  /-- Without a list, the rules that run by default are asked for, also where no preset is named. -/
  | recommended (h : config.preset = none ∨ config.preset = some "recommended") :
      Requested config [] ((catalog.filter (fun m => m.enabledByDefault)).map RuleMetadata.name)
  /-- All rules may be asked for. -/
  | all (h : config.preset = some "all") : Requested config [] (catalog.map RuleMetadata.name)

/-- `UnknownPreset config only name`: nothing is listed, and the preset has a name that no preset
has. -/
def UnknownPreset (config : Config) (only : List String) (name : String) : Prop :=
  only = [] ∧ config.preset = some name ∧ name ≠ "recommended" ∧ name ≠ "all"

theorem ofName?_eq_none_iff {name : String} :
    Preset.ofName? name = none ↔ name ≠ "recommended" ∧ name ≠ "all" := by
  unfold Preset.ofName?
  split <;> simp_all

theorem requested_of_preset_none {config : Config} (h : config.preset = none) :
    requested config []
      = .ok ((catalog.filter (fun m => m.enabledByDefault)).map RuleMetadata.name) := by
  obtain ⟨preset, failOn, analyzer, rules⟩ := config
  obtain rfl : preset = none := h
  rfl

theorem requested_of_preset_some {config : Config} {name : String} (h : config.preset = some name) :
    requested config [] = match Preset.ofName? name with
      | some preset => .ok (preset.rules.map (fun rule => rule.metadata.name))
      | none => .error (.unknown ("preset '" ++ name ++ "'")) := by
  obtain ⟨preset, failOn, analyzer, rules⟩ := config
  obtain rfl : preset = some name := h
  rfl

theorem requested_of_requested {config : Config} {only entries : List String}
    (h : Requested config only entries) : requested config only = .ok entries := by
  cases h with
  | listed hlisted =>
    obtain ⟨entry, rest, rfl⟩ := List.exists_cons_of_ne_nil hlisted
    rfl
  | recommended hpreset =>
    rcases hpreset with hpreset | hpreset
    · exact requested_of_preset_none hpreset
    · rw [requested_of_preset_some hpreset]
      rfl
  | all hpreset =>
    rw [requested_of_preset_some hpreset]
    rfl

theorem requested_of_unknownPreset {config : Config} {only : List String} {name : String}
    (h : UnknownPreset config only name) :
    requested config only = .error (.unknown ("preset '" ++ name ++ "'")) := by
  obtain ⟨rfl, hpreset, hname⟩ := h
  rw [requested_of_preset_some hpreset, ofName?_eq_none_iff.mpr hname]

theorem requested_or_unknownPreset (config : Config) (only : List String) :
    (∃ entries, Requested config only entries) ∨ ∃ name, UnknownPreset config only name := by
  by_cases hlisted : only = []
  · subst hlisted
    cases hpreset : config.preset with
    | none => exact Or.inl ⟨_, .recommended (Or.inl hpreset)⟩
    | some name =>
      by_cases hrecommended : name = "recommended"
      · exact Or.inl ⟨_, .recommended (Or.inr (hrecommended ▸ hpreset))⟩
      · by_cases hall : name = "all"
        · exact Or.inl ⟨_, .all (hall ▸ hpreset)⟩
        · exact Or.inr ⟨name, rfl, hpreset, hrecommended, hall⟩
  · exact Or.inl ⟨only, .listed hlisted⟩

theorem requested_eq_ok_iff {config : Config} {only entries : List String} :
    requested config only = .ok entries ↔ Requested config only entries := by
  refine ⟨fun h => ?_, requested_of_requested⟩
  rcases requested_or_unknownPreset config only with ⟨entries', hentries⟩ | ⟨name, hname⟩
  · have hsame : entries' = entries :=
      Except.ok.inj ((requested_of_requested hentries).symm.trans h)
    exact hsame ▸ hentries
  · rw [requested_of_unknownPreset hname] at h
    contradiction

theorem requested_eq_error_iff {config : Config} {only : List String} {e : RuleError} :
    requested config only = .error e ↔
      ∃ name, UnknownPreset config only name ∧ e = .unknown ("preset '" ++ name ++ "'") := by
  constructor
  · intro h
    rcases requested_or_unknownPreset config only with ⟨entries, hentries⟩ | ⟨name, hname⟩
    · rw [requested_of_requested hentries] at h
      contradiction
    · rw [requested_of_unknownPreset hname] at h
      exact ⟨name, hname, (Except.error.inj h).symm⟩
  · rintro ⟨name, hname, rfl⟩
    exact requested_of_unknownPreset hname

/-! ### The outcome of a run -/

/-- The configuration switches the rule of this name off. -/
def SwitchedOff (config : Config) (name : String) : Prop :=
  (config.rule? name).bind RuleSettings.enabled = some false

instance (config : Config) (name : String) : Decidable (SwitchedOff config name) :=
  inferInstanceAs (Decidable (_ = _))

/-- `FirstRefused compile config entries e`: the first of the entries that is refused is so with
`e`. -/
def FirstRefused (compile : Regex.Compiler) (config : Config) (entries : List String)
    (e : RuleError) : Prop :=
  ∃ before entry after, entries = before ++ entry :: after ∧
    (∀ earlier ∈ before, ∀ e', ¬ Refused compile config earlier e') ∧ Refused compile config entry e

theorem isEnabled_iff {config : Config} {name : String} :
    config.isEnabled name true = true ↔ ¬ SwitchedOff config name := by
  unfold Config.isEnabled SwitchedOff
  cases (config.rule? name).bind RuleSettings.enabled with
  | none => simp
  | some enabled => cases enabled <;> simp

theorem rulesFor_eq (compile : Regex.Compiler) (config : Config) (only : List String) :
    rulesFor config only compile = requested config only >>= fun entries =>
      entries.mapM (configured compile config) >>= fun rules =>
        .ok (rules.filter (fun rule => config.isEnabled rule.metadata.name true)) := rfl

theorem rulesFor_eq_error_iff {config : Config} {only : List String} {e : RuleError} :
    rulesFor config only compile = .error e ↔
      (∃ name, UnknownPreset config only name ∧ e = .unknown ("preset '" ++ name ++ "'")) ∨
        ∃ entries, Requested config only entries ∧ FirstRefused compile config entries e := by
  rw [rulesFor_eq, bind_eq_error_iff, requested_eq_error_iff]
  refine or_congr_right (exists_congr fun entries => and_congr requested_eq_ok_iff ?_)
  rw [bind_eq_error_iff, or_iff_left (by simp), mapM_eq_error_iff]
  simp only [exists_built_iff, configured_eq_error_iff]
  rfl

/-- Entries can all be set up iff each of them makes a rule. -/
theorem mapM_configured_eq_ok_iff {config : Config} {entries : List String} {built : List Rule} :
    entries.mapM (configured compile config) = .ok built ↔
      List.Forall₂ (Built compile config) entries built := by
  rw [mapM_eq_ok_iff, eq_comm, ← List.forall₂_eq_eq_eq, List.forall₂_map_left_iff,
    List.forall₂_map_right_iff]
  simp only [configured_eq_ok_iff]

theorem rulesFor_eq_ok_iff {config : Config} {only : List String} {rules : List Rule} :
    rulesFor config only compile = .ok rules ↔
      ∃ entries built, Requested config only entries ∧
        List.Forall₂ (Built compile config) entries built ∧
        rules = built.filter (fun rule => ¬ SwitchedOff config rule.metadata.name) := by
  have hfilter : ∀ built : List Rule,
      built.filter (fun rule => config.isEnabled rule.metadata.name true)
        = built.filter (fun rule => ¬ SwitchedOff config rule.metadata.name) := by
    intro built
    refine List.filter_congr fun rule _ => ?_
    rw [Bool.eq_iff_iff, isEnabled_iff, decide_eq_true_iff]
  simp only [rulesFor_eq, bind_eq_ok_iff, requested_eq_ok_iff, mapM_configured_eq_ok_iff, hfilter,
    Except.ok.injEq]
  constructor
  · rintro ⟨entries, hentries, built, hbuilt, rfl⟩
    exact ⟨entries, built, hentries, hbuilt, rfl⟩
  · rintro ⟨entries, built, hentries, hbuilt, rfl⟩
    exact ⟨entries, hentries, built, hbuilt, rfl⟩

theorem exists_right_of_mem {α β : Type} {R : α → β → Prop} {as : List α} {bs : List β}
    (h : List.Forall₂ R as bs) {a : α} (ha : a ∈ as) : ∃ b ∈ bs, R a b := by
  induction h with
  | nil => exact absurd ha List.not_mem_nil
  | cons hfirst _ ih =>
    rcases List.mem_cons.mp ha with rfl | ha
    · exact ⟨_, List.mem_cons_self, hfirst⟩
    · obtain ⟨b, hb, hR⟩ := ih ha
      exact ⟨b, List.mem_cons_of_mem _ hb, hR⟩

/-- **A run fails** iff its preset is unknown, or any of its entries is refused. -/
theorem exists_rulesFor_eq_error_iff {config : Config} {only : List String} :
    (∃ e, rulesFor config only compile = .error e) ↔
      (∃ name, UnknownPreset config only name) ∨
        ∃ entries, Requested config only entries ∧ ∃ entry ∈ entries, ∃ e,
          Refused compile config entry e := by
  constructor
  · rintro ⟨e, h⟩
    rcases rulesFor_eq_error_iff.mp h with
      ⟨name, hname, -⟩ | ⟨entries, hentries, before, entry, after, rfl, -, hrefused⟩
    · exact Or.inl ⟨name, hname⟩
    · exact Or.inr ⟨_, hentries, entry, by simp, e, hrefused⟩
  · intro h
    cases houtcome : rulesFor config only compile with
    | error e => exact ⟨e, rfl⟩
    | ok rules =>
      -- then every entry makes a rule, so none of them is refused
      obtain ⟨entries, built, hentries, hbuilt, -⟩ := rulesFor_eq_ok_iff.mp houtcome
      have hok := requested_of_requested hentries
      rcases h with ⟨name, hname⟩ | ⟨entries', hentries', entry, hentry, e, hrefused⟩
      · rw [requested_of_unknownPreset hname] at hok
        contradiction
      · have hsame : entries' = entries :=
          Except.ok.inj ((requested_of_requested hentries').symm.trans hok)
        obtain ⟨rule, -, hrule⟩ := exists_right_of_mem hbuilt (hsame ▸ hentry)
        exact absurd hrefused (exists_built_iff.mp ⟨rule, configured_eq_ok_iff.mpr hrule⟩ e)

/-! ### Names in place of codes -/

/-- `Renamed entries entries'`: some of the entries that are codes are replaced by the names of
their rules. -/
def Renamed : List String → List String → Prop :=
  List.Forall₂ fun entry entry' =>
    entry' = entry ∨ ∃ m ∈ catalog, entry = m.code ∧ entry' = m.name

theorem Renamed.map_configured {config : Config} {entries entries' : List String}
    (h : Renamed entries entries') :
    entries'.map (configured compile config) = entries.map (configured compile config) := by
  induction h with
  | nil => rfl
  | cons hentry _ ih =>
    rw [List.map_cons, List.map_cons, ih]
    rcases hentry with rfl | ⟨m, hm, rfl, rfl⟩
    · rfl
    · rw [configured_name_of_denotes ⟨hm, Or.inr rfl⟩]

theorem rulesFor_of_ne_nil {only : List String} (h : only ≠ []) (config : Config) :
    rulesFor config only compile = only.mapM (configured compile config) >>= fun rules =>
      .ok (rules.filter (fun rule => config.isEnabled rule.metadata.name true)) := by
  rw [rulesFor_eq, requested_of_requested (.listed h)]
  rfl

theorem rulesFor_of_renamed {config : Config} {entries entries' : List String}
    (h : Renamed entries entries') :
    rulesFor config entries' compile = rulesFor config entries compile := by
  have hmapM : entries'.mapM (configured compile config)
      = entries.mapM (configured compile config) := by
    rw [← Function.id_comp (configured compile config), ← List.mapM_map, ← List.mapM_map,
      h.map_configured]
  by_cases hnil : entries = []
  · subst hnil
    cases h
    rfl
  · have hnil' : entries' ≠ [] := by
      rintro rfl
      cases h
      exact hnil rfl
    rw [rulesFor_of_ne_nil hnil, rulesFor_of_ne_nil hnil', hmapM]

/-! ### Applying the rules -/

open Analyzer (withSeverity)

theorem enabledByDefault_of_built {config : Config} {entry : String} {rule : Rule}
    (h : Built compile config entry rule) : rule.metadata.enabledByDefault = true := by
  obtain ⟨m, -, ⟨-, settings, -, rfl⟩ | ⟨-, rfl⟩⟩ := h <;> rfl

/-- **No rule is skipped** by an analyzer that has the configuration it was chosen under. -/
theorem applyRule_of_rulesFor {config : Config} {only : List String} {rules : List Rule}
    (h : rulesFor config only compile = .ok rules) {analyzer : Analyzer}
    (hconfig : analyzer.config = config) {rule : Rule} (hrule : rule ∈ rules)
    (file : SourceFile) (tree : Tree.SyntaxTree) :
    analyzer.applyRule file tree rule
      = withSeverity (config.severity? rule.metadata.name) (rule.apply file tree) := by
  obtain ⟨entries, built, -, hbuilt, rfl⟩ := rulesFor_eq_ok_iff.mp h
  obtain ⟨hmem, hon⟩ := List.mem_filter.mp hrule
  obtain ⟨entry, -, hentry⟩ := exists_right_of_mem hbuilt.flip hmem
  have hdefault := enabledByDefault_of_built hentry
  have henabled : analyzer.config.isEnabled rule.metadata.name true = true := by
    rw [hconfig, isEnabled_iff]
    exact of_decide_eq_true hon
  unfold Analyzer.applyRule
  dsimp only
  rw [hdefault, henabled, hconfig, if_pos rfl]

theorem analyzeSource_of_rulesFor {config : Config} {only : List String} {rules : List Rule}
    (h : rulesFor config only compile = .ok rules) {analyzer : Analyzer}
    (hconfig : analyzer.config = config) (hrules : analyzer.rules = rules)
    {parse : Parser} {path : Path} {content : String}
    (hrefuses : ¬ analyzer.Refuses (parse (Dialect.ofPath path) content)) :
    analyzer.analyzeSource parse path content
      = .ok (rules.flatMap fun rule => withSeverity (config.severity? rule.metadata.name)
          (rule.apply (SourceFile.under analyzer.root path content)
            (parse (Dialect.ofPath path) content))) := by
  rw [Analyzer.analyzeSource_of_not_refuses hrefuses, Analyzer.findingsIn, hrules]
  refine congrArg Except.ok (List.flatMap_congr fun rule hrule => ?_)
  exact applyRule_of_rulesFor h hconfig hrule _ _

/-- **The outcome of choosing rules**.  It is a failure iff nothing is listed and the preset is
unknown, or an entry is neither the name nor the code of a rule, or the options of its rule are
rejected; of several such entries the first one decides, switched off or not.  Otherwise the rules
asked for come out in the order of the entries, each set up with the options under its name, less
those switched off.  Names in place of codes change nothing.  An analyzer with that configuration
applies each of these rules: of its own accord it skips none. -/
theorem rulesFor_outcome (compile : Regex.Compiler) (config : Config) (only : List String) :
    ((∃ e, rulesFor config only compile = .error e) ↔
        (∃ name, UnknownPreset config only name) ∨
          ∃ entries, Requested config only entries ∧ ∃ entry ∈ entries, ∃ e,
            Refused compile config entry e) ∧
      (∀ e, rulesFor config only compile = .error e ↔
        (∃ name, UnknownPreset config only name ∧ e = .unknown ("preset '" ++ name ++ "'")) ∨
          ∃ entries, Requested config only entries ∧ FirstRefused compile config entries e) ∧
      (∀ rules, rulesFor config only compile = .ok rules ↔
        ∃ entries built, Requested config only entries ∧
          List.Forall₂ (Built compile config) entries built ∧
          rules = built.filter (fun rule => ¬ SwitchedOff config rule.metadata.name)) ∧
      (∀ only', Renamed only only' → rulesFor config only' compile = rulesFor config only compile) ∧
      ∀ rules, rulesFor config only compile = .ok rules →
        ∀ analyzer : Analyzer, analyzer.config = config →
          (∀ rule ∈ rules, ∀ file tree, analyzer.applyRule file tree rule
            = withSeverity (config.severity? rule.metadata.name) (rule.apply file tree)) ∧
          (analyzer.rules = rules → ∀ (parse : Parser) (path : Path) (content : String),
            let tree := parse (Dialect.ofPath path) content
            let file := SourceFile.under analyzer.root path content
            ¬ analyzer.Refuses tree →
              analyzer.analyzeSource parse path content
                = .ok (rules.flatMap fun rule =>
                    withSeverity (config.severity? rule.metadata.name)
                      (rule.apply file tree))) := by
  refine ⟨exists_rulesFor_eq_error_iff, fun e => rulesFor_eq_error_iff,
    fun rules => rulesFor_eq_ok_iff, fun only' h => rulesFor_of_renamed h, ?_⟩
  intro rules h analyzer hconfig
  refine ⟨fun rule hrule file tree => applyRule_of_rulesFor h hconfig hrule file tree, ?_⟩
  intro hrules parse path content tree file hrefuses
  exact analyzeSource_of_rulesFor h hconfig hrules hrefuses

/-- Options that are rejected decide before an unknown entry that comes later, even if their rule is
switched off; it makes no difference that the rule is asked for by its code. -/
theorem rulesFor_outcome_rejectedOptions :
    let settings : RuleSettings := { enabled := some false, fields := [("ignore", .integer 3)] }
    let config : Config := { rules := [("no-side-effect-code", settings)] }
    let e : RuleError :=
      .invalidOption "no-side-effect-code" "ignore" "expected a string, found integer"
    SwitchedOff config "no-side-effect-code" ∧
      rulesFor config ["TL002", "TL001", "TL003"] = .error e ∧
      rulesFor config ["no-stateless-class", "no-side-effect-code", "TL003"] = .error e := by
  intro settings config e
  have hclass : Denotes "TL002" StatelessClass.metadata :=
    ⟨mem_catalog_iff.mpr (Or.inr rfl), Or.inr rfl⟩
  have hcode : Denotes "TL001" SideEffectCode.metadata :=
    ⟨mem_catalog_iff.mpr (Or.inl rfl), Or.inr rfl⟩
  have hrejects : SideEffectCode.settingsOf ⟨config.optionsFor SideEffectCode.name⟩ = .error e := by
    rfl
  have hbuilt : Built Regex.compiler config "TL002" StatelessClass.rule :=
    ⟨_, hclass, Or.inr ⟨rfl, rfl⟩⟩
  have hfirst : FirstRefused Regex.compiler config ["TL002", "TL001", "TL003"] e := by
    refine ⟨["TL002"], "TL001", ["TL003"], rfl, ?_, Or.inr ⟨_, hcode, rfl, hrejects⟩⟩
    intro earlier hearlier
    obtain rfl := List.mem_singleton.mp hearlier
    exact exists_built_iff.mp ⟨_, configured_eq_ok_iff.mpr hbuilt⟩
  obtain ⟨-, hfails, -, hrenamed, -⟩ :=
    rulesFor_outcome Regex.compiler config ["TL002", "TL001", "TL003"]
  have hcodes := (hfails e).mpr (Or.inr ⟨_, .listed (List.cons_ne_nil _ _), hfirst⟩)
  have hnames : Renamed ["TL002", "TL001", "TL003"]
      ["no-stateless-class", "no-side-effect-code", "TL003"] :=
    .cons (Or.inr ⟨_, hclass.1, rfl, rfl⟩) (.cons (Or.inr ⟨_, hcode.1, rfl, rfl⟩)
      (.cons (Or.inl rfl) .nil))
  exact ⟨rfl, hcodes, (hrenamed _ hnames).trans hcodes⟩

end SuiteLint.Catalog
