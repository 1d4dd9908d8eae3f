import SuiteLint.Analysis.Exclude
import SuiteLint.Proofs.Glob.Boundary

/-!
# What exclude patterns exclude

An exclude pattern is a glob, and one without wildcards other than `**` also excludes every path
that its text without stars occurs in.  For a pattern of the form `**/name/**` that adds nothing to
what the glob matches (`compile_directory`).  In general it does: a name may occur inside a longer
one.

* `excludes_atBoundary_iff`: a pattern excludes only what it matches at a boundary between
  components iff it has no text to look for, or is open at both ends;
* `compile_directory`: a directory pattern excludes exactly the paths with that directory in them;
* `longerName_excluded`: the pattern `**/dist` excludes the file `distance.ts`.
-/

namespace SuiteLint.ExcludePattern

open SuiteLint.Glob (Literal OpenEnded Reads Token)

/-! ### Compiled patterns -/

theorem segmentOf_eq_some_iff {text segment : List Char} :
    segmentOf text = some segment ↔
      Text.erasePairs '*' text = segment ∧ 2 < Text.byteLength segment ∧
        ∀ c ∈ segment, Literal c := by
  have hplain : ∀ rest : List Char,
      (!rest.any fun c => c == '*' || c == '?' || c == '[') = true ↔ ∀ c ∈ rest, Literal c := by
    intro rest
    simp [Literal, and_assoc]
  unfold segmentOf
  rw [Option.ite_none_right_eq_some, Bool.and_eq_true, decide_eq_true_iff, hplain, Option.some_inj]
  constructor
  · rintro ⟨hrest, rfl⟩
    exact ⟨rfl, hrest⟩
  · rintro ⟨rfl, hrest⟩
    exact ⟨hrest, rfl⟩

theorem compile_eq_ok_iff {text : String} {pattern : ExcludePattern} :
    compile text = .ok pattern ↔
      Glob.Pattern.compile text.toList = .ok pattern.glob ∧
        pattern.segment = segmentOf text.toList := by
  unfold compile
  rw [bind_eq_ok_iff]
  constructor
  · rintro ⟨glob, hglob, hpattern⟩
    obtain rfl := Except.ok.inj hpattern
    exact ⟨hglob, rfl⟩
  · rintro ⟨hglob, hsegment⟩
    refine ⟨pattern.glob, hglob, ?_⟩
    rw [← hsegment]

theorem excludes_iff {pattern : ExcludePattern} {path : List Char} :
    pattern.excludes path = true ↔
      pattern.glob.matchesAll path = true ∨
        ∃ segment, pattern.segment = some segment ∧ segment <:+: path := by
  unfold excludes
  rw [Bool.or_eq_true, Option.any_eq_true]
  simp only [Text.occursIn_iff]

/-! ### Boundaries -/

/-- **Exclusion at boundaries**: a pattern excludes only what its glob matches at a boundary between
components iff it has no text to look for or is open at both ends. -/
theorem excludes_atBoundary_iff {text : String} {pattern : ExcludePattern}
    (h : compile text = .ok pattern) :
    (∀ path, pattern.excludes path = true → pattern.glob.MatchesAtBoundary path) ↔
      pattern.segment = none ∨ OpenEnded text.toList := by
  obtain ⟨hglob, hsegment⟩ := compile_eq_ok_iff.mp h
  cases hlooked : pattern.segment with
  | none =>
    refine iff_of_true (fun path hpath => ?_) (Or.inl rfl)
    rcases excludes_iff.mp hpath with hmatch | ⟨segment, hsome, -⟩
    · exact Or.inl hmatch
    · rw [hlooked] at hsome
      contradiction
  | some segment =>
    rw [hlooked] at hsegment
    obtain ⟨hrest, hlong, hplain⟩ := segmentOf_eq_some_iff.mp hsegment.symm
    obtain ⟨tokens, hreads, hmatches⟩ :=
      Glob.exists_reads_of_compile hglob (by rw [hrest]; exact hplain)
    rw [hrest] at hreads
    have hne : segment ≠ [] := by
      rintro rfl
      exact absurd hlong (by decide)
    have hincluded : ∀ path, segment <:+: path → pattern.excludes path = true :=
      fun path hpath => excludes_iff.mpr (Or.inr ⟨segment, hlooked, hpath⟩)
    constructor
    · intro hall
      have hbound path (hpath : segment <:+: path) := hall path (hincluded path hpath)
      exact Or.inr ⟨Glob.front_of_matchesAtBoundary hreads hmatches hne hbound,
        Glob.back_of_matchesAtBoundary hreads hmatches hne hbound⟩
    · rintro (hnone | hopen) path hpath
      · contradiction
      · rcases excludes_iff.mp hpath with hmatch | ⟨looked, hsome, hin⟩
        · exact Or.inl hmatch
        · obtain rfl : segment = looked := Option.some.inj (hlooked.symm.trans hsome)
          exact Glob.matchesAtBoundary_of_openEnded hreads hmatches hopen hin

theorem excludes_atBoundary_iff_dist :
    ∃ pattern, compile "**/dist/**" = .ok pattern ∧ pattern.segment = some "/dist/".toList ∧
      ∀ path, pattern.excludes path = true → pattern.glob.MatchesAtBoundary path := by
  have h : compile "**/dist/**" = .ok ⟨⟨[.anyComponents, .char 'd', .char 'i', .char 's', .char 't',
      .char '/', .anyComponents]⟩, some "/dist/".toList⟩ := by
    decide +kernel
  have hopen : OpenEnded "**/dist/**".toList := by
    decide +kernel
  exact ⟨_, h, rfl, (excludes_atBoundary_iff h).mpr (Or.inr hopen)⟩

/-- The text of `**/dist` occurs inside a longer name. -/
theorem longerName_excluded :
    ∃ pattern, compile "**/dist" = .ok pattern ∧
      pattern.excludes "/repo/src/distance.ts".toList = true ∧
      ¬ pattern.glob.MatchesAtBoundary "/repo/src/distance.ts".toList := by
  refine ⟨⟨⟨[.anyComponents, .char 'd', .char 'i', .char 's', .char 't']⟩, some "/dist".toList⟩,
    ?_, ?_, ?_⟩
  · decide +kernel
  · decide +kernel
  · decide +kernel

/-! ### Directories -/

/-- The tokens of `**/name/**`. -/
theorem reads_directory {name : List Char} (hname : ∀ c ∈ name, Literal c) :
    Reads none ('*' :: '*' :: '/' :: (name ++ ['/', '*', '*'])) ('/' :: (name ++ ['/']))
      (.anyComponents :: (name.map .char ++ [.char '/', .anyComponents])) := by
  have hback : ∀ before, Reads before ['/', '*', '*'] ['/'] [.char '/', .anyComponents] :=
    fun _ => .char Glob.literal_separator (.last (Or.inr rfl))
  exact .components (Or.inl rfl) (.append hname hback (some '/'))

theorem matchTokens_directory_iff {name path : List Char} :
    Glob.matchTokens (.anyComponents :: (name.map .char ++ [.char '/', .anyComponents])) path = true
      ↔ name ++ ['/'] <+: path ∨ '/' :: (name ++ ['/']) <:+: path := by
  have hname : ∀ rest,
      Glob.matchTokens (name.map .char ++ [.char '/', .anyComponents]) rest = true ↔
        name ++ ['/'] <+: rest := by
    intro rest
    rw [Glob.matchTokens_chars_iff]
    simp only [Glob.matchTokens_char_iff]
    constructor
    · rintro ⟨-, rfl, below, rfl, -⟩
      exact ⟨below, by simp⟩
    · rintro ⟨below, rfl⟩
      exact ⟨'/' :: below, by simp, below, rfl, Glob.matchTokens_anyComponents_nil below⟩
  rw [Glob.matchTokens_anyComponents_iff]
  constructor
  · rintro ⟨rest, hleft, hrest⟩
    rw [hname] at hrest
    cases hleft with
    | refl => exact Or.inl hrest
    | @after before =>
      obtain ⟨below, rfl⟩ := hrest
      exact Or.inr ⟨before, below, by simp⟩
    | all => simp at hrest
  · rintro (hfront | ⟨before, below, rfl⟩)
    · exact ⟨path, .refl, (hname path).mpr hfront⟩
    · refine ⟨name ++ ['/'] ++ below, ?_, (hname _).mpr (List.prefix_append _ below)⟩
      rw [List.append_assoc, List.cons_append]
      exact .after

/-- **Directory patterns**: `**/name/**` excludes the paths that begin with the directory or hold it
between separators.  The glob by itself matches as much as the text adds. -/
theorem compile_directory {name : String} (hne : name ≠ "")
    (hname : ∀ c ∈ name.toList, Literal c) :
    ∃ pattern, compile ("**/" ++ name ++ "/**") = .ok pattern ∧
      pattern.segment = some ('/' :: (name.toList ++ ['/'])) ∧
      ∀ path, pattern.glob.matchesAll path = pattern.excludes path ∧
        (pattern.excludes path = true ↔
          name.toList ++ ['/'] <+: path ∨ '/' :: (name.toList ++ ['/']) <:+: path) := by
  have hreads := reads_directory hname
  have htext : ("**/" ++ name ++ "/**").toList
      = '*' :: '*' :: '/' :: (name.toList ++ ['/', '*', '*']) := by
    simp
  obtain ⟨glob, hglob, hmatches⟩ := hreads.compile_eq
  have hlong : 2 < Text.byteLength ('/' :: (name.toList ++ ['/'])) := by
    have hpos : 0 < name.toList.length := List.length_pos_iff.mpr (by simpa using hne)
    have hbytes := Text.length_le_byteLength ('/' :: (name.toList ++ ['/']))
    simp only [List.length_cons, List.length_append, List.length_nil] at hbytes
    omega
  have hplain : ∀ c ∈ '/' :: (name.toList ++ ['/']), Literal c := by
    intro c hmem
    simp only [List.mem_cons, List.mem_append, List.not_mem_nil, or_false] at hmem
    rcases hmem with rfl | hmem | rfl
    · exact Glob.literal_separator
    · exact hname c hmem
    · exact Glob.literal_separator
  have hsegment := segmentOf_eq_some_iff.mpr ⟨hreads.erasePairs_eq, hlong, hplain⟩
  refine ⟨⟨glob, some ('/' :: (name.toList ++ ['/']))⟩, ?_, rfl, fun path => ?_⟩
  · rw [compile_eq_ok_iff, htext]
    exact ⟨hglob, hsegment.symm⟩
  · have hmatch : glob.matchesAll path = true ↔
        name.toList ++ ['/'] <+: path ∨ '/' :: (name.toList ++ ['/']) <:+: path := by
      rw [hmatches, matchTokens_directory_iff]
    have hexcludes : (ExcludePattern.mk glob (some ('/' :: (name.toList ++ ['/'])))).excludes path
        = true ↔ glob.matchesAll path = true := by
      rw [excludes_iff]
      refine or_iff_left_of_imp ?_
      rintro ⟨segment, hsome, hin⟩
      obtain rfl := Option.some.inj hsome
      exact hmatch.mpr (Or.inr hin)
    exact ⟨(Bool.eq_iff_iff.mpr hexcludes).symm, hexcludes.trans hmatch⟩

theorem compile_directory_nodeModules :
    ∃ pattern, compile "**/node_modules/**" = .ok pattern ∧
      pattern.excludes "./node_modules/x/i.ts".toList = true ∧
      pattern.excludes "/repo/my_node_modules/i.ts".toList = false := by
  have hne : "node_modules" ≠ "" := by
    decide
  have hname : ∀ c ∈ "node_modules".toList, Literal c := by
    simp [Literal]
  obtain ⟨pattern, hcompile, -, hpaths⟩ := compile_directory hne hname
  refine ⟨pattern, hcompile, ?_, ?_⟩
  · rw [(hpaths _).2]
    decide +kernel
  · rw [Bool.eq_false_iff, ne_eq, (hpaths _).2]
    decide +kernel

end SuiteLint.ExcludePattern
