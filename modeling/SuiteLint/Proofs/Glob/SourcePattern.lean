import SuiteLint.Analysis.Sources
import SuiteLint.Proofs.Glob.Reading
import SuiteLint.Proofs.Path.Place

/-!
# The pattern of the sources

Sources are looked for by a pattern that is put together from a root, a `**` and a name that ends in
an extension.  With no wildcard in the root and in the extension, the pattern is read as it is
meant: each piece of the root is a component that stands for itself, and of the last component
exactly the names that end in a dot and the extension are instances (`components_sourceText`,
`matchesAll_endsIn_iff`).
-/

namespace SuiteLint.Glob

/-- The pattern that matches one text. -/
def Pattern.ofText (text : List Char) : Pattern :=
  ⟨text.map .char⟩

/-- The recursive wildcard as a component. -/
def Pattern.everything : Pattern :=
  ⟨[.anyComponents]⟩

/-- The pattern of the names that end in a text. -/
def Pattern.endsIn (text : List Char) : Pattern :=
  ⟨.anyText :: text.map .char⟩

/-! ### Compiling -/

section

variable {cs rest : List Char} {position fuel : Nat} {before : Option Char} {taken : List Token}

/-- **Literal characters** are read one by one. -/
theorem readTokens_literals (h : ∀ c ∈ cs, Literal c) :
    readTokens (cs.length + fuel) position before taken (cs ++ rest)
      = readTokens fuel (position + cs.length) (cs.getLast?.or before)
          ((cs.map .char).reverse ++ taken) rest := by
  induction cs generalizing position before taken with
  | nil =>
    show readTokens (0 + fuel) position before taken rest = _
    rw [Nat.zero_add]
    rfl
  | cons c cs ih =>
    rw [List.forall_mem_cons] at h
    have hlast : (c :: cs).getLast?.or before = cs.getLast?.or (some c) := by
      rw [List.getLast?_cons]
      cases cs.getLast? <;> rfl
    rw [List.length_cons, Nat.add_right_comm, List.cons_append, readTokens_literal h.1, ih h.2,
      hlast]
    simp [Nat.add_comm, Nat.add_left_comm]

/-- A star before another character is read as any text. -/
theorem readTokens_star {c : Char} (hc : c ≠ '*') :
    readTokens (fuel + 1) position before taken ('*' :: c :: rest)
      = readTokens fuel (position + 1) (some '*') (.anyText :: taken) (c :: rest) := by
  have hmark : '*' ≠ '?' := by decide
  have hrun : ('*' :: c :: rest).takeWhile (fun d => d == '*') = ['*'] := by
    simp [hc]
  rw [readTokens, if_neg hmark, if_pos rfl]
  simp only [hrun]
  rfl

theorem compile_ofText (h : ∀ c ∈ cs, Literal c) : Pattern.compile cs = .ok (.ofText cs) := by
  have hread : readTokens (cs.length + 1) 0 none [] (cs ++ []) = .ok (cs.map .char) := by
    rw [readTokens_literals h, readTokens_nil, List.append_nil, List.reverse_reverse]
  rw [List.append_nil] at hread
  rw [Pattern.compile, hread]
  rfl

theorem literal_dot : Literal '.' := by
  unfold Literal
  decide

theorem compile_endsIn (h : ∀ c ∈ cs, Literal c) :
    Pattern.compile ('*' :: '.' :: cs) = .ok (.endsIn ('.' :: cs)) := by
  have hliteral : ∀ c ∈ '.' :: cs, Literal c := List.forall_mem_cons.mpr ⟨literal_dot, h⟩
  have hread : readTokens (('.' :: cs).length + 1) 1 (some '*') [.anyText] ('.' :: cs ++ [])
      = .ok (.anyText :: ('.' :: cs).map .char) := by
    rw [readTokens_literals hliteral, readTokens_nil, List.reverse_append, List.reverse_reverse]
    rfl
  rw [List.append_nil] at hread
  rw [Pattern.compile, List.length_cons, readTokens_star (by decide), hread]
  rfl

/-- The text of the pattern for a root and an extension. -/
def sourceText (root extension : List Char) : List Char :=
  root ++ '/' :: '*' :: '*' :: '/' :: '*' :: '.' :: extension

/-- The whole pattern compiles. -/
theorem exists_compile_sourceText {root extension : List Char} (hroot : ∀ c ∈ root, Literal c)
    (hextension : ∀ c ∈ extension, Literal c) :
    ∃ pattern, Pattern.compile (sourceText root extension) = .ok pattern := by
  have hfront : ∀ c ∈ root ++ ['/'], Literal c := by
    rw [List.forall_mem_append, List.forall_mem_singleton]
    exact ⟨hroot, literal_separator⟩
  have hback : ∀ c ∈ '.' :: extension, Literal c :=
    List.forall_mem_cons.mpr ⟨literal_dot, hextension⟩
  have htext : sourceText root extension
      = (root ++ ['/']) ++ '*' :: '*' :: '/' :: '*' :: ('.' :: extension ++ []) := by
    simp [sourceText]
  -- what is left to read needs fewer steps than it has characters
  obtain ⟨spare, hspare⟩ : ∃ spare, (sourceText root extension).length + 1
      = (root ++ ['/']).length + (('.' :: extension).length + spare + 1 + 1) := by
    refine ⟨3, ?_⟩
    simp only [sourceText, List.length_append, List.length_cons, List.length_nil]
    omega
  have hstart : AtStart ((root ++ ['/']).getLast?.or none) := by
    rw [List.getLast?_concat]
    exact Or.inr rfl
  have hread : ∃ tokens,
      readTokens ((sourceText root extension).length + 1) 0 none [] (sourceText root extension)
        = .ok tokens := by
    rw [hspare, htext, readTokens_literals hfront, readTokens_components hstart, List.cons_append,
      readTokens_star (by decide), ← List.cons_append, readTokens_literals hback, readTokens_nil]
    exact ⟨_, rfl⟩
  obtain ⟨tokens, htokens⟩ := hread
  refine ⟨⟨tokens⟩, ?_⟩
  rw [Pattern.compile, htokens]
  rfl

end

/-! ### Components -/

/-- Pieces of a text have no other characters than the text. -/
theorem subset_of_mem_splitOn {cs piece : List Char} (h : piece ∈ cs.splitOn '/') :
    piece ⊆ cs := by
  induction cs generalizing piece with
  | nil =>
    rw [List.splitOn_nil, List.mem_singleton] at h
    exact h ▸ List.Subset.refl _
  | cons c cs ih =>
    by_cases hc : c = '/'
    · rw [hc, Path.splitOn_separator_cons, List.mem_cons] at h
      rcases h with rfl | h
      · exact List.nil_subset _
      · exact List.subset_cons_of_subset c (ih h)
    · obtain ⟨first, more, hcs, hsplit⟩ := Path.splitOn_cons_of_ne hc cs
      rw [hcs] at ih
      rw [hsplit, List.mem_cons] at h
      rcases h with rfl | h
      · exact List.cons_subset_cons c (ih List.mem_cons_self)
      · exact List.subset_cons_of_subset c (ih (List.mem_cons_of_mem _ h))

/-- Of an absolute pattern every piece is compiled by itself, if there is none left at its end. -/
theorem components_of_compile {text : List Char} {pattern : Pattern}
    (h : Pattern.compile ('/' :: text) = .ok pattern)
    (hlast : (text.splitOn '/').getLast? ≠ some []) :
    components ('/' :: text) = (text.splitOn '/').mapM Pattern.compile := by
  unfold components
  rw [h]
  show List.mapM Pattern.compile (if (text.splitOn '/').getLast? == some []
    then (text.splitOn '/').dropLast else text.splitOn '/') = _
  rw [if_neg fun hnil => hlast (beq_iff_eq.mp hnil)]

theorem splitOn_sourceText (root : List Char) {extension : List Char} (h : '/' ∉ extension) :
    (sourceText root extension).splitOn '/'
      = root.splitOn '/' ++ [['*', '*'], '*' :: '.' :: extension] := by
  have hname : '/' ∉ '*' :: '.' :: extension := by
    simp only [List.mem_cons, not_or]
    exact ⟨by decide, by decide, h⟩
  have hstars : ['*', '*'].splitOn '/' = [['*', '*']] := List.splitOn_eq_singleton (by decide)
  rw [sourceText, List.splitOn_append_cons_self]
  show root.splitOn '/' ++ (['*', '*'] ++ '/' :: '*' :: '.' :: extension).splitOn '/' = _
  rw [List.splitOn_append_cons_self, List.splitOn_eq_singleton hname, hstars]
  rfl

theorem getLast?_sourceText_ne (root : List Char) {extension : List Char} (h : '/' ∉ extension) :
    (sourceText root extension).getLast? ≠ some '/' := by
  have htext : sourceText root extension
      = (root ++ ['/', '*', '*', '/', '*']) ++ '.' :: extension := by
    simp [sourceText]
  rw [htext, List.getLast?_append_of_ne_nil _ (List.cons_ne_nil _ _)]
  intro hlast
  rcases List.mem_cons.mp (List.mem_of_getLast? hlast) with hdot | hmem
  · exact absurd hdot (by decide)
  · exact h hmem

/-- **The components of the pattern**: the pieces of the root, the `**`, and the name. -/
theorem components_sourceText {root extension : List Char} (hroot : ∀ c ∈ root, Literal c)
    (hextension : ∀ c ∈ extension, Literal c ∧ c ≠ '/') :
    components (sourceText ('/' :: root) extension) =
      .ok ((root.splitOn '/').map Pattern.ofText ++
        [.everything, .endsIn ('.' :: extension)]) := by
  have hliteral : ∀ c ∈ extension, Literal c := fun c hc => (hextension c hc).1
  have hpieces := splitOn_sourceText root fun hmem => (hextension '/' hmem).2 rfl
  obtain ⟨pattern, hpattern⟩ := exists_compile_sourceText
    (List.forall_mem_cons.mpr ⟨literal_separator, hroot⟩) hliteral
  have hlast : ((sourceText root extension).splitOn '/').getLast? ≠ some [] := by
    rw [hpieces, List.getLast?_append_of_ne_nil _ (List.cons_ne_nil _ _)]
    exact nofun
  have hcompiled : (root.splitOn '/').map Pattern.compile
      = (root.splitOn '/').map fun piece => .ok (Pattern.ofText piece) := by
    refine List.map_congr_left fun piece hpiece => compile_ofText fun c hc => hroot c ?_
    exact subset_of_mem_splitOn hpiece hc
  have hnames : [['*', '*'], '*' :: '.' :: extension].map Pattern.compile
      = [.ok .everything, .ok (.endsIn ('.' :: extension))] := by
    rw [List.map_cons, List.map_singleton, compile_endsIn hliteral]
    rfl
  have hcons : sourceText ('/' :: root) extension = '/' :: sourceText root extension := rfl
  rw [hcons] at hpattern ⊢
  rw [components_of_compile hpattern hlast, hpieces, mapM_eq_ok_iff, List.map_append,
    List.map_append, hcompiled, hnames, List.map_map]
  rfl

/-! ### Names -/

theorem someRest_iff {p : List Char → Bool} {text : List Char} :
    someRest p text = true ↔ ∃ rest, rest <:+ text ∧ p rest = true := by
  induction text with
  | nil => simp [someRest]
  | cons c text ih =>
    rw [someRest, Bool.or_eq_true, ih]
    simp only [List.suffix_cons_iff]
    constructor
    · rintro (hp | ⟨rest, hrest, hp⟩)
      · exact ⟨c :: text, Or.inl rfl, hp⟩
      · exact ⟨rest, Or.inr hrest, hp⟩
    · rintro ⟨rest, rfl | hrest, hp⟩
      · exact Or.inl hp
      · exact Or.inr ⟨rest, hrest, hp⟩

/-- **The names of sources** are those that end in the text. -/
theorem matchesAll_endsIn_iff {text name : List Char} :
    (Pattern.endsIn text).matchesAll name = true ↔ text <:+ name := by
  have hself : ∀ rest, matchTokens (text.map .char) rest = true ↔ rest = text := by
    intro rest
    rw [← List.append_nil (text.map Token.char), matchTokens_chars_iff]
    simp [matchTokens]
  rw [Pattern.matchesAll, Pattern.endsIn, matchTokens, someRest_iff]
  simp only [hself, exists_eq_right]

end SuiteLint.Glob
