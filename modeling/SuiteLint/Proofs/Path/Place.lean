import Mathlib.Data.List.DropRight
import SuiteLint.Path.Basic
import SuiteLint.Proofs.Text.Pieces

/-!
# What a path denotes

Operations on paths cut and glue texts; what they do to the place that a path denotes is said here
in terms of components.  The place of a path is its list of components without the leading dot
(`Path.place`).

* `place_join`: joining appends the places, unless the second path is absolute;
* `components_of_parent?`, `ancestors_eq`: the parent has all components but the last one, and the
  ancestors of a path are itself and those of its parent;
* `below?_of_isPrefix`, `below?_of_relative`: what is left of an absolute path below an absolute
  base is exactly the rest of its components, and a relative path is never below an absolute base.
-/

namespace SuiteLint.Path

/-- **Place** of a path: its components, the leading dot left out. -/
def place (path : Path) : List Component :=
  path.components.filter (fun c => c ≠ .current)

/-! ### Pieces -/

theorem componentOf_of_idle {piece : List Char} (h : isIdle piece = true) :
    componentOf piece = none :=
  if_pos h

theorem exists_componentOf {piece : List Char} (h : isIdle piece = false) :
    ∃ c, componentOf piece = some c := by
  unfold componentOf
  rw [if_neg (Bool.eq_false_iff.mp h)]
  by_cases hparent : piece = ['.', '.']
  · exact ⟨.parent, if_pos hparent⟩
  · exact ⟨.name piece, if_neg hparent⟩

/-- The root and the leading dot are not components of pieces. -/
theorem componentOf_ne {piece : List Char} {c : Component} (h : componentOf piece = some c) :
    c ≠ .root ∧ c ≠ .current := by
  unfold componentOf at h
  split_ifs at h
  · obtain rfl := Option.some.inj h
    exact ⟨nofun, nofun⟩
  · obtain rfl := Option.some.inj h
    exact ⟨nofun, nofun⟩

theorem splitOn_separator_cons (rest : List Char) :
    ('/' :: rest).splitOn '/' = [] :: rest.splitOn '/' := by
  rw [List.splitOn_cons_eq_if_modifyHead]
  rfl

/-- Any other character goes to the first piece of what follows. -/
theorem splitOn_cons_of_ne {c : Char} (hc : c ≠ '/') (rest : List Char) :
    ∃ first more, rest.splitOn '/' = first :: more ∧
      (c :: rest).splitOn '/' = (c :: first) :: more := by
  obtain ⟨first, more, hsplit⟩ := List.exists_cons_of_ne_nil (List.splitOn_ne_nil '/' rest)
  refine ⟨first, more, hsplit, ?_⟩
  rw [List.splitOn_cons_eq_if_modifyHead, if_neg fun h => hc (beq_iff_eq.mp h), hsplit,
    List.modifyHead_cons]

theorem separator_not_mem_of_mem_splitOn {cs piece : List Char} (h : piece ∈ cs.splitOn '/') :
    '/' ∉ piece := by
  rw [List.splitOn_eq_splitOnP] at h
  intro hmem
  exact absurd (Text.eq_false_of_mem_splitOnP h '/' hmem) (by decide)

/-- A text has at least as many characters as its pieces have components. -/
theorem length_filterMap_splitOn_le (cs : List Char) :
    ((cs.splitOn '/').filterMap componentOf).length ≤ cs.length := by
  induction cs with
  | nil => exact Nat.le_refl _
  | cons c rest ih =>
    rw [List.length_cons]
    by_cases hc : c = '/'
    · rw [hc, splitOn_separator_cons]
      exact Nat.le_succ_of_le ih
    · -- only the first piece grows, and it has at most one component
      obtain ⟨first, more, hrest, hpieces⟩ := splitOn_cons_of_ne hc rest
      rw [hrest] at ih
      have hmore : (more.filterMap componentOf).length ≤ rest.length :=
        Nat.le_trans ((List.sublist_cons_self first more).filterMap _).length_le ih
      rw [hpieces, List.filterMap_cons]
      split
      · exact Nat.le_succ_of_le hmore
      · exact Nat.succ_le_succ hmore

/-- Putting pieces together and cutting them apart again keeps their components. -/
theorem filterMap_splitOn_intercalate {pieces : List (List Char)}
    (h : ∀ piece ∈ pieces, '/' ∉ piece) :
    ((['/'].intercalate pieces).splitOn '/').filterMap componentOf
      = pieces.filterMap componentOf := by
  cases pieces with
  | nil => rfl
  | cons piece rest => rw [List.splitOn_intercalate '/' h (List.cons_ne_nil _ _)]

/-- Taking idle pieces away at the end does not change the components. -/
theorem filterMap_trimIdleEnd (pieces : List (List Char)) :
    (trimIdleEnd pieces).filterMap componentOf = pieces.filterMap componentOf := by
  show (pieces.rdropWhile isIdle).filterMap componentOf = _
  induction pieces using List.reverseRecOn with
  | nil => rfl
  | append_singleton pieces piece ih =>
    by_cases hidle : isIdle piece = true
    · rw [List.rdropWhile_concat_pos _ _ _ hidle, ih, List.filterMap_append, List.filterMap_cons,
        componentOf_of_idle hidle]
      exact (List.append_nil _).symm
    · rw [List.rdropWhile_concat_neg _ _ _ hidle]

theorem trimIdleEnd_isPrefix (pieces : List (List Char)) : trimIdleEnd pieces <+: pieces :=
  List.rdropWhile_prefix isIdle pieces

/-- Taking idle pieces away at the beginning does not change the components. -/
theorem filterMap_dropWhile_isIdle (pieces : List (List Char)) :
    (pieces.dropWhile isIdle).filterMap componentOf = pieces.filterMap componentOf := by
  induction pieces with
  | nil => rfl
  | cons piece rest ih =>
    rw [List.dropWhile_cons]
    split_ifs with hidle
    · rw [ih, List.filterMap_cons, componentOf_of_idle hidle]
    · rfl

/-! ### Spellings -/

/-- **Well-formed spelling**: no piece contains a separator, and without an anchor the first piece
is not idle, so that it is not taken for one. -/
structure IsSpelling (anchor : Anchor) (pieces : List (List Char)) : Prop where
  /-- No piece contains a separator. -/
  separators : ∀ piece ∈ pieces, '/' ∉ piece
  /-- Without an anchor the first piece has a component. -/
  head : anchor = .none → ∀ piece, pieces.head? = some piece → isIdle piece = false

theorem IsSpelling.of_isPrefix {anchor : Anchor} {pieces front : List (List Char)}
    (h : IsSpelling anchor pieces) (hfront : front <+: pieces) : IsSpelling anchor front := by
  obtain ⟨back, rfl⟩ := hfront
  refine ⟨fun piece hpiece => h.separators piece (List.mem_append_left _ hpiece), ?_⟩
  intro hanchor piece hpiece
  refine h.head hanchor piece ?_
  rw [List.head?_append, hpiece]
  rfl

/-- What `spell` does to a text: the text begins with a separator, with a leading dot, or with
neither; apart from that the pieces are those between separators. -/
theorem spell_cases (cs : List Char) :
    (∃ rest, cs = '/' :: rest ∧ spell cs = (.root, rest.splitOn '/')) ∨
    (∃ rest, cs = '.' :: rest ∧ ∃ more, rest.splitOn '/' = [] :: more ∧
      spell cs = (.current, more)) ∨
    (cs.head? ≠ some '/' ∧ (cs.splitOn '/').head? ≠ some ['.'] ∧
      spell cs = (.none, cs.splitOn '/')) := by
  cases cs with
  | nil => exact Or.inr (Or.inr ⟨nofun, nofun, rfl⟩)
  | cons c rest =>
    by_cases hc : c = '/'
    · exact Or.inl ⟨rest, by rw [hc], by rw [hc]; rfl⟩
    obtain ⟨first, more, hrest, hpieces⟩ := splitOn_cons_of_ne hc rest
    by_cases hdot : c :: first = ['.']
    · have hspell : spell (c :: rest) = (.current, more) := by
        unfold spell
        split
        · rename_i heq
          exact absurd (List.cons.inj heq).1 hc
        · rw [hpieces, hdot]
          rfl
      obtain ⟨rfl, rfl⟩ := List.cons.inj hdot
      exact Or.inr (Or.inl ⟨rest, rfl, more, hrest, hspell⟩)
    · have hspell : spell (c :: rest) = (.none, (c :: first) :: more) := by
        unfold spell
        split
        · rename_i heq
          exact absurd (List.cons.inj heq).1 hc
        · rw [hpieces]
          split
          · rename_i heq
            exact absurd (List.cons.inj heq).1 hdot
          · rfl
      rw [hpieces]
      exact Or.inr (Or.inr
        ⟨fun h => hc (Option.some.inj h), fun h => hdot (Option.some.inj h), hspell⟩)

/-- No piece of a text contains a separator. -/
theorem separator_not_mem_of_mem_spell {cs piece : List Char} (h : piece ∈ (spell cs).2) :
    '/' ∉ piece := by
  rcases spell_cases cs with ⟨rest, -, hspell⟩ | ⟨rest, -, more, hmore, hspell⟩ | ⟨-, -, hspell⟩
  · rw [hspell] at h
    exact separator_not_mem_of_mem_splitOn h
  · rw [hspell] at h
    exact separator_not_mem_of_mem_splitOn (hmore ▸ List.mem_cons_of_mem _ h)
  · rw [hspell] at h
    exact separator_not_mem_of_mem_splitOn h

/-- The pieces of a text, idle ones at the end taken away, are a well-formed spelling. -/
theorem isSpelling_spell (cs : List Char) : IsSpelling (spell cs).1 (trimIdleEnd (spell cs).2) := by
  cases cs with
  | nil => exact ⟨nofun, fun _ _ => nofun⟩
  | cons c rest =>
    have hspelling : IsSpelling (spell (c :: rest)).1 (spell (c :: rest)).2 := by
      refine ⟨fun piece => separator_not_mem_of_mem_spell, fun hanchor piece hpiece => ?_⟩
      rcases spell_cases (c :: rest) with ⟨_, -, hspell⟩ | ⟨_, -, _, -, hspell⟩ |
        ⟨hhead, hdot, hspell⟩
      · rw [hspell] at hanchor
        contradiction
      · rw [hspell] at hanchor
        contradiction
      · -- the text does not begin with a separator, so its first piece is not empty
        obtain ⟨first, more, -, hpieces⟩ := splitOn_cons_of_ne (fun h => hhead (h ▸ rfl)) rest
        rw [hspell, hpieces] at hpiece
        rw [hpieces] at hdot
        obtain rfl := Option.some.inj hpiece
        rw [isIdle, Bool.or_eq_false_iff, beq_eq_false_iff_ne]
        exact ⟨rfl, fun h => hdot (congrArg some h)⟩
    exact hspelling.of_isPrefix (trimIdleEnd_isPrefix _)

/-! ### Components -/

/-- The components of the pieces of a path, its beginning aside. -/
def steps (path : Path) : List Component :=
  (path.text.toList.splitOn '/').filterMap componentOf

theorem filterMap_spell (path : Path) :
    (spell path.text.toList).2.filterMap componentOf = path.steps := by
  unfold steps
  rcases spell_cases path.text.toList with ⟨rest, htext, hspell⟩ |
    ⟨rest, htext, more, hmore, hspell⟩ | ⟨-, -, hspell⟩
  · rw [hspell, htext, splitOn_separator_cons]
    rfl
  · rw [hspell, htext, List.splitOn_cons_eq_if_modifyHead, hmore]
    rfl
  · rw [hspell]

theorem components_eq (path : Path) :
    path.components = (spell path.text.toList).1.component.toList ++ path.steps := by
  rw [← filterMap_spell]
  rfl

theorem isAbsolute_iff (path : Path) :
    path.isAbsolute = true ↔ (spell path.text.toList).1 = .root := by
  unfold isAbsolute
  rw [beq_iff_eq]
  rcases spell_cases path.text.toList with ⟨rest, htext, hspell⟩ |
    ⟨rest, htext, more, -, hspell⟩ | ⟨hhead, -, hspell⟩
  · rw [hspell, htext]
    simp
  · rw [hspell, htext]
    simp
  · rw [hspell]
    simpa using hhead

theorem isAbsolute_of_separator_not_mem {path : Path} (h : '/' ∉ path.text.toList) :
    path.isAbsolute = false := by
  rw [isAbsolute, beq_eq_false_iff_ne]
  exact fun hhead => h (List.mem_of_mem_head? hhead)

theorem components_of_isAbsolute {path : Path} (h : path.isAbsolute = true) :
    path.components = .root :: path.steps := by
  rw [components_eq, (isAbsolute_iff path).mp h]
  rfl

theorem steps_ne {path : Path} {c : Component} (h : c ∈ path.steps) : c ≠ .root ∧ c ≠ .current := by
  obtain ⟨piece, -, hpiece⟩ := List.mem_filterMap.mp h
  exact componentOf_ne hpiece

/-- The place of a path: the root if the path is absolute, and its steps. -/
theorem place_eq (path : Path) :
    path.place = (if path.isAbsolute then [.root] else []) ++ path.steps := by
  have hsteps : path.steps.filter (fun c => c ≠ .current) = path.steps :=
    List.filter_eq_self.mpr fun c hc => decide_eq_true (steps_ne hc).2
  rw [place, components_eq, List.filter_append, hsteps]
  congr 1
  by_cases habsolute : path.isAbsolute = true
  · rw [if_pos habsolute, (isAbsolute_iff path).mp habsolute]
    rfl
  · rw [if_neg habsolute]
    rw [isAbsolute_iff] at habsolute
    cases hanchor : (spell path.text.toList).1 with
    | root => exact absurd hanchor habsolute
    | current => rfl
    | none => rfl

theorem place_of_isAbsolute {path : Path} (h : path.isAbsolute = true) :
    path.place = .root :: path.steps := by
  rw [place_eq, if_pos h, List.singleton_append]

theorem place_of_relative {path : Path} (h : path.isAbsolute = false) :
    path.place = path.steps := by
  rw [place_eq, if_neg (Bool.eq_false_iff.mp h), List.nil_append]

/-- A text whose first piece is not idle has no anchor. -/
theorem spell_of_head {cs piece : List Char} (hpiece : (cs.splitOn '/').head? = some piece)
    (hidle : isIdle piece = false) : (spell cs).1 = .none := by
  rcases spell_cases cs with ⟨rest, rfl, -⟩ | ⟨rest, rfl, more, hmore, -⟩ | ⟨-, -, hspell⟩
  · rw [List.splitOn_cons_eq_if_modifyHead] at hpiece
    obtain rfl := Option.some.inj hpiece
    contradiction
  · rw [List.splitOn_cons_eq_if_modifyHead, hmore] at hpiece
    obtain rfl := Option.some.inj hpiece
    contradiction
  · rw [hspell]

theorem spell_dot_separator (cs : List Char) : (spell ('.' :: '/' :: cs)).1 = .current := by
  rcases spell_cases ('.' :: '/' :: cs) with ⟨rest, htext, -⟩ | ⟨_, -, more, -, hspell⟩ |
    ⟨-, hdot, -⟩
  · exact absurd (List.cons.inj htext).1 (by decide)
  · rw [hspell]
  · refine absurd ?_ hdot
    rw [List.splitOn_cons_eq_if_modifyHead, List.splitOn_cons_eq_if_modifyHead]
    rfl

/-- The components of a path put together from a well-formed spelling. -/
theorem components_assemble {anchor : Anchor} {pieces : List (List Char)}
    (h : IsSpelling anchor pieces) :
    (assemble anchor pieces).components
      = anchor.component.toList ++ pieces.filterMap componentOf := by
  have hbody := filterMap_splitOn_intercalate h.separators
  rw [components_eq, steps]
  cases anchor with
  | root =>
    show (spell (String.ofList ('/' :: _)).toList).1.component.toList
      ++ ((String.ofList ('/' :: _)).toList.splitOn '/').filterMap componentOf = _
    rw [String.toList_ofList, List.splitOn_cons_eq_if_modifyHead, ← hbody]
    rfl
  | current =>
    cases pieces with
    | nil => rfl
    | cons piece rest =>
      show (spell (String.ofList ('.' :: '/' :: _)).toList).1.component.toList
        ++ ((String.ofList ('.' :: '/' :: _)).toList.splitOn '/').filterMap componentOf = _
      rw [String.toList_ofList, spell_dot_separator, List.splitOn_cons_eq_if_modifyHead,
        List.splitOn_cons_eq_if_modifyHead, ← hbody]
      rfl
  | none =>
    cases pieces with
    | nil => rfl
    | cons piece rest =>
      have hsplit := List.splitOn_intercalate '/' h.separators (List.cons_ne_nil piece rest)
      show (spell (String.ofList _).toList).1.component.toList
        ++ ((String.ofList _).toList.splitOn '/').filterMap componentOf = _
      rw [String.toList_ofList, hsplit,
        spell_of_head (by rw [hsplit]; rfl) (h.head rfl piece rfl)]

/-! ### Joining -/

/-- The text of a path joined with a relative one: the second text alone after an empty one, and
otherwise both texts with exactly one separator added where there is none yet. -/
theorem join_cases (base : Path) {rest : Path} (h : rest.isAbsolute = false) :
    (base.text.toList = [] ∧ base.join rest = rest) ∨
    (∃ front, base.text.toList = front ++ ['/'] ∧
      (base.join rest).text.toList = front ++ '/' :: rest.text.toList) ∨
    (base.text.toList ≠ [] ∧
      (base.join rest).text.toList = base.text.toList ++ '/' :: rest.text.toList) := by
  unfold join
  rw [h, Bool.false_or]
  by_cases hempty : base.text.isEmpty = true
  · rw [if_pos hempty]
    exact Or.inl ⟨String.toList_eq_nil_iff.mpr (String.isEmpty_iff.mp hempty), rfl⟩
  rw [if_neg hempty]
  by_cases hlast : base.text.toList.getLast? = some '/'
  · obtain ⟨front, hfront⟩ := List.getLast?_eq_some_iff.mp hlast
    rw [if_pos (beq_iff_eq.mpr hlast)]
    refine Or.inr (Or.inl ⟨front, hfront, ?_⟩)
    rw [String.toList_append, hfront, List.append_assoc, List.singleton_append]
  · rw [if_neg fun h => hlast (beq_iff_eq.mp h)]
    refine Or.inr (Or.inr ⟨fun hnil => ?_, ?_⟩)
    · exact hempty (String.isEmpty_iff.mpr (String.toList_eq_nil_iff.mp hnil))
    · simp

theorem join_of_isAbsolute (base : Path) {rest : Path} (h : rest.isAbsolute = true) :
    base.join rest = rest := by
  unfold join
  rw [h, Bool.true_or, if_pos rfl]

theorem isAbsolute_join_of_relative (base : Path) {rest : Path} (h : rest.isAbsolute = false) :
    (base.join rest).isAbsolute = base.isAbsolute := by
  rcases join_cases base h with ⟨hbase, hjoin⟩ | ⟨front, hbase, hjoin⟩ | ⟨hbase, hjoin⟩
  · rw [hjoin, h, isAbsolute, hbase]
    rfl
  · rw [isAbsolute, isAbsolute, hjoin, hbase]
    cases front <;> rfl
  · rw [isAbsolute, isAbsolute, hjoin]
    rw [List.head?_append_of_ne_nil _ hbase]

theorem steps_join (base : Path) {rest : Path} (h : rest.isAbsolute = false) :
    (base.join rest).steps = base.steps ++ rest.steps := by
  unfold steps
  rcases join_cases base h with ⟨hbase, hjoin⟩ | ⟨front, hbase, hjoin⟩ | ⟨hbase, hjoin⟩
  · rw [hjoin, hbase]
    rfl
  · rw [hjoin, hbase, List.splitOn_append_cons_self, List.splitOn_append_cons_self,
      List.filterMap_append, List.filterMap_append, List.splitOn_nil]
    exact congrArg (· ++ _) (List.append_nil _).symm
  · rw [hjoin, List.splitOn_append_cons_self, List.filterMap_append]

/-- **Joining appends places**. -/
theorem place_join (base : Path) {rest : Path} (h : rest.isAbsolute = false) :
    (base.join rest).place = base.place ++ rest.place := by
  rw [place_eq, isAbsolute_join_of_relative base h, steps_join base h, place_of_relative h,
    place_eq base, List.append_assoc]

/-- Below an absolute path everything is absolute. -/
theorem isAbsolute_join {base : Path} (h : base.isAbsolute = true) (rest : Path) :
    (base.join rest).isAbsolute = true := by
  cases hrest : rest.isAbsolute with
  | true => rw [join_of_isAbsolute base hrest, hrest]
  | false => rw [isAbsolute_join_of_relative base hrest, h]

/-! ### Parents -/

/-- The pieces of a path without the idle ones at the end stand for the same components. -/
theorem components_eq_trimmed (path : Path) :
    path.components = (spell path.text.toList).1.component.toList ++
      (trimIdleEnd (spell path.text.toList).2).filterMap componentOf := by
  rw [filterMap_trimIdleEnd]
  rfl

theorem not_isIdle_getLast_trimIdleEnd {pieces : List (List Char)} (h : trimIdleEnd pieces ≠ []) :
    isIdle ((trimIdleEnd pieces).getLast h) = false :=
  Bool.eq_false_iff.mpr (List.rdropWhile_last_not isIdle pieces h)

/-- **The parent of a path** has all its components but the last one, which is not the root. -/
theorem components_of_parent? {path above : Path} (h : path.parent? = some above) :
    ∃ c, c ≠ .root ∧ path.components = above.components ++ [c] := by
  have hspelling := isSpelling_spell path.text.toList
  rw [components_eq_trimmed]
  unfold parent? at h
  dsimp only at h
  split at h
  · -- no piece is left: the path is a single dot
    rename_i hpieces
    split at h
    · rename_i hanchor
      obtain rfl := Option.some.inj h
      rw [hpieces, hanchor]
      exact ⟨.current, nofun, rfl⟩
    · contradiction
  · rename_i piece more hpieces
    obtain rfl := Option.some.inj h
    have hne : trimIdleEnd (spell path.text.toList).2 ≠ [] := by
      rw [hpieces]
      exact List.cons_ne_nil _ _
    obtain ⟨c, hc⟩ := exists_componentOf (not_isIdle_getLast_trimIdleEnd hne)
    rw [← hpieces]
    generalize trimIdleEnd (spell path.text.toList).2 = body at hspelling hne hc
    -- the last piece is the last component
    have hlast : body.filterMap componentOf = body.dropLast.filterMap componentOf ++ [c] := by
      conv_lhs => rw [← List.dropLast_append_getLast hne]
      rw [List.filterMap_append, List.filterMap_cons, hc]
      rfl
    have hdropped : body.dropLast <+: body := List.dropLast_prefix body
    have hfront : IsSpelling (spell path.text.toList).1 (trimIdleEnd body.dropLast) :=
      hspelling.of_isPrefix ((trimIdleEnd_isPrefix _).trans hdropped)
    refine ⟨c, (componentOf_ne hc).1, ?_⟩
    rw [components_assemble hfront, filterMap_trimIdleEnd, hlast, List.append_assoc]

/-- Only the root and paths without components have no parent. -/
theorem components_of_parent?_eq_none {path : Path} (h : path.parent? = none) :
    path.components = [] ∨ path.components = [.root] := by
  rw [components_eq_trimmed]
  unfold parent? at h
  dsimp only at h
  split at h
  · rename_i hpieces
    rw [hpieces]
    cases hanchor : (spell path.text.toList).1 with
    | root => exact Or.inr rfl
    | none => exact Or.inl rfl
    | current =>
      rw [hanchor] at h
      contradiction
  · contradiction

theorem isAbsolute_iff_head? (path : Path) :
    path.isAbsolute = true ↔ path.components.head? = some .root := by
  rw [isAbsolute_iff, components_eq]
  cases (spell path.text.toList).1 with
  | root => exact iff_of_true rfl rfl
  | current => exact iff_of_false nofun nofun
  | none =>
    refine iff_of_false nofun fun h => ?_
    exact (steps_ne (List.mem_of_mem_head? h)).1 rfl

theorem isAbsolute_of_parent? {path above : Path} (h : path.parent? = some above) :
    above.isAbsolute = path.isAbsolute := by
  obtain ⟨c, hc, hcomponents⟩ := components_of_parent? h
  rw [Bool.eq_iff_iff, isAbsolute_iff_head?, isAbsolute_iff_head?, hcomponents]
  cases habove : above.components with
  | nil => exact iff_of_false nofun fun h => hc (Option.some.inj h)
  | cons first rest => rfl

/-- A path takes its parent's steps and one more; the single dot, like its parent, takes none. -/
theorem steps_of_parent? {path above : Path} (h : path.parent? = some above) :
    (path.steps = [] ∧ above.steps = []) ∨ ∃ c, path.steps = above.steps ++ [c] := by
  obtain ⟨c, -, hcomponents⟩ := components_of_parent? h
  have hplace : path.place = above.place ++ [c].filter (fun c => c ≠ .current) := by
    rw [place, hcomponents, List.filter_append]
    rfl
  rw [place_eq, place_eq above, isAbsolute_of_parent? h, List.append_assoc] at hplace
  have hsteps := List.append_cancel_left hplace
  by_cases hc : c = .current
  · -- the dot can only be the last component if it is the only one
    have hnil : path.steps = [] := by
      by_contra hne
      rw [components_eq, ← List.dropLast_append_getLast hne, ← List.append_assoc] at hcomponents
      have hlast := (List.append_inj_right' hcomponents rfl)
      exact (steps_ne (List.getLast_mem hne)).2 ((List.cons.inj hlast).1.trans hc)
    refine Or.inl ⟨hnil, ?_⟩
    rw [hnil, hc] at hsteps
    exact (List.append_eq_nil_iff.mp hsteps.symm).1
  · exact Or.inr ⟨c, by simpa [hc] using hsteps⟩

/-- A path without a parent takes no step. -/
theorem steps_of_parent?_eq_none {path : Path} (h : path.parent? = none) : path.steps = [] := by
  rcases components_of_parent?_eq_none h with hnil | hroot
  · rw [components_eq] at hnil
    exact (List.append_eq_nil_iff.mp hnil).2
  · have habsolute : path.isAbsolute = true := by
      rw [isAbsolute_iff_head?, hroot]
      rfl
    rw [components_of_isAbsolute habsolute] at hroot
    exact (List.cons.inj hroot).2

/-- Where the last component is a name, the parent lacks exactly that name. -/
theorem place_of_fileName? {path : Path} {name : List Char} (h : path.fileName? = some name) :
    ∃ above, path.parent? = some above ∧ path.place = above.place ++ [.name name] := by
  have hlast : path.components.getLast? = some (.name name) := by
    unfold fileName? at h
    split at h
    · rename_i hlast
      rw [hlast, Option.some.inj h]
    · contradiction
  cases habove : path.parent? with
  | none =>
    rcases components_of_parent?_eq_none habove with hnil | hroot
    · rw [hnil] at hlast
      contradiction
    · rw [hroot] at hlast
      exact absurd (Option.some.inj hlast) nofun
  | some above =>
    obtain ⟨c, -, hcomponents⟩ := components_of_parent? habove
    rw [hcomponents, List.getLast?_concat] at hlast
    obtain rfl := Option.some.inj hlast
    refine ⟨above, rfl, ?_⟩
    rw [place, hcomponents, List.filter_append]
    rfl

/-- **Induction along parents**: what holds of a path if it holds of its parent, holds of all
paths. -/
theorem parent_induction {motive : Path → Prop}
    (step : ∀ path, (∀ above, path.parent? = some above → motive above) → motive path)
    (path : Path) : motive path := by
  induction hn : path.components.length generalizing path with
  | zero =>
    refine step path fun above habove => ?_
    obtain ⟨c, -, hcomponents⟩ := components_of_parent? habove
    rw [hcomponents, List.length_append, List.length_singleton] at hn
    contradiction
  | succ n ih =>
    refine step path fun above habove => ih above ?_
    obtain ⟨c, -, hcomponents⟩ := components_of_parent? habove
    rw [hcomponents, List.length_append, List.length_singleton] at hn
    exact Nat.succ.inj hn

/-! ### Ancestors -/

theorem length_components_le (path : Path) : path.components.length ≤ path.text.length := by
  rw [components_eq, List.length_append, ← String.length_toList, steps]
  rcases spell_cases path.text.toList with ⟨rest, htext, hspell⟩ |
    ⟨rest, htext, more, hmore, hspell⟩ | ⟨-, -, hspell⟩
  · have hrest := length_filterMap_splitOn_le rest
    rw [hspell, htext, List.splitOn_cons_eq_if_modifyHead, List.length_cons]
    show 1 + ((rest.splitOn '/').filterMap componentOf).length ≤ _
    omega
  · have hrest := length_filterMap_splitOn_le rest
    rw [hmore] at hrest
    rw [hspell, htext, List.splitOn_cons_eq_if_modifyHead, List.length_cons, hmore]
    show 1 + (([] :: more).filterMap componentOf).length ≤ _
    omega
  · rw [hspell]
    exact (Nat.zero_add _).symm ▸ length_filterMap_splitOn_le _

/-- More steps than components are as good as any other such number. -/
theorem ancestorsUpTo_eq {bound bound' : Nat} (path : Path)
    (h : path.components.length < bound) (h' : path.components.length < bound') :
    ancestorsUpTo bound path = ancestorsUpTo bound' path := by
  induction bound generalizing path bound' with
  | zero => exact absurd h (Nat.not_lt_zero _)
  | succ bound ih =>
    cases bound' with
    | zero => exact absurd h' (Nat.not_lt_zero _)
    | succ bound' =>
      rw [ancestorsUpTo, ancestorsUpTo]
      cases habove : path.parent? with
      | none => rfl
      | some above =>
        obtain ⟨c, -, hcomponents⟩ := components_of_parent? habove
        rw [hcomponents, List.length_append, List.length_singleton] at h h'
        exact congrArg (path :: ·) (ih above (by omega) (by omega))

/-- **The ancestors of a path** are itself and those of its parent. -/
theorem ancestors_eq (path : Path) :
    path.ancestors = path :: (match path.parent? with
      | some above => above.ancestors
      | none => []) := by
  have hlength := length_components_le path
  rw [ancestors, ancestorsUpTo]
  cases habove : path.parent? with
  | none => rfl
  | some above =>
    obtain ⟨c, -, hcomponents⟩ := components_of_parent? habove
    have habove_length := length_components_le above
    rw [hcomponents, List.length_append, List.length_singleton] at hlength
    exact congrArg (path :: ·) (ancestorsUpTo_eq above (by omega) (by omega))

/-! ### Relative paths -/

/-- Dropping components that come first leaves the rest of them. -/
theorem dropComponents_of_isPrefix {expected : List Component} {pieces : List (List Char)}
    (h : expected <+: pieces.filterMap componentOf) :
    ∃ left, dropComponents expected pieces = some left ∧ left <:+ pieces ∧
      pieces.filterMap componentOf = expected ++ left.filterMap componentOf := by
  induction pieces generalizing expected with
  | nil =>
    obtain rfl := List.prefix_nil.mp h
    exact ⟨[], rfl, List.suffix_rfl, rfl⟩
  | cons piece rest ih =>
    cases expected with
    | nil => exact ⟨piece :: rest, rfl, List.suffix_rfl, rfl⟩
    | cons first expected =>
      rw [List.filterMap_cons] at h ⊢
      rw [dropComponents]
      cases hpiece : componentOf piece with
      | none =>
        rw [hpiece] at h
        obtain ⟨left, hdrop, hsuffix, heq⟩ := ih h
        exact ⟨left, hdrop, hsuffix.trans (List.suffix_cons _ _), heq⟩
      | some c =>
        rw [hpiece] at h
        obtain ⟨rfl, hpre⟩ := List.cons_prefix_cons.mp h
        obtain ⟨left, hdrop, hsuffix, heq⟩ := ih hpre
        refine ⟨left, ?_, hsuffix.trans (List.suffix_cons _ _), ?_⟩
        · dsimp only
          rw [if_pos rfl]
          exact hdrop
        · rw [heq, List.cons_append]

/-- No piece stands for the root. -/
theorem dropComponents_root (rest : List Component) (pieces : List (List Char)) :
    dropComponents (.root :: rest) pieces = none := by
  induction pieces with
  | nil => rfl
  | cons piece more ih =>
    rw [dropComponents]
    cases hpiece : componentOf piece with
    | none => exact ih
    | some c => exact if_neg (componentOf_ne hpiece).1

/-- **A relative path is never below an absolute one**. -/
theorem below?_of_relative {base path : Path} (hbase : base.isAbsolute = true)
    (hpath : path.isAbsolute = false) : base.below? path = none := by
  unfold below?
  dsimp only
  rw [components_of_isAbsolute hbase]
  cases hanchor : (spell path.text.toList).1 with
  | root =>
    rw [(isAbsolute_iff path).mpr hanchor] at hpath
    contradiction
  | current => rfl
  | none =>
    show (dropComponents (.root :: base.steps) _).map _ = none
    rw [dropComponents_root]
    rfl

/-- **What is left of a path below a base**: a relative path to the rest of the place. -/
theorem below?_of_isPrefix {base path : Path} (hbase : base.isAbsolute = true)
    (hpath : path.isAbsolute = true) (h : base.place <+: path.place) :
    ∃ rest, base.below? path = some rest ∧ rest.isAbsolute = false ∧
      path.place = base.place ++ rest.place := by
  rw [place_of_isAbsolute hbase, place_of_isAbsolute hpath, ← filterMap_spell path] at h ⊢
  obtain ⟨left, hdrop, hsuffix, hsteps⟩ := dropComponents_of_isPrefix (List.cons_prefix_cons.mp h).2
  have hspelling : IsSpelling .none (trimIdleEnd (left.dropWhile isIdle)) := by
    refine IsSpelling.of_isPrefix ⟨fun piece hpiece => ?_, fun _ piece hpiece => ?_⟩
      (trimIdleEnd_isPrefix _)
    · have hleft := (List.dropWhile_suffix isIdle).subset hpiece
      exact separator_not_mem_of_mem_spell (hsuffix.subset hleft)
    · have hfirst := List.head?_dropWhile_not isIdle left
      rw [hpiece] at hfirst
      exact hfirst
  -- the rest has no component but those of the pieces that are left
  have hcomponents : (assemble .none (trimIdleEnd (left.dropWhile isIdle))).components
      = left.filterMap componentOf := by
    rw [components_assemble hspelling, filterMap_trimIdleEnd, filterMap_dropWhile_isIdle]
    rfl
  have hne : ∀ c ∈ left.filterMap componentOf, c ≠ .root ∧ c ≠ .current := by
    intro c hc
    obtain ⟨piece, -, hpiece⟩ := List.mem_filterMap.mp hc
    exact componentOf_ne hpiece
  refine ⟨assemble .none (trimIdleEnd (left.dropWhile isIdle)), ?_, ?_, ?_⟩
  · unfold below?
    dsimp only
    rw [components_of_isAbsolute hbase, (isAbsolute_iff path).mp hpath]
    show (dropComponents base.steps _).map _ = _
    rw [hdrop]
    rfl
  · rw [← Bool.not_eq_true, isAbsolute_iff_head?, hcomponents]
    exact fun hroot => (hne _ (List.mem_of_mem_head? hroot)).1 rfl
  · rw [place, hcomponents, List.filter_eq_self.mpr fun c hc => decide_eq_true (hne c hc).2,
      hsteps, List.cons_append]

end SuiteLint.Path
