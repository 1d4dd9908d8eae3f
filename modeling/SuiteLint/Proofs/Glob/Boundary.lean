import Mathlib.Data.List.Infix
import SuiteLint.Proofs.Glob.Reading

/-!
# Matching at boundaries

When does every path that holds the text of a pattern match the pattern, or have a part below some
separator that does?  For a pattern without wildcards other than `**` this comes down to its two
ends: it has to begin and end with `**` (`OpenEnded`).

* If it does, the `**` at the end takes whatever follows the text, and the one at the front makes up
  for the separator that the text begins with (`matchesAtBoundary_of_openEnded`).
* If it does not end with `**`, what it matches ends as the pattern does, so one more character
  behind the text spoils the match (`back_of_matchesAtBoundary`).
* If it does not begin with `**`, one more character in front of the text does
  (`front_of_matchesAtBoundary`): a match further down would have to make do with fewer characters
  than the pattern has (`Reads.count_segment_le`), unless only separators are left out.
-/

namespace SuiteLint.Glob

/-! ### Both ends of a pattern -/

/-- **Open at both ends**: the pattern begins with a `**` component, separators aside, and ends with
one. -/
def OpenEnded (text : List Char) : Prop :=
  ['*', '*', '/'] <+: text.dropWhile (fun c => c == '/') ∧
    (['*', '*'] <:+ text ∨ ['*', '*', '/'] <:+ text)

instance : DecidablePred OpenEnded :=
  fun _ => inferInstanceAs (Decidable (_ ∧ _))

theorem getLast?_cons_eq_some_iff {α : Type} {a b : α} {l : List α} :
    (a :: l).getLast? = some b ↔ (l = [] ∧ a = b) ∨ l.getLast? = some b := by
  cases l with
  | nil => simp
  | cons c l => simp [List.getLast?_cons_cons]

namespace Reads

variable {before : Option Char} {text segment : List Char} {tokens : List Token}

theorem mem_tokens (h : Reads before text segment tokens) :
    ∀ token ∈ tokens, token = .anyComponents ∨ ∃ c, token = .char c := by
  induction h with
  | nil => simp
  | @char _ c _ _ _ _ _ ih => exact List.forall_mem_cons.mpr ⟨Or.inr ⟨c, rfl⟩, ih⟩
  | last => simp
  | components _ _ ih => exact List.forall_mem_cons.mpr ⟨Or.inl rfl, ih⟩

theorem getLast?_iff (h : Reads before text segment tokens) :
    tokens.getLast? = some .anyComponents ↔ ['*', '*'] <:+ text ∨ ['*', '*', '/'] <:+ text := by
  induction h with
  | nil => simp
  | @char _ c text _ tokens hc _ ih =>
    have hskip : ∀ stars, ('*' :: stars <:+ c :: text ↔ '*' :: stars <:+ text) := by
      intro stars
      rw [List.suffix_cons_iff, List.cons.injEq]
      exact or_iff_right fun heq => hc.1 heq.1.symm
    rw [getLast?_cons_eq_some_iff, hskip, hskip, ← ih]
    exact or_iff_right fun hlast => nomatch hlast.2
  | last => simp
  | @components _ text _ tokens _ rest ih =>
    have hskip : ['*', '*'] <:+ '*' :: '*' :: '/' :: text ↔ ['*', '*'] <:+ text := by
      simp [List.suffix_cons_iff]
    have hskip' : ['*', '*', '/'] <:+ '*' :: '*' :: '/' :: text ↔
        text = [] ∨ ['*', '*', '/'] <:+ text := by
      simp [List.suffix_cons_iff, eq_comm]
    rw [getLast?_cons_eq_some_iff, hskip, hskip', or_left_comm, ← ih, rest.text_eq_nil_iff]
    exact or_congr_left (and_iff_left rfl)

/-- A pattern that ends with `**` matches whatever begins with its text without stars. -/
theorem matches_segment (h : Reads before text segment tokens)
    (hlast : tokens.getLast? = some .anyComponents) (more : List Char) :
    matchTokens tokens (segment ++ more) = true := by
  induction h with
  | nil => contradiction
  | @char _ _ _ segment _ _ _ ih =>
    rcases getLast?_cons_eq_some_iff.mp hlast with ⟨-, heq⟩ | hlast
    · contradiction
    · exact matchTokens_char_iff.mpr ⟨segment ++ more, rfl, ih hlast⟩
  | last => exact matchTokens_anyComponents_nil _
  | @components _ _ segment _ _ _ ih =>
    rcases getLast?_cons_eq_some_iff.mp hlast with ⟨rfl, -⟩ | hlast
    · exact matchTokens_anyComponents_nil _
    · have hleft : LeftBelow ([] ++ '/' :: (segment ++ more)) (segment ++ more) := .after
      exact matchTokens_anyComponents_iff.mpr ⟨segment ++ more, hleft, ih hlast⟩

/-- If it begins with `**` too, the first separator of its text is not needed for that. -/
theorem matches_below (h : Reads before text segment tokens)
    (hfront : ['*', '*', '/'] <+: text.dropWhile (fun c => c == '/'))
    (hlast : tokens.getLast? = some .anyComponents) :
    ∃ rest, segment = '/' :: rest ∧ ∀ more, matchTokens tokens (rest ++ more) = true := by
  induction h with
  | nil => simp at hfront
  | @char _ c _ _ _ hc _ ih =>
    by_cases hseparator : c = '/'
    · subst hseparator
      rcases getLast?_cons_eq_some_iff.mp hlast with ⟨-, heq⟩ | hlast
      · contradiction
      · obtain ⟨rest, rfl, hmatch⟩ := ih hfront hlast
        exact ⟨_, rfl, fun more => matchTokens_char_iff.mpr ⟨rest ++ more, rfl, hmatch more⟩⟩
    · rw [List.dropWhile_cons_of_neg (by simpa using hseparator), List.cons_prefix_cons] at hfront
      exact absurd hfront.1.symm hc.1
  | last => simp at hfront
  | @components _ _ segment _ _ rest _ =>
    refine ⟨segment, rfl, fun more => ?_⟩
    rcases getLast?_cons_eq_some_iff.mp hlast with ⟨rfl, -⟩ | hlast
    · exact matchTokens_anyComponents_nil _
    · have hmatch := rest.matches_segment hlast more
      exact matchTokens_anyComponents_iff.mpr ⟨segment ++ more, .refl, hmatch⟩

/-- What is matched holds every character as often as the pattern does, separators aside. -/
theorem count_segment_le (h : Reads before text segment tokens) {c : Char} (hc : c ≠ '/')
    {path : List Char} (hmatch : matchTokens tokens path = true) :
    segment.count c ≤ path.count c := by
  induction h generalizing path with
  | nil => simp
  | @char _ d _ segment _ _ _ ih =>
    obtain ⟨rest, rfl, hrest⟩ := matchTokens_char_iff.mp hmatch
    have hle := ih hrest
    rw [List.count_cons, List.count_cons]
    omega
  | last => simp
  | components _ _ ih =>
    obtain ⟨rest, hleft, hrest⟩ := matchTokens_anyComponents_iff.mp hmatch
    rw [List.count_cons_of_ne hc.symm]
    exact Nat.le_trans (ih hrest) (hleft.isSuffix.sublist.count_le c)

/-- What is matched ends as the pattern does. -/
theorem getLast?_of_match (h : Reads before text segment tokens) {c : Char}
    (hlast : tokens.getLast? = some (.char c)) {path : List Char}
    (hmatch : matchTokens tokens path = true) : path.getLast? = some c := by
  induction h generalizing path with
  | nil => contradiction
  | @char _ d _ _ _ _ _ ih =>
    obtain ⟨rest, rfl, hrest⟩ := matchTokens_char_iff.mp hmatch
    rcases getLast?_cons_eq_some_iff.mp hlast with ⟨rfl, heq⟩ | hlast
    · obtain rfl : d = c := Token.char.inj heq
      rw [List.isEmpty_iff.mp hrest]
      rfl
    · exact getLast?_cons_eq_some_iff.mpr (Or.inr (ih hlast hrest))
  | last => simp at hlast
  | components _ _ ih =>
    obtain ⟨rest, hleft, hrest⟩ := matchTokens_anyComponents_iff.mp hmatch
    rcases getLast?_cons_eq_some_iff.mp hlast with ⟨-, heq⟩ | hlast
    · contradiction
    · obtain ⟨front, rfl⟩ := hleft.isSuffix
      rw [List.getLast?_append, ih hlast hrest]
      rfl

/-- A pattern that matches its own text after some separators are taken from the front of it has a
`**` there that makes up for them. -/
theorem front_of_match (h : Reads before text segment tokens) {path : List Char} (n : Nat)
    (hsegment : segment = List.replicate (n + 1) '/' ++ path)
    (hmatch : matchTokens tokens path = true) :
    ['*', '*', '/'] <+: text.dropWhile (fun c => c == '/') := by
  induction h generalizing path with
  | nil => simp [List.replicate_succ] at hsegment
  | @char _ c text segment tokens _ _ ih =>
    rw [List.replicate_succ, List.cons_append] at hsegment
    obtain ⟨rfl, rfl⟩ := List.cons.inj hsegment
    obtain ⟨rest, rfl, hrest⟩ := matchTokens_char_iff.mp hmatch
    have hmore : List.replicate n '/' ++ '/' :: rest = List.replicate (n + 1) '/' ++ rest := by
      rw [List.replicate_succ', List.append_assoc]
      rfl
    exact ih hmore hrest
  | last => simp [List.replicate_succ] at hsegment
  | @components _ text => exact List.prefix_append ['*', '*', '/'] text

end Reads

/-! ### Boundaries -/

/-- **Matching at a boundary**: the glob matches the whole path, or all that follows one of its
separators. -/
def Pattern.MatchesAtBoundary (pattern : Pattern) (path : List Char) : Prop :=
  pattern.matchesAll path = true ∨ ∃ rest, '/' :: rest <:+ path ∧ pattern.matchesAll rest = true

instance (pattern : Pattern) (path : List Char) : Decidable (pattern.MatchesAtBoundary path) :=
  decidable_of_iff (pattern.matchesAll path = true ∨
      ∃ back ∈ path.tails, back.head? = some '/' ∧ pattern.matchesAll back.tail = true) <| by
    refine or_congr_right ⟨?_, ?_⟩
    · rintro ⟨back, hmem, hhead, hmatch⟩
      rw [List.mem_tails] at hmem
      rw [← List.cons_head?_tail hhead] at hmem
      exact ⟨back.tail, hmem, hmatch⟩
    · rintro ⟨rest, hsuffix, hmatch⟩
      exact ⟨'/' :: rest, (List.mem_tails _ _).mpr hsuffix, rfl, hmatch⟩

theorem exists_other (c : Char) : ∃ other : Char, other ≠ c ∧ other ≠ '/' := by
  by_cases h : c = 'a'
  · exact ⟨'b', by rw [h]; decide, by decide⟩
  · exact ⟨'a', fun heq => h heq.symm, by decide⟩

section

variable {pattern : Pattern} {text segment : List Char} {tokens : List Token}
  (hreads : Reads none text segment tokens)
  (hmatches : ∀ path, pattern.matchesAll path = matchTokens tokens path)

include hreads hmatches

theorem matchesAtBoundary_of_openEnded (hopen : OpenEnded text) {path : List Char}
    (hpath : segment <:+: path) : pattern.MatchesAtBoundary path := by
  have hlast := hreads.getLast?_iff.mpr hopen.2
  obtain ⟨rest, rfl, hrest⟩ := hreads.matches_below hopen.1 hlast
  obtain ⟨before, after, rfl⟩ := hpath
  refine Or.inr ⟨rest ++ after, ⟨before, ?_⟩, ?_⟩
  · simp
  · rw [hmatches]
    exact hrest after

/-- A character after the text spoils every match of a pattern that does not end with `**`. -/
theorem back_of_matchesAtBoundary (hne : segment ≠ [])
    (h : ∀ path, segment <:+: path → pattern.MatchesAtBoundary path) :
    ['*', '*'] <:+ text ∨ ['*', '*', '/'] <:+ text := by
  rw [← hreads.getLast?_iff]
  cases hlast : tokens.getLast? with
  | none =>
    rw [List.getLast?_eq_none_iff.mp hlast] at hreads
    exact absurd hreads.segment_eq_nil hne
  | some token =>
    rcases hreads.mem_tokens token (List.mem_of_getLast? hlast) with rfl | ⟨c, rfl⟩
    · rfl
    · exfalso
      obtain ⟨other, hother, -⟩ := exists_other c
      have hend : (segment ++ [other]).getLast? = some other := List.getLast?_concat
      rcases h (segment ++ [other]) (List.prefix_append segment [other]).isInfix with
        hwhole | ⟨rest, ⟨before, heq⟩, hrest⟩
      · rw [hmatches] at hwhole
        rw [hreads.getLast?_of_match hlast hwhole] at hend
        exact hother (Option.some.inj hend).symm
      · rw [hmatches] at hrest
        rw [← heq, List.getLast?_append, List.getLast?_cons,
          hreads.getLast?_of_match hlast hrest] at hend
        exact hother (Option.some.inj hend).symm

/-- A character before the text spoils every match of a pattern that does not begin with `**`. -/
theorem front_of_matchesAtBoundary (hne : segment ≠ [])
    (h : ∀ path, segment <:+: path → pattern.MatchesAtBoundary path) :
    ['*', '*', '/'] <+: text.dropWhile (fun c => c == '/') := by
  obtain ⟨other, hother, hseparator⟩ := exists_other (segment.head hne)
  rcases h (other :: segment) (List.suffix_cons other segment).isInfix with
    hwhole | ⟨rest, ⟨before, heq⟩, hrest⟩
  · rw [hmatches] at hwhole
    cases hreads with
    | nil => contradiction
    | char =>
      obtain ⟨rest, heq, -⟩ := matchTokens_char_iff.mp hwhole
      exact absurd (List.cons.inj heq).1 hother
    | last => contradiction
    | @components _ text => exact List.prefix_append ['*', '*', '/'] text
  · rw [hmatches] at hrest
    obtain ⟨before, rfl, rfl⟩ : ∃ less, before = other :: less ∧ segment = less ++ '/' :: rest := by
      cases before with
      | nil => exact absurd (List.cons.inj heq).1.symm hseparator
      | cons c less =>
        obtain ⟨rfl, rfl⟩ := List.cons.inj heq
        exact ⟨less, rfl, rfl⟩
    -- the rest has all characters of the text but separators, so there is none in front of it
    have hbefore : ∀ c ∈ before, c = '/' := by
      intro c hmem
      by_contra hc
      have hcount := hreads.count_segment_le hc hrest
      have hpos := List.count_pos_iff.mpr hmem
      rw [List.count_append, List.count_cons_of_ne (Ne.symm hc)] at hcount
      omega
    rw [List.eq_replicate_of_mem hbefore] at hreads
    refine hreads.front_of_match before.length ?_ hrest
    rw [List.replicate_succ', List.append_assoc]
    rfl

end

end SuiteLint.Glob
