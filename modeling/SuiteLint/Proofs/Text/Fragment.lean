import Mathlib.Data.List.Chain
import Mathlib.Order.Basic
import SuiteLint.Proofs.Text.Pieces
import SuiteLint.Text.Fragment

/-!
# Fragments are words with single spaces between them

A fragment is made from the words of a text.  What is shown of them here rests on one fact: a
fragment that was cut off consists of words with single spaces between them again, since the dots
either complete the word that was cut or stand as a word of their own
(`exists_isWord_fragmentOf`).  Such a text is single-spaced (`singleSpaced_intercalate`) and gives
back its words (`words_intercalate`), so to take the fragment of a fragment changes nothing
(`fragmentOf_fragmentOf`).
-/

namespace SuiteLint.Text

/-! ### Words -/

/-- **Word**: some characters, none of them blank. -/
def IsWord (w : List Char) : Prop :=
  w ≠ [] ∧ ∀ c ∈ w, isBlank c = false

theorem isWord_of_mem_words {cs w : List Char} (h : w ∈ words cs) : IsWord w := by
  obtain ⟨hsplit, hne⟩ := List.mem_filter.mp h
  exact ⟨by simpa using hne, eq_false_of_mem_splitOnP hsplit⟩

theorem words_of_isWord {w : List Char} (h : IsWord w) : words w = [w] := by
  rw [words, List.splitOnP_eq_singleton h.2]
  simp [h.1]

theorem words_append_space {w : List Char} (h : IsWord w) (cs : List Char) :
    words (w ++ ' ' :: cs) = w :: words cs := by
  have hspace : isBlank ' ' = true := rfl
  have hw := words_of_isWord h
  unfold words at hw ⊢
  rw [List.splitOnP_append_cons w cs hspace, List.filter_append, hw]
  rfl

/-- Two or more words begin with a word and a space. -/
theorem intercalate_space (w : List Char) {ws : List (List Char)} (h : ws ≠ []) :
    [' '].intercalate (w :: ws) = w ++ ' ' :: [' '].intercalate ws := by
  rw [List.intercalate_cons_of_ne_nil h, List.append_assoc, List.singleton_append]

/-- **Words are read back** from a text that has single spaces between them. -/
theorem words_intercalate {ws : List (List Char)} (h : ∀ w ∈ ws, IsWord w) :
    words ([' '].intercalate ws) = ws := by
  induction ws with
  | nil => rfl
  | cons w ws ih =>
    rw [List.forall_mem_cons] at h
    by_cases hws : ws = []
    · rw [hws, List.intercalate_singleton, words_of_isWord h.1]
    · rw [intercalate_space w hws, words_append_space h.1, ih h.2]

/-! ### Single spaces -/

/-- **Single-spaced text**: it does not begin with a blank, has no blank but the space, and never
two of them in a row. -/
structure SingleSpaced (cs : List Char) : Prop where
  /-- The first character is not blank. -/
  front : ∀ c ∈ cs.head?, isBlank c = false
  /-- Every blank is a space. -/
  space : ∀ c ∈ cs, isBlank c = true → c = ' '
  /-- What follows a space is not a space. -/
  apart : cs.IsChain (fun a b => a = ' ' → b ≠ ' ')

theorem isChain_of_isWord {w : List Char} (h : IsWord w) :
    w.IsChain (fun a b => a = ' ' → b ≠ ' ') := by
  refine List.Pairwise.isChain (List.pairwise_of_forall_mem_list fun a ha b _ hspace => ?_)
  have hblank := h.2 a ha
  rw [hspace] at hblank
  exact absurd hblank (by decide)

theorem singleSpaced_of_isWord {w : List Char} (h : IsWord w) : SingleSpaced w := by
  refine ⟨fun c hc => h.2 c (List.mem_of_mem_head? hc), fun c hc hblank => ?_, isChain_of_isWord h⟩
  rw [h.2 c hc] at hblank
  contradiction

theorem singleSpaced_append_space {w cs : List Char} (hw : IsWord w) (h : SingleSpaced cs) :
    SingleSpaced (w ++ ' ' :: cs) := by
  have hword := singleSpaced_of_isWord hw
  refine ⟨fun c hc => ?_, fun c hc hblank => ?_, ?_⟩
  · rw [List.head?_append_of_ne_nil w hw.1] at hc
    exact hword.front c hc
  · rw [List.mem_append, List.mem_cons] at hc
    rcases hc with hc | rfl | hc
    · exact hword.space c hc hblank
    · rfl
    · exact h.space c hc hblank
  · -- the space in between has characters that are not blank on either side
    have hnot : ∀ c, isBlank c = false → c ≠ ' ' := by
      rintro _ hc rfl
      exact absurd hc (by decide)
    refine List.isChain_append.mpr ⟨hword.apart, List.isChain_cons.mpr ⟨?_, h.apart⟩, ?_⟩
    · exact fun c hc _ => hnot c (h.front c hc)
    · intro c hc _ _ hspace
      exact absurd hspace (hnot c (hw.2 c (List.mem_of_mem_getLast? hc)))

theorem singleSpaced_intercalate {ws : List (List Char)} (h : ∀ w ∈ ws, IsWord w) :
    SingleSpaced ([' '].intercalate ws) := by
  induction ws with
  | nil => exact ⟨nofun, nofun, .nil⟩
  | cons w ws ih =>
    rw [List.forall_mem_cons] at h
    by_cases hws : ws = []
    · rw [hws, List.intercalate_singleton]
      exact singleSpaced_of_isWord h.1
    · rw [intercalate_space w hws]
      exact singleSpaced_append_space h.1 (ih h.2)

/-! ### Cutting -/

/-- The three dots after a text that was cut. -/
def dots : List Char := ['.', '.', '.']

theorem isWord_append_dots {cs : List Char} (h : ∀ c ∈ cs, isBlank c = false) :
    IsWord (cs ++ dots) := by
  refine ⟨by simp [dots], fun c hc => ?_⟩
  rcases List.mem_append.mp hc with hc | hc
  · exact h c hc
  · have hdot : c = '.' := by simpa [dots] using hc
    rw [hdot]
    rfl

/-- **Where a text is cut**, its beginning and the dots are words with single spaces between them
again. -/
theorem exists_isWord_take_append_dots {ws : List (List Char)} (h : ∀ w ∈ ws, IsWord w)
    (limit : Nat) :
    ∃ ws', (∀ w ∈ ws', IsWord w) ∧
      ([' '].intercalate ws).take limit ++ dots = [' '].intercalate ws' := by
  induction ws generalizing limit with
  | nil =>
    have hdots : IsWord dots := @isWord_append_dots [] nofun
    exact ⟨[dots], by simpa using hdots, by simp⟩
  | cons w ws ih =>
    rw [List.forall_mem_cons] at h
    by_cases hinside : ws = [] ∨ limit ≤ w.length
    · -- the cut is in the first word or right behind it, and the dots complete that word
      have htake : ([' '].intercalate (w :: ws)).take limit = w.take limit := by
        rcases hinside with rfl | hle
        · rw [List.intercalate_singleton]
        · by_cases hws : ws = []
          · rw [hws, List.intercalate_singleton]
          · rw [intercalate_space w hws, List.take_append_of_le_length hle]
      have hword : IsWord (w.take limit ++ dots) :=
        isWord_append_dots fun c hc => h.1.2 c (List.mem_of_mem_take hc)
      exact ⟨[w.take limit ++ dots], by simpa using hword, by simp [htake]⟩
    · -- the cut is behind the space, so it cuts the words that follow
      obtain ⟨hws, hlt⟩ := not_or.mp hinside
      obtain ⟨ws', hwords, hcut⟩ := ih h.2 (limit - w.length - 1)
      have hne : ws' ≠ [] := by
        rintro rfl
        simp [dots] at hcut
      refine ⟨w :: ws', List.forall_mem_cons.mpr ⟨h.1, hwords⟩, ?_⟩
      have hlimit : limit - w.length = limit - w.length - 1 + 1 := by omega
      rw [intercalate_space w hws, intercalate_space w hne, ← hcut, List.take_append,
        List.take_of_length_le (by omega), hlimit, List.take_succ_cons, List.append_assoc,
        List.cons_append]
      simp

theorem exists_isWord_fragmentOf (limit : Nat) (cs : List Char) :
    ∃ ws, (∀ w ∈ ws, IsWord w) ∧ fragmentOf limit cs = [' '].intercalate ws := by
  have hwords : ∀ w ∈ words cs, IsWord w := fun w hw => isWord_of_mem_words hw
  unfold fragmentOf collapse
  dsimp only
  split_ifs
  · exact exists_isWord_take_append_dots hwords limit
  · exact ⟨words cs, hwords, rfl⟩

theorem collapse_fragmentOf (limit : Nat) (cs : List Char) :
    collapse (fragmentOf limit cs) = fragmentOf limit cs := by
  obtain ⟨ws, hws, hfragment⟩ := exists_isWord_fragmentOf limit cs
  rw [hfragment, collapse, words_intercalate hws]

theorem fragmentOf_of_le {limit : Nat} {cs : List Char} (h : (collapse cs).length ≤ limit) :
    fragmentOf limit cs = collapse cs :=
  if_neg h.not_gt

theorem fragmentOf_of_lt {limit : Nat} {cs : List Char} (h : limit < (collapse cs).length) :
    fragmentOf limit cs = (collapse cs).take limit ++ dots :=
  if_pos h

theorem length_fragmentOf_le (limit : Nat) (cs : List Char) :
    (fragmentOf limit cs).length ≤ limit + 3 := by
  rcases Nat.lt_or_ge limit (collapse cs).length with h | h
  · rw [fragmentOf_of_lt h, List.length_append, List.length_take]
    have hdots : dots.length = 3 := rfl
    omega
  · rw [fragmentOf_of_le h]
    omega

/-- **The fragment of a fragment** is the fragment itself.  One that was cut is too long again, by
the dots, and is cut at the same place. -/
theorem fragmentOf_fragmentOf (limit : Nat) (cs : List Char) :
    fragmentOf limit (fragmentOf limit cs) = fragmentOf limit cs := by
  have hcollapse := collapse_fragmentOf limit cs
  rcases Nat.lt_or_ge limit (collapse cs).length with h | h
  · rw [fragmentOf_of_lt h] at hcollapse ⊢
    have htake : ((collapse cs).take limit).length = limit := by
      rw [List.length_take]; omega
    have hlong : limit < (collapse ((collapse cs).take limit ++ dots)).length := by
      rw [hcollapse, List.length_append, htake]
      exact Nat.lt_add_of_pos_right (by decide)
    rw [fragmentOf_of_lt hlong, hcollapse, List.take_append_of_le_length htake.ge,
      List.take_of_length_le htake.le]
  · rw [fragmentOf_of_le h] at hcollapse ⊢
    have hshort : (collapse (collapse cs)).length ≤ limit := by rwa [hcollapse]
    rw [fragmentOf_of_le hshort, hcollapse]

theorem singleSpaced_fragmentOf (limit : Nat) (cs : List Char) :
    SingleSpaced (fragmentOf limit cs) := by
  obtain ⟨ws, hws, hfragment⟩ := exists_isWord_fragmentOf limit cs
  rw [hfragment]
  exact singleSpaced_intercalate hws

end SuiteLint.Text
