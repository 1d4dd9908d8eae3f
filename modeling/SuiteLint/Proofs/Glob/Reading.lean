import SuiteLint.Proofs.Glob.Matching
import SuiteLint.Proofs.Outcome.Success
import SuiteLint.Proofs.Text.Pieces

/-!
# Patterns without wildcards other than `**`

A pattern that holds no other wildcard is a sequence of characters and of `**` components.  `Reads`
says how such a text is read: into which tokens, and what is left of it when every pair of stars is
taken out (`Reads.erasePairs_eq`).  A `**` takes the separator after it along, while the text
without stars keeps it.

Compiling is compared with this relation in both directions: what can be read compiles
(`Reads.compile_eq`), and whatever compiles and has no other wildcard can be read
(`exists_reads_of_compile`).  The compiled tokens are those of the relation with neighbouring `**`
merged, which match the same texts (`matchTokens_foldl_push`).
-/

namespace SuiteLint.Glob

/-! ### Reading -/

/-- **Literal character**: one that stands for itself in a pattern. -/
def Literal (c : Char) : Prop :=
  c ≠ '*' ∧ c ≠ '?' ∧ c ≠ '['

/-- A `**` may stand at the start of a pattern and after a separator. -/
def AtStart (before : Option Char) : Prop :=
  before.isNone ∨ before = some '/'

/-- `Reads before text segment tokens`: after the character `before`, a pattern goes on with `text`,
which consists of `tokens` and is `segment` without its stars. -/
inductive Reads : (before : Option Char) → (text segment : List Char) → List Token → Prop where
  /-- The pattern is at its end. -/
  | nil {before : Option Char} : Reads before [] [] []
  /-- A literal character. -/
  | char {before : Option Char} {c : Char} {text segment : List Char} {tokens : List Token}
      (hc : Literal c) (rest : Reads (some c) text segment tokens) :
      Reads before (c :: text) (c :: segment) (.char c :: tokens)
  /-- A `**` at the end. -/
  | last {before : Option Char} (hbefore : AtStart before) :
      Reads before ['*', '*'] [] [.anyComponents]
  /-- A `**` and the separator after it. -/
  | components {before : Option Char} {text segment : List Char} {tokens : List Token}
      (hbefore : AtStart before) (rest : Reads (some '/') text segment tokens) :
      Reads before ('*' :: '*' :: '/' :: text) ('/' :: segment) (.anyComponents :: tokens)

section

variable {before : Option Char} {text segment : List Char} {tokens : List Token}

theorem literal_separator : Literal '/' := by
  unfold Literal
  decide

/-- The text without its stars. -/
theorem Reads.erasePairs_eq (h : Reads before text segment tokens) :
    Text.erasePairs '*' text = segment := by
  induction h with
  | nil => rfl
  | char hc _ ih => rw [Text.erasePairs_cons_of_ne hc.1, ih]
  | last => rfl
  | components _ _ ih =>
    rw [Text.erasePairs_cons_cons, Text.erasePairs_cons_of_ne literal_separator.1, ih]

/-- Literal characters may stand in front of anything that can be read after a character. -/
theorem Reads.append {cs : List Char} (hcs : ∀ c ∈ cs, Literal c)
    (h : ∀ before, Reads before text segment tokens) (before : Option Char) :
    Reads before (cs ++ text) (cs ++ segment) (cs.map .char ++ tokens) := by
  induction cs generalizing before with
  | nil => exact h before
  | cons c cs ih =>
    rw [List.forall_mem_cons] at hcs
    exact .char hcs.1 (ih hcs.2 (some c))

theorem Reads.segment_eq_nil (h : Reads before text segment []) : segment = [] := by
  cases h
  rfl

theorem Reads.text_eq_nil_iff (h : Reads before text segment tokens) :
    text = [] ↔ tokens = [] := by
  cases h <;> simp

end

/-! ### Merging -/

/-- Adds a token to the tokens read so far, which are listed last first. -/
def push (taken : List Token) (token : Token) : List Token :=
  match token with
  | .anyComponents => pushRecursive taken
  | _ => token :: taken

theorem matchTokens_push (taken : List Token) (token : Token) (tokens : List Token) :
    matchTokens ((push taken token).reverse ++ tokens)
      = matchTokens (taken.reverse ++ token :: tokens) := by
  have hcons : (token :: taken).reverse ++ tokens = taken.reverse ++ token :: tokens := by simp
  unfold push
  split
  · unfold pushRecursive
    split
    · -- the last token is a `**` already
      rename_i other rest
      rw [List.reverse_cons, List.append_assoc, List.append_assoc]
      exact matchTokens_append_congr (matchTokens_merge tokens).symm _
    · rw [hcons]
  · rw [hcons]

/-- **Merging** neighbours changes nothing in what is matched. -/
theorem matchTokens_foldl_push (taken tokens : List Token) :
    matchTokens (tokens.foldl push taken).reverse = matchTokens (taken.reverse ++ tokens) := by
  induction tokens generalizing taken with
  | nil => rw [List.foldl_nil, List.append_nil]
  | cons token tokens ih => rw [List.foldl_cons, ih, matchTokens_push]

/-! ### Compiling -/

section

variable {fuel position : Nat} {before : Option Char} {taken : List Token} {rest : List Char}

theorem readTokens_literal {c : Char} (hc : Literal c) :
    readTokens (fuel + 1) position before taken (c :: rest)
      = readTokens fuel (position + 1) (some c) (.char c :: taken) rest := by
  obtain ⟨hstar, hmark, hbracket⟩ := hc
  rw [readTokens, if_neg hmark, if_neg hstar, if_neg hbracket]

theorem readTokens_nil (fuel position : Nat) (before : Option Char) (taken : List Token) :
    readTokens fuel position before taken [] = .ok taken.reverse := by
  cases fuel <;> rw [readTokens]

theorem takeWhile_pair (hrest : rest.head? ≠ some '*') :
    ('*' :: '*' :: rest).takeWhile (fun d => d == '*') = ['*', '*'] := by
  cases rest with
  | nil => rfl
  | cons c rest =>
    have hc : (c == '*') = false := by simpa using hrest
    simp [hc]

theorem readTokens_last (hbefore : AtStart before) :
    readTokens (fuel + 1) position before taken ['*', '*']
      = .ok (pushRecursive taken).reverse := by
  have hmark : '*' ≠ '?' := by decide
  rw [readTokens, if_neg hmark, if_pos rfl]
  exact (if_pos hbefore).trans (readTokens_nil fuel _ _ _)

theorem readTokens_components (hbefore : AtStart before) :
    readTokens (fuel + 1) position before taken ('*' :: '*' :: '/' :: rest)
      = readTokens fuel (position + 3) (some '/') (pushRecursive taken) rest := by
  have hmark : '*' ≠ '?' := by decide
  have hpair : ('*' :: '*' :: '/' :: rest).takeWhile (fun d => d == '*') = ['*', '*'] :=
    takeWhile_pair (by simp)
  rw [readTokens, if_neg hmark, if_pos rfl]
  simp only [hpair]
  exact if_pos hbefore

/-- **What can be read compiles**. -/
theorem Reads.readTokens_eq {text segment : List Char} {tokens : List Token}
    (h : Reads before text segment tokens) (hfuel : text.length < fuel) :
    readTokens fuel position before taken text = .ok (tokens.foldl push taken).reverse := by
  induction h generalizing fuel position taken with
  | nil => exact readTokens_nil fuel position _ taken
  | @char before c text segment tokens hc _ ih =>
    obtain ⟨fuel, rfl⟩ : ∃ less, fuel = less + 1 := ⟨fuel - 1, by omega⟩
    rw [readTokens_literal hc, ih (Nat.lt_of_succ_lt_succ hfuel)]
    rfl
  | last hbefore =>
    obtain ⟨fuel, rfl⟩ : ∃ less, fuel = less + 1 := ⟨fuel - 1, by omega⟩
    exact readTokens_last hbefore
  | @components before text segment tokens hbefore _ ih =>
    obtain ⟨fuel, rfl⟩ : ∃ less, fuel = less + 1 := ⟨fuel - 1, by omega⟩
    have hshorter : text.length < fuel := by
      rw [List.length_cons, List.length_cons, List.length_cons] at hfuel
      omega
    rw [readTokens_components hbefore]
    exact ih hshorter

theorem not_three_stars {out : List Token}
    (h : readTokens (fuel + 1) position before taken ('*' :: '*' :: rest) = .ok out) :
    rest.head? ≠ some '*' := by
  intro hthird
  obtain ⟨rest, rfl⟩ : ∃ more, rest = '*' :: more := by
    cases rest with
    | nil => contradiction
    | cons c rest => exact ⟨rest, congrArg (· :: rest) (Option.some.inj hthird)⟩
  have hmark : '*' ≠ '?' := by decide
  have hmany : 2 < (('*' :: '*' :: '*' :: rest).takeWhile (fun d => d == '*')).length := by
    simp
  rw [readTokens, if_neg hmark, if_pos rfl] at h
  simp only [if_pos hmany] at h
  contradiction

/-- Two stars are read only as a component of their own. -/
theorem of_readTokens_pair {out : List Token}
    (h : readTokens (fuel + 1) position before taken ('*' :: '*' :: rest) = .ok out) :
    AtStart before ∧ (rest = [] ∨ ∃ after, rest = '/' :: after ∧
      readTokens fuel (position + 3) (some '/') (pushRecursive taken) after = .ok out) := by
  have hpair := takeWhile_pair (not_three_stars h)
  have hmark : '*' ≠ '?' := by decide
  rw [readTokens, if_neg hmark, if_pos rfl] at h
  simp only [hpair, List.length_cons, List.length_nil, Nat.lt_irrefl, if_false, if_true,
    List.drop_succ_cons, List.drop_zero] at h
  split_ifs at h with hbefore
  split at h
  · exact ⟨hbefore, Or.inl rfl⟩
  · rename_i after
    exact ⟨hbefore, Or.inr ⟨after, rfl, h⟩⟩
  · contradiction

/-- **What compiles can be read**, if it holds no other wildcard. -/
theorem exists_reads_of_readTokens {text : List Char} {out : List Token}
    (hfuel : text.length < fuel) (h : readTokens fuel position before taken text = .ok out)
    (hplain : ∀ c ∈ Text.erasePairs '*' text, Literal c) :
    ∃ segment tokens, Reads before text segment tokens := by
  induction fuel generalizing position before taken text with
  | zero => exact absurd hfuel (Nat.not_lt_zero _)
  | succ fuel ih =>
    cases text with
    | nil => exact ⟨[], [], .nil⟩
    | cons c rest =>
      rw [List.length_cons] at hfuel
      by_cases hstar : c = '*'
      · subst hstar
        -- a star on its own would be left when the pairs are taken out
        obtain ⟨rest, rfl⟩ : ∃ more, rest = '*' :: more := by
          by_contra hsingle
          have hhead : rest.head? ≠ some '*' := by
            intro hhead
            obtain ⟨more, hmore⟩ := List.head?_eq_some_iff.mp hhead
            exact hsingle ⟨more, hmore⟩
          exact (hplain '*' (Text.mem_erasePairs_of_single hhead)).1 rfl
        rw [Text.erasePairs_cons_cons] at hplain
        obtain ⟨hbefore, rfl | ⟨after, rfl, hafter⟩⟩ := of_readTokens_pair h
        · exact ⟨_, _, .last hbefore⟩
        · rw [Text.erasePairs_cons_of_ne literal_separator.1, List.forall_mem_cons] at hplain
          rw [List.length_cons, List.length_cons] at hfuel
          obtain ⟨segment, tokens, hreads⟩ := ih (by omega) hafter hplain.2
          exact ⟨_, _, .components hbefore hreads⟩
      · rw [Text.erasePairs_cons_of_ne hstar, List.forall_mem_cons] at hplain
        rw [readTokens_literal hplain.1] at h
        obtain ⟨segment, tokens, hreads⟩ := ih (Nat.lt_of_succ_lt_succ hfuel) h hplain.2
        exact ⟨_, _, .char hplain.1 hreads⟩

end

/-- The compiled pattern of a text that can be read. -/
theorem Reads.compile_eq {text segment : List Char} {tokens : List Token}
    (h : Reads none text segment tokens) :
    ∃ pattern, Pattern.compile text = .ok pattern ∧
      ∀ path, pattern.matchesAll path = matchTokens tokens path := by
  refine ⟨⟨(tokens.foldl push []).reverse⟩, ?_, fun path => ?_⟩
  · unfold Pattern.compile
    rw [h.readTokens_eq (Nat.lt_succ_self _)]
    rfl
  · exact congrFun (matchTokens_foldl_push [] tokens) path

theorem exists_reads_of_compile {text : List Char} {pattern : Pattern}
    (h : Pattern.compile text = .ok pattern)
    (hplain : ∀ c ∈ Text.erasePairs '*' text, Literal c) :
    ∃ tokens, Reads none text (Text.erasePairs '*' text) tokens ∧
      ∀ path, pattern.matchesAll path = matchTokens tokens path := by
  obtain ⟨out, hout, -⟩ := map_eq_ok_iff.mp h
  obtain ⟨segment, tokens, hreads⟩ := exists_reads_of_readTokens (Nat.lt_succ_self _) hout hplain
  obtain ⟨pattern', hpattern', hmatch⟩ := hreads.compile_eq
  obtain rfl : pattern' = pattern := Except.ok.inj (hpattern'.symm.trans h)
  exact ⟨tokens, hreads.erasePairs_eq ▸ hreads, hmatch⟩

end SuiteLint.Glob
