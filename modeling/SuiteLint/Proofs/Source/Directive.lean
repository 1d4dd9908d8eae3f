import Mathlib.Data.List.TakeWhile
import SuiteLint.Proofs.Text.Pieces
import SuiteLint.Source.Directive

/-!
# Reading and writing directives

Which lines carry a directive, and which directive that is.

* `body?_eq_some_iff`: of all the pairs of slashes in a line the first one counts whose comment
  begins with the marker (`Opening`).  Pairs may overlap here; that the reader uses up a pair of
  slashes at a time makes no difference (`body?_cons`).
* `parse?_eq_some_iff`: what has to follow the marker.
* `parse?_append_render`: a directive that is written at the end of a line is read back as it was,
  whatever precedes it, slashes and addresses included.
* `Allowance.check_rendered`: it then allows what it names, on its own line and on the next one.
-/

namespace SuiteLint

open SuiteLint.Text (after? trim trimStart trimEnd isBlank commaList)

namespace Directive

/-! ### Comments -/

/-- A slash in front of a comment does not change its text. -/
theorem commentText_slash (comment : List Char) :
    commentText ('/' :: comment) = commentText comment := by
  unfold commentText
  rw [List.dropWhile_cons_of_pos rfl]

theorem body?_cons_cons (a b : Char) (rest : List Char) :
    body? (a :: b :: rest) = if a = '/' ∧ b = '/' then
        (after? marker (commentText rest)).or (body? rest)
      else body? (b :: rest) := by
  unfold body?
  rw [comments]
  split
  · rw [List.findSome?_cons]
    cases after? marker (commentText rest) <;> rfl
  · rfl

/-- **One character at a time**: at a pair of slashes either the comment that it opens has the
marker, or the search goes on with the second slash. -/
theorem body?_cons (c : Char) (cs : List Char) :
    body? (c :: cs) = if c = '/' ∧ cs.head? = some '/' then
        (after? marker (commentText cs)).or (body? cs)
      else body? cs := by
  induction cs generalizing c with
  | nil =>
    rw [if_neg fun h => Option.some_ne_none _ h.2.symm]
    rfl
  | cons b rest ih =>
    rw [body?_cons_cons]
    simp only [List.head?_cons, Option.some.injEq]
    split
    · rename_i hpair
      obtain ⟨-, rfl⟩ := hpair
      rw [commentText_slash]
      cases hfirst : after? marker (commentText rest) with
      | some body => rfl
      | none =>
        -- a pair that overlaps this one opens a comment with the same text
        have hnext : body? ('/' :: rest) = body? rest := by
          rw [ih, hfirst]
          split <;> rfl
        rw [hnext]
    · rfl

/-- `MarkedAfter line lead`: after `lead` the line has two slashes, and the comment that they open
begins with the marker. -/
def MarkedAfter (line lead : List Char) : Prop :=
  ∃ rest, line = lead ++ '/' :: '/' :: rest ∧ marker <+: commentText rest

/-- **Opening** of a directive: what stands in the line before the first two slashes whose comment
begins with the marker. -/
structure Opening (line lead : List Char) : Prop where
  /-- Two slashes and the marker follow. -/
  marked : MarkedAfter line lead
  /-- They do not follow earlier. -/
  first : ∀ lead', MarkedAfter line lead' → lead.length ≤ lead'.length

/-- There is at most one opening. -/
theorem Opening.unique {line lead lead' : List Char} (h : Opening line lead)
    (h' : Opening line lead') : lead = lead' := by
  obtain ⟨rest, hline, -⟩ := h.marked
  obtain ⟨rest', hline', -⟩ := h'.marked
  have hlength : lead.length = lead'.length :=
    Nat.le_antisymm (h.first lead' h'.marked) (h'.first lead h.marked)
  exact (List.append_inj (hline.symm.trans hline') hlength).1

theorem markedAfter_nil_iff (c : Char) (cs : List Char) :
    MarkedAfter (c :: cs) [] ↔
      (c = '/' ∧ cs.head? = some '/') ∧ ∃ body, after? marker (commentText cs) = some body := by
  unfold MarkedAfter
  constructor
  · rintro ⟨rest, heq, body, hbody⟩
    obtain ⟨rfl, rfl⟩ := List.cons.inj heq
    refine ⟨⟨rfl, rfl⟩, body, ?_⟩
    rw [commentText_slash, Text.after?_eq_some_iff, hbody]
  · rintro ⟨⟨rfl, hhead⟩, body, hbody⟩
    obtain ⟨rest, rfl⟩ := List.head?_eq_some_iff.mp hhead
    rw [commentText_slash, Text.after?_eq_some_iff] at hbody
    exact ⟨rest, rfl, body, hbody.symm⟩

theorem markedAfter_cons_iff (c l : Char) (cs lead : List Char) :
    MarkedAfter (c :: cs) (l :: lead) ↔ l = c ∧ MarkedAfter cs lead := by
  unfold MarkedAfter
  constructor
  · rintro ⟨rest, heq, hmarker⟩
    obtain ⟨rfl, rfl⟩ := List.cons.inj heq
    exact ⟨rfl, rest, rfl, hmarker⟩
  · rintro ⟨rfl, rest, rfl, hmarker⟩
    exact ⟨rest, rfl, hmarker⟩

/-- Where the front of a line opens no directive, the search goes on behind it. -/
theorem body?_cons_of_not_markedAfter {c : Char} {cs : List Char}
    (h : ¬ MarkedAfter (c :: cs) []) : body? (c :: cs) = body? cs := by
  rw [body?_cons]
  split
  · rename_i hpair
    cases hfound : after? marker (commentText cs) with
    | none => rfl
    | some found => exact absurd ((markedAfter_nil_iff c cs).mpr ⟨hpair, found, hfound⟩) h
  · rfl

/-- Where the front of a line opens no directive, the opening is the one of the rest. -/
theorem opening_cons_iff {c : Char} {cs : List Char} (h : ¬ MarkedAfter (c :: cs) [])
    (lead : List Char) :
    Opening (c :: cs) lead ↔ ∃ lead', lead = c :: lead' ∧ Opening cs lead' := by
  constructor
  · rintro ⟨hmarked, hfirst⟩
    cases lead with
    | nil => exact absurd hmarked h
    | cons l lead =>
      obtain ⟨rfl, hrest⟩ := (markedAfter_cons_iff c l cs lead).mp hmarked
      refine ⟨lead, rfl, hrest, fun lead' hmarked' => ?_⟩
      exact Nat.le_of_succ_le_succ
        (hfirst (l :: lead') ((markedAfter_cons_iff l l cs lead').mpr ⟨rfl, hmarked'⟩))
  · rintro ⟨lead, rfl, hmarked, hfirst⟩
    refine ⟨(markedAfter_cons_iff c c cs lead).mpr ⟨rfl, hmarked⟩, fun lead' hmarked' => ?_⟩
    cases lead' with
    | nil => exact absurd hmarked' h
    | cons l lead' =>
      obtain ⟨rfl, hrest⟩ := (markedAfter_cons_iff c l cs lead').mp hmarked'
      exact Nat.succ_le_succ (hfirst lead' hrest)

/-- **What is read as a directive** is what follows the marker in the comment at the opening. -/
theorem body?_eq_some_iff {line body : List Char} :
    body? line = some body ↔ ∃ lead rest, Opening line lead ∧
      line = lead ++ '/' :: '/' :: rest ∧ commentText rest = marker ++ body := by
  induction line with
  | nil =>
    refine iff_of_false nofun ?_
    rintro ⟨lead, rest, -, hline, -⟩
    simp at hline
  | cons c cs ih =>
    by_cases hfront : MarkedAfter (c :: cs) []
    · -- the line begins with the two slashes
      obtain ⟨hpair, found, hfound⟩ := (markedAfter_nil_iff c cs).mp hfront
      rw [body?_cons, if_pos hpair, hfound, Option.some_or, Option.some_inj]
      obtain ⟨rfl, hhead⟩ := hpair
      obtain ⟨rest, rfl⟩ := List.head?_eq_some_iff.mp hhead
      rw [commentText_slash, Text.after?_eq_some_iff] at hfound
      constructor
      · rintro rfl
        exact ⟨[], rest, ⟨hfront, fun _ _ => Nat.zero_le _⟩, rfl, hfound⟩
      · rintro ⟨lead, rest', hopening, hline, hbody⟩
        obtain rfl := List.eq_nil_of_length_eq_zero (Nat.le_zero.mp (hopening.first [] hfront))
        obtain ⟨-, heq⟩ := List.cons.inj hline
        obtain ⟨-, rfl⟩ := List.cons.inj heq
        exact List.append_cancel_left (hfound.symm.trans hbody)
    · rw [body?_cons_of_not_markedAfter hfront, ih]
      simp only [opening_cons_iff hfront]
      constructor
      · rintro ⟨lead, rest, hopening, rfl, hbody⟩
        exact ⟨c :: lead, rest, ⟨lead, rfl, hopening⟩, rfl, hbody⟩
      · rintro ⟨_, rest, ⟨lead, rfl, hopening⟩, hline, hbody⟩
        exact ⟨lead, rest, hopening, (List.cons.inj hline).2, hbody⟩

/-! ### What precedes a comment -/

theorem commentText_of_slashes {slashes : List Char} (h : ∀ c ∈ slashes, c = '/')
    (comment : List Char) : commentText (slashes ++ comment) = commentText comment := by
  unfold commentText
  rw [List.dropWhile_append_of_pos fun c hc => beq_iff_eq.mpr (h c hc)]

/-- The marker has no slash in it, so it cannot reach into the next comment: before a slash it is
either complete, or there is nothing but slashes. -/
theorem forall_eq_slash_of_marker {lead rest : List Char} (hlead : ¬ marker <:+: lead)
    (h : marker <+: commentText (lead ++ '/' :: rest)) : ∀ c ∈ lead, c = '/' := by
  by_contra hother
  let kept := lead.dropWhile (fun c => c == '/')
  have hkept : kept ≠ [] := by
    intro hnil
    exact hother fun c hc => beq_iff_eq.mp (List.dropWhile_eq_nil_iff.mp hnil c hc)
  -- neither the slashes nor the blanks in front reach beyond `lead`
  have htext : trimStart ((lead ++ '/' :: rest).dropWhile (fun c => c == '/'))
      = trimStart kept ++ '/' :: rest := by
    rw [List.dropWhile_append, if_neg fun h => hkept (List.isEmpty_iff.mp h)]
    exact Text.trimStart_append_cons rfl kept rest
  have hprefix : marker <+: trimStart kept ++ '/' :: rest := by
    rw [← htext]
    exact h.trans (Text.trimEnd_isPrefix _)
  have hmarker : marker <+: trimStart kept :=
    Text.isPrefix_of_isPrefix_append_cons (by decide) hprefix
  have hsuffix : trimStart kept <:+ lead :=
    (List.dropWhile_suffix _).trans (List.dropWhile_suffix _)
  exact hlead (hmarker.isInfix.trans hsuffix.isInfix)

/-- **What precedes a comment does not matter**, unless it has the marker itself. -/
theorem body?_append {lead rest body : List Char} (hlead : ¬ marker <:+: lead)
    (hbody : commentText rest = marker ++ body) :
    body? (lead ++ '/' :: '/' :: rest) = some body := by
  have hrest : after? marker (commentText rest) = some body := Text.after?_eq_some_iff.mpr hbody
  induction lead with
  | nil => rw [List.nil_append, body?_cons, if_pos ⟨rfl, rfl⟩, commentText_slash, hrest]; rfl
  | cons c lead ih =>
    have hlead' : ¬ marker <:+: lead := fun h => hlead (h.trans (List.suffix_cons c lead).isInfix)
    rw [List.cons_append, body?_cons, ih hlead']
    split
    · cases hfound : after? marker (commentText (lead ++ '/' :: '/' :: rest)) with
      | none => rfl
      | some found =>
        have hmarker : marker <+: commentText (lead ++ '/' :: '/' :: rest) :=
          ⟨found, (Text.after?_eq_some_iff.mp hfound).symm⟩
        -- the line began with more slashes, and this is the comment in question
        have hslashes := forall_eq_slash_of_marker hlead' hmarker
        rw [commentText_of_slashes hslashes, commentText_slash, commentText_slash, hrest] at hfound
        rw [← hfound]
        rfl
    · rfl

/-! ### Whole lines -/

/-- **Lines that carry a directive**: after the marker stand the verb, a list of names up to the
first closing parenthesis, and possibly a reason. -/
theorem parse?_eq_some_iff {line : List Char} {d : Directive} :
    parse? line = some d ↔ ∃ body names rest, body? line = some body ∧
      trimStart body = verb ++ (names ++ ')' :: rest) ∧ ')' ∉ names ∧
      d.rules = commaList names ∧ d.rules ≠ [] ∧ d.reason = reason? rest := by
  unfold parse?
  simp only [Option.bind_eq_bind, Option.bind_eq_some_iff, Prod.exists, Text.after?_eq_some_iff,
    Text.cutAt?_eq_some_iff]
  constructor
  · rintro ⟨body, hbody, inside, hinside, names, rest, ⟨rfl, hnames⟩, hd⟩
    split at hd
    · contradiction
    · rename_i hne
      obtain rfl := Option.some.inj hd
      exact ⟨body, names, rest, hbody, hinside, hnames, rfl, by simpa using hne, rfl⟩
  · rintro ⟨body, names, rest, hbody, hinside, hnames, hrules, hne, hreason⟩
    refine ⟨body, hbody, _, hinside, names, rest, ⟨rfl, hnames⟩, ?_⟩
    rw [← hrules, ← hreason, if_neg (by simpa using hne)]

theorem rules_ne_nil_of_parse? {line : List Char} {d : Directive} (h : parse? line = some d) :
    d.rules ≠ [] := by
  obtain ⟨_, _, _, _, _, _, _, hne, _⟩ := parse?_eq_some_iff.mp h
  exact hne

theorem exists_opening_of_parse? {line : List Char} {d : Directive} (h : parse? line = some d) :
    ∃ lead, Opening line lead := by
  obtain ⟨body, _, _, hbody, _⟩ := parse?_eq_some_iff.mp h
  obtain ⟨lead, _, hopening, _⟩ := body?_eq_some_iff.mp hbody
  exact ⟨lead, hopening⟩

/-! ### Writing and reading back -/

/-- **Writable directive**: it names some rules, the names could have been read from a list, and the
reason could have been read from between quotes. -/
structure Writable (d : Directive) : Prop where
  /-- There is a name. -/
  rules : d.rules ≠ []
  /-- Names are not empty, do not begin or end with blanks, and have no sign in them that ends a
  name. -/
  names : ∀ name ∈ d.rules, name ≠ [] ∧ trim name = name ∧ ',' ∉ name ∧ ')' ∉ name
  /-- The reason has no quote in it. -/
  reason : ∀ text ∈ d.reason, '"' ∉ text

/-- What is written after the list of names. -/
def reasonPart (reason : Option (List Char)) : List Char :=
  match reason with
  | some text => " reason=\"".toList ++ text ++ ['"']
  | none => []

/-- **Writing a directive** as a comment. -/
def render (d : Directive) : List Char :=
  "// treelint: allow(".toList ++ [',', ' '].intercalate d.rules ++ [')'] ++ reasonPart d.reason

theorem render_eq (d : Directive) :
    d.render = '/' :: '/' :: ' ' :: (marker ++ (' ' :: (verb ++
      ([',', ' '].intercalate d.rules ++ ')' :: reasonPart d.reason)))) := by
  have hstart : "// treelint: allow(".toList = '/' :: '/' :: ' ' :: (marker ++ ' ' :: verb) := rfl
  unfold render
  rw [hstart]
  simp only [List.cons_append, List.append_assoc, List.nil_append]

theorem reasonPart_some (text : List Char) :
    reasonPart (some text) = ' ' :: (reasonMark ++ '"' :: (text ++ ['"'])) := by
  have hstart : " reason=\"".toList = ' ' :: (reasonMark ++ ['"']) := rfl
  unfold reasonPart
  dsimp only
  rw [hstart]
  simp only [List.cons_append, List.append_assoc, List.nil_append]

/-- A quoted reason is read back. -/
theorem reason?_reasonPart {reason : Option (List Char)} (h : ∀ text ∈ reason, '"' ∉ text) :
    reason? (reasonPart reason) = reason := by
  cases reason with
  | none => rfl
  | some text =>
    -- the quotes at both ends keep the blanks of the reason
    have houter : trim (reasonPart (some text)) = reasonMark ++ '"' :: (text ++ ['"']) := by
      rw [reasonPart_some, Text.trim_cons_of_blank rfl]
      exact Text.trim_eq_self rfl (show _ = (reasonMark ++ '"' :: text) ++ ['"'] by simp) rfl rfl
    have hinner : trim ('"' :: (text ++ ['"'])) = '"' :: (text ++ ['"']) :=
      Text.trim_eq_self rfl (show _ = ('"' :: text) ++ ['"'] from rfl) rfl rfl
    have hquoted : after? ['"'] ('"' :: (text ++ ['"'])) = some (text ++ ['"']) :=
      Text.after?_append ['"'] _
    have hcut : Text.cutAt? '"' (text ++ ['"']) = some (text, []) :=
      Text.cutAt?_eq_some_iff.mpr ⟨rfl, h text rfl⟩
    unfold reason?
    rw [houter, Text.after?_append]
    simp only [Option.bind_eq_bind, Option.bind_some, hinner, hquoted, hcut]

/-- What is written ends with a sign that is not blank. -/
theorem exists_last_render (d : Directive) :
    ∃ front last, [',', ' '].intercalate d.rules ++ ')' :: reasonPart d.reason = front ++ [last] ∧
      isBlank last = false := by
  cases d.reason with
  | none => exact ⟨[',', ' '].intercalate d.rules, ')', rfl, rfl⟩
  | some text =>
    refine ⟨[',', ' '].intercalate d.rules ++ ')' :: ' ' :: (reasonMark ++ '"' :: text), '"', ?_,
      rfl⟩
    rw [reasonPart_some]
    simp only [List.append_assoc, List.cons_append]

/-- **A written directive is read back** from the end of any line that does not have the marker
before it. -/
theorem parse?_append_render {d : Directive} (hd : d.Writable) {lead : List Char}
    (hlead : ¬ marker <:+: lead) : parse? (lead ++ d.render) = some d := by
  let inside := [',', ' '].intercalate d.rules ++ ')' :: reasonPart d.reason
  have hcomment : commentText (' ' :: (marker ++ (' ' :: (verb ++ inside))))
      = marker ++ (' ' :: (verb ++ inside)) := by
    obtain ⟨front, last, hlast, hblank⟩ := exists_last_render d
    have hend : marker ++ (' ' :: (verb ++ inside))
        = (marker ++ (' ' :: (verb ++ front))) ++ [last] := by
      have hinside : inside = front ++ [last] := hlast
      rw [hinside]
      simp only [List.append_assoc, List.cons_append]
    unfold commentText
    rw [List.dropWhile_cons_of_neg (by decide), Text.trim_cons_of_blank rfl]
    exact Text.trim_eq_self rfl hend rfl hblank
  have hbody : body? (lead ++ d.render) = some (' ' :: (verb ++ inside)) := by
    rw [render_eq]
    exact body?_append hlead hcomment
  have hstart : trimStart (' ' :: (verb ++ inside)) = verb ++ inside := by
    rw [Text.trimStart_cons_of_blank rfl]
    exact Text.trimStart_eq_self fun c hc => Option.some.inj hc ▸ rfl
  have hparenthesis : ')' ∉ [',', ' '].intercalate d.rules :=
    Text.not_mem_intercalate (by decide) fun name hname => (hd.names name hname).2.2.2
  have hnames : d.rules = commaList ([',', ' '].intercalate d.rules) :=
    (Text.commaList_intercalate fun name hname =>
      ⟨(hd.names name hname).1, (hd.names name hname).2.1, (hd.names name hname).2.2.1⟩).symm
  exact parse?_eq_some_iff.mpr ⟨_, _, _, hbody, hstart, hparenthesis, hnames, hd.rules,
    (reason?_reasonPart hd.reason).symm⟩

theorem covers_iff (d : Directive) (rule : List Char) :
    d.covers rule = true ↔ rule ∈ d.rules ∨ "all".toList ∈ d.rules := by
  have hall : "all".toList = ['a', 'l', 'l'] := rfl
  rw [covers, List.any_eq_true, hall]
  constructor
  · rintro ⟨name, hname, hcovers⟩
    rcases (Bool.or_eq_true _ _).mp hcovers with heq | heq
    · exact Or.inl (beq_iff_eq.mp heq ▸ hname)
    · exact Or.inr (beq_iff_eq.mp heq ▸ hname)
  · rintro (hname | hname)
    · exact ⟨rule, hname, by simp⟩
    · exact ⟨_, hname, by simp⟩

end Directive

/-! ### Looking up a line -/

namespace Allowance

variable {content : String} {line : Nat} {rule : String} {d : Directive}

theorem onLine?_eq_some_iff {lines : List String} {index : Nat} :
    onLine? lines (index + 1) rule = some d ↔
      ∃ text, lines[index]? = some text ∧ Directive.parse? text.toList = some d ∧
        d.covers rule.toList = true := by
  unfold onLine?
  simp only [Option.bind_eq_bind, Option.bind_eq_some_iff, Option.ite_none_right_eq_some,
    Option.some.injEq]
  constructor
  · rintro ⟨text, htext, d', hparse, hcovers, rfl⟩
    exact ⟨text, htext, hparse, hcovers⟩
  · rintro ⟨text, htext, hparse, hcovers⟩
    exact ⟨text, htext, d, hparse, hcovers, rfl⟩

/-- A directive on the line above decides. -/
theorem check_of_above (h : onLine? (Text.lines content) line rule = some d) :
    check content (line + 1) rule = .allowed (d.reason.map String.ofList) := by
  unfold check
  dsimp only
  rw [Nat.add_sub_cancel, h]
  rfl

/-- Without one, a directive on the line itself decides. -/
theorem check_of_own (habove : onLine? (Text.lines content) (line - 1) rule = none)
    (h : onLine? (Text.lines content) line rule = some d) :
    check content line rule = .allowed (d.reason.map String.ofList) := by
  unfold check
  dsimp only
  rw [habove, h]
  rfl

theorem check_eq_denied (habove : onLine? (Text.lines content) (line - 1) rule = none)
    (h : onLine? (Text.lines content) line rule = none) : check content line rule = .denied := by
  unfold check
  dsimp only
  rw [habove, h]
  rfl

/-- **Writing a directive allows what it names**.  At the end of a line, after any text without the
marker, it is read back as it was.  So wherever this line stands in a file, it allows every rule
that it names, or any rule if it names `all`, for the reason that it gives: on the next line in any
case, and on its own line unless the line above has a directive on the same rule. -/
theorem check_rendered (hd : d.Writable) {lead : List Char}
    (hlead : ¬ Directive.marker <:+: lead) :
    Directive.parse? (lead ++ d.render) = some d ∧
      ∀ (content : String) (index : Nat),
        (Text.lines content)[index]? = some (String.ofList (lead ++ d.render)) →
        ∀ rule : String, rule.toList ∈ d.rules ∨ "all".toList ∈ d.rules →
          check content (index + 2) rule = .allowed (d.reason.map String.ofList) ∧
          (onLine? (Text.lines content) index rule = none →
            check content (index + 1) rule = .allowed (d.reason.map String.ofList)) := by
  have hparse := Directive.parse?_append_render hd hlead
  refine ⟨hparse, fun content index hline rule hrule => ?_⟩
  have hon : onLine? (Text.lines content) (index + 1) rule = some d := by
    refine onLine?_eq_some_iff.mpr ⟨_, hline, ?_, (d.covers_iff rule.toList).mpr hrule⟩
    rw [String.toList_ofList, hparse]
  exact ⟨check_of_above hon, fun habove => check_of_own habove hon⟩

/-- A directive on the second of three lines, after an address and a slash.  The reason has signs in
it that would end a list of names. -/
theorem check_rendered_afterAddress :
    let d : Directive :=
      { rules := ["some rule".toList, "other".toList], reason := some " (1) //treelint:".toList }
    let lead := "'http://x'; /".toList
    let content := "f();\n" ++ String.ofList (lead ++ d.render) ++ "\ng();"
    let reason := some " (1) //treelint:"
    d.Writable ∧ ¬ Directive.marker <:+: lead ∧
      (Text.lines content)[1]? = some (String.ofList (lead ++ d.render)) ∧
      onLine? (Text.lines content) 1 "other" = none ∧
      Directive.parse? (lead ++ d.render) = some d ∧
      check content 3 "other" = .allowed reason ∧
      check content 2 "other" = .allowed reason := by
  intro d lead content reason
  have hd : d.Writable := ⟨by decide, by decide +kernel, by decide +kernel⟩
  have hlead : ¬ Directive.marker <:+: lead := by decide +kernel
  have hline : (Text.lines content)[1]? = some (String.ofList (lead ++ d.render)) := by
    decide +kernel
  have habove : onLine? (Text.lines content) 1 "other" = none := by decide +kernel
  obtain ⟨hparse, hallows⟩ := check_rendered hd hlead
  obtain ⟨hnext, hown⟩ := hallows content 1 hline "other" (Or.inl (by decide +kernel))
  exact ⟨hd, hlead, hline, habove, hparse, hnext, hown habove⟩

end Allowance

end SuiteLint
