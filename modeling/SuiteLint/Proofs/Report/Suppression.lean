import SuiteLint.Proofs.Report.Reason
import SuiteLint.Proofs.Rule.Loosening

/-!
# What suppresses findings

Directives are meant for comments, but they are looked for in the text of a line, and the tree is
not asked.  So a tree without comments does not mean that nothing is suppressed: the text of a
string, a template or a regular expression can pass for a directive as well.

An allowance is owed to one directive, which stands somewhere in the text (`AllowedBy`).
`suppression_iff` says when suppression comes from comments only: in any file, wherever a rule is
allowed the directive behind it is in a comment, iff no directive stands outside of comments.
Nothing at all is suppressed iff no line carries a directive.
-/

namespace SuiteLint

open SuiteLint.Tree (Node SyntaxTree)
open SuiteLint.Allowance (Speaks)

/-! ### Comments of a tree -/

namespace Tree.Node

mutual

/-- **All nodes** of a tree, tokens and comments included, each before what is below it. -/
def nodes : Node → List Node
  | ⟨label, start, stop, named, field, text, children⟩ =>
    ⟨label, start, stop, named, field, text, children⟩ :: nodesBelow children

/-- The nodes of the trees of a list. -/
def nodesBelow : List Node → List Node
  | [] => []
  | child :: rest => child.nodes ++ nodesBelow rest

end

/-- **Comment-free tree**: none of its nodes is a comment. -/
def CommentFree (root : Node) : Prop :=
  ∀ node ∈ root.nodes, node.kind ≠ .comment

/-- `root.InComment offset`: a comment of the tree covers the byte at `offset`. -/
def InComment (root : Node) (offset : Nat) : Prop :=
  ∃ node ∈ root.nodes, node.kind = .comment ∧ node.start ≤ offset ∧ offset < node.stop

instance (root : Node) : Decidable root.CommentFree :=
  inferInstanceAs (Decidable (∀ node ∈ root.nodes, node.kind ≠ .comment))

theorem CommentFree.not_inComment {root : Node} (h : root.CommentFree) (offset : Nat) :
    ¬ root.InComment offset :=
  fun ⟨node, hnode, hkind, _⟩ => h node hnode hkind

end Tree.Node

/-! ### Directives of a text -/

/-- The byte offset at which a line begins: the lines before it and their line feeds. -/
def Text.lineOffset (cs : List Char) (index : Nat) : Nat :=
  byteLength (((cs.splitOn '\n').take index).flatMap fun piece => piece ++ ['\n'])

/-- The two slashes that open a directive are within its line. -/
theorem Directive.Opening.add_two_le_byteLength {line lead : List Char} (h : Opening line lead) :
    Text.byteLength lead + 2 ≤ Text.byteLength line := by
  obtain ⟨rest, rfl, -⟩ := h.marked
  have hrest := Text.length_le_byteLength ('/' :: '/' :: rest)
  rw [List.length_cons, List.length_cons] at hrest
  rw [Text.byteLength_append]
  omega

/-- `DirectiveOn content line offset`: the line with this number, counted from one, carries a
directive, and the two slashes that open it stand at that byte of the text. -/
def DirectiveOn (content : String) (line offset : Nat) : Prop :=
  ∃ index text lead, line = index + 1 ∧ (Text.lines content)[index]? = some text ∧
    (Directive.parse? text.toList).isSome = true ∧ Directive.Opening text.toList lead ∧
    offset = Text.lineOffset content.toList index + Text.byteLength lead

/-- **Directive at an offset**: some line carries a directive that begins at that byte. -/
def DirectiveAt (content : String) (offset : Nat) : Prop :=
  ∃ line, DirectiveOn content line offset

/-- **What an allowance is owed to**: the directive at this offset.  It is the one on the line above
that speaks about the rule, or else the one on the line itself. -/
inductive AllowedBy (content : String) (line : Nat) (rule : String) (offset : Nat) : Prop where
  | above {d : Directive} (speaks : Speaks content (line - 1) rule d)
      (stands : DirectiveOn content (line - 1) offset) : AllowedBy content line rule offset
  | own {d : Directive} (silent : ∀ d', ¬ Speaks content (line - 1) rule d')
      (speaks : Speaks content line rule d) (stands : DirectiveOn content line offset) :
      AllowedBy content line rule offset

section

variable {content rule : String} {line offset : Nat} {d : Directive}

theorem DirectiveOn.unique {offset' : Nat} (h : DirectiveOn content line offset)
    (h' : DirectiveOn content line offset') : offset = offset' := by
  obtain ⟨index, text, lead, rfl, htext, -, hopening, rfl⟩ := h
  obtain ⟨index', text', lead', hindex, htext', -, hopening', rfl⟩ := h'
  obtain rfl := Nat.succ.inj hindex
  obtain rfl := Option.some.inj (htext.symm.trans htext')
  rw [hopening.unique hopening']

/-- A directive that speaks about a rule stands somewhere. -/
theorem exists_directiveOn_of_speaks (h : Speaks content line rule d) :
    ∃ offset, DirectiveOn content line offset := by
  obtain ⟨index, text, rfl, htext, hparse, -⟩ := h
  obtain ⟨lead, hopening⟩ := Directive.exists_opening_of_parse? hparse
  exact ⟨_, index, text, lead, rfl, htext, Option.isSome_iff_exists.mpr ⟨d, hparse⟩, hopening, rfl⟩

/-- Every directive speaks about some rule, since it names at least one. -/
theorem exists_speaks_of_parse? {index : Nat} {text : String}
    (htext : (Text.lines content)[index]? = some text)
    (hparse : Directive.parse? text.toList = some d) :
    ∃ rule, Speaks content (index + 1) rule d := by
  obtain ⟨name, hname⟩ := List.exists_mem_of_ne_nil _ (Directive.rules_ne_nil_of_parse? hparse)
  refine ⟨String.ofList name, index, text, rfl, htext, hparse, Or.inl ?_⟩
  rwa [String.toList_ofList]

theorem DirectiveOn.exists_speaks (h : DirectiveOn content line offset) :
    ∃ rule d, Speaks content line rule d := by
  obtain ⟨index, text, lead, rfl, htext, hparse, -⟩ := h
  obtain ⟨d, hd⟩ := Option.isSome_iff_exists.mp hparse
  obtain ⟨rule, hrule⟩ := exists_speaks_of_parse? htext hd
  exact ⟨rule, d, hrule⟩

/-- No directive stands anywhere iff no line can be read as one. -/
theorem forall_not_directiveAt_iff :
    (∀ offset, ¬ DirectiveAt content offset) ↔
      ∀ text ∈ Text.lines content, Directive.parse? text.toList = none := by
  constructor
  · intro h text htext
    by_contra hparse
    obtain ⟨d, hd⟩ := Option.ne_none_iff_exists'.mp hparse
    obtain ⟨index, hindex⟩ := List.mem_iff_getElem?.mp htext
    obtain ⟨rule, hrule⟩ := exists_speaks_of_parse? hindex hd
    obtain ⟨offset, hon⟩ := exists_directiveOn_of_speaks hrule
    exact h offset ⟨_, hon⟩
  · rintro h offset ⟨_, index, text, lead, rfl, htext, hparse, -⟩
    rw [h text (List.mem_of_getElem? htext)] at hparse
    contradiction

/-! ### Allowances -/

theorem AllowedBy.directiveAt (h : AllowedBy content line rule offset) :
    DirectiveAt content offset := by
  cases h with
  | above _ stands => exact ⟨_, stands⟩
  | own _ _ stands => exact ⟨_, stands⟩

/-- **An allowance is owed to one directive**. -/
theorem AllowedBy.unique {offset' : Nat} (h : AllowedBy content line rule offset)
    (h' : AllowedBy content line rule offset') : offset = offset' := by
  cases h with
  | above speaks stands =>
    cases h' with
    | above _ stands' => exact stands.unique stands'
    | own silent => exact absurd speaks (silent _)
  | own silent _ stands =>
    cases h' with
    | above speaks => exact absurd speaks (silent _)
    | own _ _ stands' => exact stands.unique stands'

/-- **What is allowed** is what some directive allows. -/
theorem Allowance.check_ne_denied_iff :
    check content line rule ≠ .denied ↔ ∃ offset, AllowedBy content line rule offset := by
  by_cases habove : ∃ d, Speaks content (line - 1) rule d
  · obtain ⟨d, hd⟩ := habove
    obtain ⟨offset, hon⟩ := exists_directiveOn_of_speaks hd
    rw [check_of_speaks_above hd]
    exact iff_of_true nofun ⟨offset, .above hd hon⟩
  have hsilent := not_exists.mp habove
  by_cases hown : ∃ d, Speaks content line rule d
  · obtain ⟨d, hd⟩ := hown
    obtain ⟨offset, hon⟩ := exists_directiveOn_of_speaks hd
    rw [check_of_speaks_own hsilent hd]
    exact iff_of_true nofun ⟨offset, .own hsilent hd hon⟩
  · have hdenied := check_of_silent hsilent (not_exists.mp hown)
    refine iff_of_false (fun hallowed => hallowed hdenied) ?_
    rintro ⟨offset, hspeaks | ⟨-, hspeaks, -⟩⟩
    · exact hsilent _ hspeaks
    · exact hown ⟨_, hspeaks⟩

/-- Every directive allows something: the rules that it names, on the next line. -/
theorem DirectiveAt.exists_allowedBy (h : DirectiveAt content offset) :
    ∃ line rule, AllowedBy content line rule offset := by
  obtain ⟨line, hon⟩ := h
  obtain ⟨rule, d, hspeaks⟩ := hon.exists_speaks
  exact ⟨line + 1, rule, .above hspeaks hon⟩

end

/-! ### Suppression -/

/-- **Suppression by comments**: wherever a rule is allowed, the directive that allows it stands in
a comment of the tree. -/
def SuppressedByComments (tree : SyntaxTree) : Prop :=
  ∀ line rule, Allowance.check tree.source line rule ≠ .denied →
    ∃ offset, AllowedBy tree.source line rule offset ∧ tree.root.InComment offset

/-- **Unsuppressed text**: no rule is allowed on any line, and every report yields its diagnostic,
with the severity and the message it was made with. -/
structure Unsuppressed (content : String) : Prop where
  /-- No rule is allowed anywhere. -/
  denied : ∀ line rule, Allowance.check content line rule = .denied
  /-- Every report yields its diagnostic. -/
  reported : ∀ r : Reporter, r.file.content = content → ∀ (node : Node) (message : String),
    (r.reportMessage node message).diagnostics = r.diagnostics ++
      [{ code := r.code, rule := r.rule, severity := r.severity
         location := r.file.locate node.start node.width
         message := message, suggestion := r.suggestion }]

theorem suppressedByComments_iff (tree : SyntaxTree) :
    SuppressedByComments tree ↔
      ∀ offset, DirectiveAt tree.source offset → tree.root.InComment offset := by
  constructor
  · intro h offset hat
    obtain ⟨line, rule, hby⟩ := hat.exists_allowedBy
    have hallowed := Allowance.check_ne_denied_iff.mpr ⟨offset, hby⟩
    obtain ⟨offset', hby', hcomment⟩ := h line rule hallowed
    rwa [hby.unique hby']
  · intro h line rule hallowed
    obtain ⟨offset, hby⟩ := Allowance.check_ne_denied_iff.mp hallowed
    exact ⟨offset, hby, h offset hby.directiveAt⟩

theorem outcome_of_denied {r : Reporter}
    (h : ∀ line, Allowance.check r.file.content line r.rule = .denied) (node : Node)
    (message : String) :
    r.outcome node message =
      [{ code := r.code, rule := r.rule, severity := r.severity
         location := r.file.locate node.start node.width
         message := message, suggestion := r.suggestion }] := by
  unfold Reporter.outcome
  dsimp only
  rw [h]

theorem unsuppressed_iff (content : String) :
    Unsuppressed content ↔ ∀ offset, ¬ DirectiveAt content offset := by
  constructor
  · intro h offset hat
    obtain ⟨line, rule, hby⟩ := hat.exists_allowedBy
    exact Allowance.check_ne_denied_iff.mpr ⟨offset, hby⟩ (h.denied line rule)
  · intro h
    have hdenied : ∀ line rule, Allowance.check content line rule = .denied := by
      intro line rule
      by_contra hallowed
      obtain ⟨offset, hby⟩ := Allowance.check_ne_denied_iff.mp hallowed
      exact h offset hby.directiveAt
    refine ⟨hdenied, ?_⟩
    rintro r rfl node message
    rw [Reporter.reportMessage, outcome_of_denied fun line => hdenied line r.rule]

/-- **When suppression comes from comments only**, for any file.  Whatever is allowed is allowed by
a directive in a comment iff no directive stands outside of comments, such as in a string, a
template or a regular expression.  Nothing is suppressed iff no line carries a directive, wherever
it stands.  In a file without comments the two come to the same. -/
theorem suppression_iff (tree : SyntaxTree) :
    (SuppressedByComments tree ↔
        ∀ offset, DirectiveAt tree.source offset → tree.root.InComment offset) ∧
      (Unsuppressed tree.source ↔
        ∀ text ∈ Text.lines tree.source, Directive.parse? text.toList = none) ∧
      (tree.root.CommentFree → (SuppressedByComments tree ↔ Unsuppressed tree.source)) := by
  refine ⟨suppressedByComments_iff tree, ?_, fun hfree => ?_⟩
  · rw [unsuppressed_iff, forall_not_directiveAt_iff]
  · rw [suppressedByComments_iff, unsuppressed_iff]
    exact forall_congr' fun offset => imp_congr_right fun _ =>
      iff_of_false (hfree.not_inComment offset) id

/-! ### A directive in a string -/

open SideEffectCode (construct callStatement)

/-- The suite `describe('title', () => {...})` with a call `setup()` on the second line. -/
def suiteTitled (title : String) : SyntaxTree :=
  let size := title.utf8ByteSize
  let body := "\x7b\n    setup();\n\x7d"
  let callback := "() => " ++ body
  let call := "describe('" ++ title ++ "', " ++ callback ++ ")"
  { source := call ++ ";\n", hasErrors := false, dialect := .typescript
    root := construct "program" none 0 (call ++ ";\n")
      [construct "expression_statement" none 0 (call ++ ";")
        [construct "call_expression" none 0 call
          [construct "identifier" (some "function") 0 "describe" [],
           construct "arguments" (some "arguments") 8 ("('" ++ title ++ "', " ++ callback ++ ")")
            [construct "string" none 9 ("'" ++ title ++ "'")
              [construct "string_fragment" none 10 title []],
             construct "arrow_function" none (size + 13) callback
              [construct "formal_parameters" (some "parameters") (size + 13) "()" [],
               construct "statement_block" (some "body") (size + 19) body
                [callStatement (size + 25) "setup"]]]]]] }

/-- The call `load()`, with a directive in the comment above it. -/
def commentedCall : SyntaxTree :=
  let comment := "// treelint: allow(all)"
  let source := comment ++ "\nload();\n"
  { source := source, hasErrors := false, dialect := .typescript
    root := construct "program" none 0 source
      [construct "comment" none 0 comment [], callStatement 24 "load"] }

/-- A comment that suppresses is the only directive of its file.  An address in the title of a suite
has two slashes too, but no directive after them. -/
theorem suppression_iff_commentOrAddress :
    let address := suiteTitled "http://localhost // treelint"
    (SuppressedByComments commentedCall ∧ ¬ Unsuppressed commentedCall.source) ∧
      address.root.CommentFree ∧ SuppressedByComments address ∧ Unsuppressed address.source := by
  intro address
  obtain ⟨hcomments, hnothing, -⟩ := suppression_iff commentedCall
  obtain ⟨-, hplain, hsame⟩ := suppression_iff address
  have hfirst : (Text.lines commentedCall.source)[0]? = some "// treelint: allow(all)" := by
    decide +kernel
  have hothers : ∀ text ∈ (Text.lines commentedCall.source).drop 1,
      Directive.parse? text.toList = none := by decide +kernel
  have hfree : address.root.CommentFree := by decide +kernel
  have hunsuppressed : Unsuppressed address.source := hplain.mpr (by decide +kernel)
  refine ⟨⟨hcomments.mpr ?_, fun h => ?_⟩, hfree, (hsame hfree).mpr hunsuppressed, hunsuppressed⟩
  · rintro offset ⟨_, index, text, lead, rfl, htext, hparse, hopening, rfl⟩
    cases index with
    | zero =>
      -- the first line is the comment, so its directive cannot begin outside of it
      obtain rfl := Option.some.inj (hfirst.symm.trans htext)
      have hinside := hopening.add_two_le_byteLength
      have hbytes : Text.byteLength "// treelint: allow(all)".toList = 23 := by decide +kernel
      have hstart : Text.lineOffset commentedCall.source.toList 0 = 0 := rfl
      refine ⟨construct "comment" none 0 "// treelint: allow(all)" [], ?_, rfl, Nat.zero_le _, ?_⟩
      · exact List.mem_cons_of_mem _ List.mem_cons_self
      · show Text.lineOffset _ 0 + Text.byteLength lead < 23
        omega
    | succ index =>
      have hmem : text ∈ (Text.lines commentedCall.source).drop 1 :=
        List.mem_of_getElem? (by rw [List.getElem?_drop, Nat.add_comm]; exact htext)
      rw [hothers text hmem] at hparse
      contradiction
  · have hnone := hnothing.mp h _ (List.mem_of_getElem? hfirst)
    revert hnone
    decide +kernel

/-- **A string that suppresses**: in the title of a suite the text of a directive allows the finding
on the second line, which is reported under any other title.  There is no comment in the tree. -/
theorem quotedDirective_suppresses :
    let tree := suiteTitled "// treelint: allow(all) reason=\"r\""
    let file : SourceFile := { shown := ⟨"suite.test.ts"⟩, content := tree.source }
    let other := suiteTitled "suite"
    tree.root.CommentFree ∧
      Allowance.check tree.source 2 "no-side-effect-code" = .allowed (some "r") ∧
      SideEffectCode.apply {} file tree = [] ∧
      (SideEffectCode.apply {} { file with content := other.source } other).map
        (fun d => (d.severity, d.location.line)) = [(.error, 2)] := by
  decide +kernel

end SuiteLint
