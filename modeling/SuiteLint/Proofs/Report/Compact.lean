import SuiteLint.Proofs.Rule.Located
import SuiteLint.Proofs.Rule.SourceOrder
import SuiteLint.Proofs.Text.Fragment
import SuiteLint.Proofs.Text.Lines
import SuiteLint.Report.Output

/-!
# One line per diagnostic

The compact form of a result has a line for each diagnostic, provided that no diagnostic brings a
line feed of its own.  Messages quote source text, which may well have line feeds in it, but they
quote it as a fragment, and a fragment has no blanks but single spaces.

`quotations_on_one_line` states the laws of fragments and this consequence of them: read line by
line, the compact form of findings of the rule on side-effect code is the list of their one-line
forms.
-/

namespace SuiteLint

open SuiteLint.Text (SingleSpaced isBlank fragment fragmentOf words)

/-! ### One-line forms -/

/-- **Plain message**: there is one, and it has no blanks but spaces. -/
def PlainMessage (message : String) : Prop :=
  message ≠ "" ∧ ∀ c ∈ message.toList, isBlank c = true → c = ' '

theorem PlainMessage.not_mem {message : String} (h : PlainMessage message) {c : Char}
    (hblank : isBlank c = true) (hspace : c ≠ ' ') : c ∉ message.toList :=
  fun hc => hspace (h.2 c hc hblank)

theorem plainMessage_of_all {message : String} (hne : message ≠ "")
    (h : message.toList.all (fun c => !isBlank c || c == ' ') = true) : PlainMessage message := by
  refine ⟨hne, fun c hc hblank => ?_⟩
  simpa [hblank] using List.all_eq_true.mp h c hc

theorem newline_not_mem_toDigits (n : Nat) : '\n' ∉ Nat.toDigits 10 n := by
  intro h
  have hdigit := Nat.isDigit_of_mem_toDigits (by decide) (by decide) h
  exact absurd hdigit (by decide)

namespace Diagnostic

variable {d : Diagnostic}

theorem newline_not_mem_oneLine (hfile : '\n' ∉ d.location.file.text.toList)
    (hcode : '\n' ∉ d.code.toList) (hmessage : '\n' ∉ d.message.toList) :
    '\n' ∉ d.oneLine.toList := by
  have hplace : '\n' ∉ d.place.toList := by
    simp [place, hfile, newline_not_mem_toDigits]
  have hseverity : '\n' ∉ d.severity.name.toList := by
    cases d.severity <;> decide
  simp [oneLine, hplace, hseverity, hcode, hmessage]

theorem getLast?_oneLine (h : d.message ≠ "") :
    d.oneLine.toList.getLast? = d.message.toList.getLast? := by
  have hne : d.message.toList ≠ [] := by simpa using h
  rw [oneLine, String.toList_append, List.getLast?_append_of_ne_nil _ hne]

end Diagnostic

/-! ### Findings of the rule on side-effect code -/

namespace SideEffectCode

/-- `Finds d`: the diagnostic is one that the rule reports somewhere, under some settings; a
configuration may have given it another severity. -/
def Finds (d : Diagnostic) : Prop :=
  ∃ settings file tree found, found ∈ apply settings file tree ∧
    d = { found with severity := d.severity }

/-- A text that begins with a plain one and goes on single-spaced is plain. -/
theorem plainMessage_append {introduction quoted : String} (h : PlainMessage introduction)
    (hquoted : SingleSpaced quoted.toList) : PlainMessage (introduction ++ quoted) := by
  refine ⟨fun hempty => h.1 (String.append_eq_empty_iff.mp hempty).1, fun c hc hblank => ?_⟩
  rw [String.toList_append, List.mem_append] at hc
  rcases hc with hc | hc
  · exact h.2 c hc hblank
  · exact hquoted.space c hc hblank

theorem plainMessage_of_mem_finding {file : SourceFile} {node : Tree.Node} {d : Diagnostic}
    (h : d ∈ finding file node) : d.code = "TL001" ∧ PlainMessage d.message := by
  unfold finding at h
  dsimp only at h
  split at h
  · obtain rfl := List.mem_singleton.mp h
    have hintroduction : PlainMessage
        "Do not initialize variables in a test suite body; use a lifecycle hook instead: " :=
      plainMessage_of_all (by decide) (by decide +kernel)
    have hquoted : SingleSpaced (fragment node.text 30).toList := by
      rw [fragment, String.toList_ofList]
      exact Text.singleSpaced_fragmentOf 30 _
    exact ⟨rfl, plainMessage_append hintroduction hquoted⟩
  · obtain rfl := List.mem_singleton.mp h
    have hmissing : PlainMessage
        "Allow directive for 'no-side-effect-code' is missing required reason" :=
      plainMessage_of_all (by decide) (by decide +kernel)
    exact ⟨rfl, hmissing⟩
  · exact absurd h List.not_mem_nil

theorem plainMessage_of_finds {d : Diagnostic} (h : Finds d) :
    d.code = "TL001" ∧ PlainMessage d.message := by
  obtain ⟨settings, file, tree, found, hfound, hd⟩ := h
  rw [apply_eq_flatMap_triggers] at hfound
  obtain ⟨node, -, hmem⟩ := List.mem_flatMap.mp hfound
  obtain ⟨hcode, hmessage⟩ := plainMessage_of_mem_finding hmem
  rw [hd]
  exact ⟨hcode, hmessage⟩

end SideEffectCode

open SideEffectCode (Finds)

/-- **The compact form** of findings of the rule has exactly one line per diagnostic. -/
theorem lines_print_compact {result : LintResult} (disk : Disk) (root : Path)
    (h : ∀ d ∈ result.diagnostics, Finds d ∧ '\n' ∉ d.location.file.text.toList) :
    Text.lines (result.print .compact disk root) = result.diagnostics.map Diagnostic.oneLine := by
  have hprint : result.print .compact disk root
      = String.join ((result.diagnostics.map Diagnostic.oneLine).map
          (fun line => line ++ "\n")) := by
    rw [List.map_map]
    rfl
  rw [hprint]
  refine Text.lines_join_newline (List.forall_mem_map.mpr fun d hd => ?_)
  obtain ⟨hfinds, hfile⟩ := h d hd
  obtain ⟨hcode, hmessage⟩ := SideEffectCode.plainMessage_of_finds hfinds
  have hcode' : '\n' ∉ d.code.toList := by rw [hcode]; decide
  refine ⟨Diagnostic.newline_not_mem_oneLine hfile hcode' (hmessage.not_mem rfl (by decide)), ?_⟩
  -- the line ends as its message does, and a carriage return is a blank
  rw [Diagnostic.getLast?_oneLine hmessage.1]
  exact fun hlast => hmessage.not_mem rfl (by decide) (List.mem_of_getLast? hlast)

/-- **Quotations stay on one line**.  A fragment depends on the words of the text only, is
single-spaced, and is these words with single spaces between them, as far as the limit allows and
with three dots where it does not; to take it again changes nothing.  So a message with a one-line
introduction and a fragment is one line, and the compact form of the findings of the rule on
side-effect code has one line per diagnostic, if the paths in it are one line each. -/
theorem quotations_on_one_line :
    (∀ (text : String) (limit : Nat),
      let quoted := fragment text limit
      let joined := [' '].intercalate (words text.toList)
      (∀ other : String, words other.toList = words text.toList →
          fragment other limit = quoted) ∧
        SingleSpaced quoted.toList ∧
        (joined.length ≤ limit → quoted.toList = joined) ∧
        (limit < joined.length → quoted.toList = joined.take limit ++ "...".toList) ∧
        quoted.length ≤ limit + 3 ∧
        fragment quoted limit = quoted ∧
        ∀ introduction : String, '\n' ∉ introduction.toList →
          '\n' ∉ (introduction ++ quoted).toList) ∧
      ∀ (result : LintResult) (disk : Disk) (root : Path),
        (∀ d ∈ result.diagnostics, Finds d ∧ '\n' ∉ d.location.file.text.toList) →
        Text.lines (result.print .compact disk root)
          = result.diagnostics.map Diagnostic.oneLine := by
  refine ⟨fun text limit => ?_, fun result disk root h => lines_print_compact disk root h⟩
  intro quoted joined
  have hquoted : quoted.toList = fragmentOf limit text.toList := String.toList_ofList
  have hspaced : SingleSpaced quoted.toList := by
    rw [hquoted]
    exact Text.singleSpaced_fragmentOf limit _
  refine ⟨fun other hwords => ?_, hspaced, fun h => ?_, fun h => ?_, ?_, ?_,
    fun introduction h => ?_⟩
  · have hcollapse : Text.collapse other.toList = Text.collapse text.toList := by
      rw [Text.collapse, Text.collapse, hwords]
    change String.ofList _ = String.ofList _
    rw [fragmentOf, fragmentOf, hcollapse]
  · exact hquoted.trans (Text.fragmentOf_of_le h)
  · exact hquoted.trans (Text.fragmentOf_of_lt h)
  · rw [← String.length_toList, hquoted]
    exact Text.length_fragmentOf_le limit _
  · change String.ofList _ = _
    rw [hquoted, Text.fragmentOf_fragmentOf]
    rfl
  · rw [String.toList_append, List.mem_append, not_or]
    exact ⟨h, fun hmem => absurd (hspaced.space _ hmem rfl) (by decide)⟩

/-- The suite with two findings gives two lines.  A cut that falls on a space is found again. -/
theorem quotations_on_one_line_loadingSuite :
    let file : SourceFile :=
      { shown := ⟨"suite.test.ts"⟩, content := SideEffectCode.loadingSuite.source }
    let found := SideEffectCode.apply {} file SideEffectCode.loadingSuite
    let result : LintResult := { diagnostics := found, filesChecked := 1 }
    let disk : Disk := { root := .directory [], cwd := ⟨"/"⟩ }
    (∀ d ∈ result.diagnostics, Finds d ∧ '\n' ∉ d.location.file.text.toList) ∧
      (Text.lines (result.print .compact disk ⟨"/"⟩)).length = 2 ∧
      fragment "ab\n\tcd" 3 = "ab ..." ∧ fragment "ab ..." 3 = "ab ..." := by
  intro file found result disk
  have hfinds : ∀ d ∈ result.diagnostics, Finds d ∧ '\n' ∉ d.location.file.text.toList := by
    intro d hd
    have hshown : d.location.file = file.shown :=
      SideEffectCode.located_rule {} file SideEffectCode.loadingSuite d hd
    refine ⟨⟨{}, file, SideEffectCode.loadingSuite, d, hd, rfl⟩, ?_⟩
    rw [hshown]
    decide
  obtain ⟨hlaws, hcompact⟩ := quotations_on_one_line
  have hcut : fragment "ab\n\tcd" 3 = "ab ..." := by decide +kernel
  obtain ⟨-, -, -, -, -, hagain, -⟩ := hlaws "ab\n\tcd" 3
  refine ⟨hfinds, ?_, hcut, hcut ▸ hagain⟩
  rw [hcompact result disk ⟨"/"⟩ hfinds, List.length_map]
  decide +kernel

end SuiteLint
