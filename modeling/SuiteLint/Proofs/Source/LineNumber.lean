import Mathlib.Data.List.DropRight
import SuiteLint.Proofs.Text.Lines
import SuiteLint.Proofs.Text.Position
import SuiteLint.Source.Directive

/-!
# The line that a number names

Lines are numbered in two ways.  A position counts the line feeds before a byte offset; a directive
is looked up in a list of line texts, which knows about carriage returns and opens no line after a
final line feed.  `SourceFile.lines_at_position` says that both mean the same lines: under the line
number of an offset the list has what stands around the offset, up to the line feeds on both sides,
and under the number before it the line above.  So a finding is looked up on the line that it starts
on and on the one above, and on no other.

The proof cuts the bytes at line feeds: the piece that holds an offset comes after as many pieces as
there are line feeds before the offset (`getElem?_splitOn_count`).
-/

namespace SuiteLint.Text

/-! ### The physical line of an offset -/

/-- **Physical line** at an offset: the bytes since the last line feed before it, and on from there
up to the next line feed. -/
def lineAround (bytes : List UInt8) (offset : Nat) : List UInt8 :=
  (bytes.take offset).rtakeWhile (· != 10) ++ (bytes.drop offset).takeWhile (· != 10)

/-- What is to be read on the physical line at an offset: a carriage return right before the line
feed that ends the line belongs to the break. -/
def lineTextAt (bytes : List UInt8) (offset : Nat) : List UInt8 :=
  if 10 ∈ bytes.drop offset then chopReturn (lineAround bytes offset) else lineAround bytes offset

theorem length_splitOn {α : Type} [BEq α] [LawfulBEq α] (a : α) (l : List α) :
    (l.splitOn a).length = l.count a + 1 := by
  induction l with
  | nil => rfl
  | cons b l ih =>
    rw [List.splitOn_cons_eq_if_modifyHead, List.count_cons]
    split_ifs with hb <;> simp [ih]

/-- The elements after the last `a`: there is no `a` at all, or one right before them. -/
theorem rtakeWhile_cases (l : List UInt8) (a : UInt8) :
    l.rtakeWhile (· != a) = l ∨ ∃ front, l = front ++ a :: l.rtakeWhile (· != a) := by
  have hparts := List.rdropWhile_append_rtakeWhile (p := (· != a)) (l := l)
  by_cases hne : l.rdropWhile (· != a) = []
  · rw [hne, List.nil_append] at hparts
    exact Or.inl hparts
  · have hlast : (l.rdropWhile (· != a)).getLast hne = a := by
      have hnot := List.rdropWhile_last_not (· != a) l hne
      simpa using hnot
    have hfront := List.dropLast_append_getLast hne
    rw [hlast] at hfront
    refine Or.inr ⟨(l.rdropWhile (· != a)).dropLast, ?_⟩
    rw [← List.singleton_append, ← List.append_assoc, hfront, hparts]

/-- The elements up to the next `a`: there is none, or one right after them. -/
theorem takeWhile_cases (l : List UInt8) (a : UInt8) :
    l.takeWhile (· != a) = l ∨ ∃ back, l = l.takeWhile (· != a) ++ a :: back := by
  have hparts := List.takeWhile_append_dropWhile (p := (· != a)) (l := l)
  cases hback : l.dropWhile (· != a) with
  | nil =>
    rw [hback, List.append_nil] at hparts
    exact Or.inl hparts
  | cons b back =>
    have hb := List.head?_dropWhile_not (· != a) l
    rw [hback] at hb
    obtain rfl : b = a := by simpa using hb
    rw [hback] at hparts
    exact Or.inr ⟨back, hparts.symm⟩

theorem newline_not_mem_lineAround (bytes : List UInt8) (offset : Nat) :
    10 ∉ lineAround bytes offset := by
  intro hmem
  rcases List.mem_append.mp hmem with hmem | hmem
  · exact absurd (List.mem_rtakeWhile_imp hmem) (by decide)
  · exact absurd (List.mem_takeWhile_imp hmem) (by decide)

/-- **The piece that holds an offset** comes after one piece for each line feed before it. -/
theorem getElem?_splitOn_count (bytes : List UInt8) (offset : Nat) :
    (bytes.splitOn 10)[(bytes.take offset).count 10]? = some (lineAround bytes offset) := by
  have hfree := newline_not_mem_lineAround bytes offset
  -- from the line on, cutting finds the line first
  have hline : ∃ rest, ((bytes.take offset).rtakeWhile (· != 10) ++ bytes.drop offset).splitOn 10
      = lineAround bytes offset :: rest := by
    rcases takeWhile_cases (bytes.drop offset) 10 with hall | ⟨back, hback⟩
    · refine ⟨[], ?_⟩
      rw [lineAround, hall] at hfree ⊢
      exact List.splitOn_eq_singleton hfree
    · refine ⟨back.splitOn 10, ?_⟩
      conv_lhs => rw [hback]
      rw [← List.append_assoc]
      exact List.splitOn_append_cons_self_of_not_mem hfree back
  obtain ⟨rest, hrest⟩ := hline
  have hparts := List.take_append_drop offset bytes
  have hzero : ((bytes.take offset).rtakeWhile (· != 10)).count 10 = 0 :=
    List.count_eq_zero.mpr fun hmem => hfree (List.mem_append_left _ hmem)
  rcases rtakeWhile_cases (bytes.take offset) 10 with hall | ⟨front, hfront⟩
  · have hcut : bytes.splitOn 10 = lineAround bytes offset :: rest := by
      conv_lhs => rw [← hparts, ← hall]
      exact hrest
    rw [hall] at hzero
    rw [hcut, hzero]
    rfl
  · have hcut : bytes.splitOn 10 = front.splitOn 10 ++ lineAround bytes offset :: rest := by
      conv_lhs => rw [← hparts, hfront]
      rw [List.append_assoc, List.cons_append, List.splitOn_append_cons_self, hrest]
    have hcount : (bytes.take offset).count 10 = (front.splitOn 10).length := by
      rw [length_splitOn, hfront, List.count_append, List.count_cons_self, hzero]
    rw [hcut, hcount, List.getElem?_append_right (Nat.le_refl _), Nat.sub_self]
    rfl

/-- It is not the last piece iff a line feed comes behind the offset. -/
theorem count_lt_length_splitOn_iff (bytes : List UInt8) (offset : Nat) :
    (bytes.take offset).count 10 + 1 < (bytes.splitOn 10).length ↔ 10 ∈ bytes.drop offset := by
  have hcount : bytes.count 10 = (bytes.take offset).count 10 + (bytes.drop offset).count 10 := by
    rw [← List.count_append, List.take_append_drop]
  rw [length_splitOn, hcount, ← List.count_pos_iff]
  omega

/-- **Where there is no line**: with no line feed behind an offset, the physical line at it is empty
iff the offset is the end of the text and no line has been begun there. -/
theorem lineAround_eq_nil_iff {bytes : List UInt8} {offset : Nat} (h : offset ≤ bytes.length) :
    10 ∉ bytes.drop offset ∧ lineAround bytes offset = [] ↔
      offset = bytes.length ∧ (bytes = [] ∨ bytes.getLast? = some 10) := by
  have hbegun : bytes.rtakeWhile (· != 10) = [] ↔ bytes = [] ∨ bytes.getLast? = some 10 := by
    cases bytes using List.reverseRecOn with
    | nil => simp
    | append_singleton front b => simp [List.rtakeWhile_concat]
  constructor
  · rintro ⟨hnone, hempty⟩
    obtain ⟨hfront, hback⟩ := List.append_eq_nil_iff.mp hempty
    have hdrop : bytes.drop offset = [] := by
      rcases takeWhile_cases (bytes.drop offset) 10 with hall | ⟨back, hall⟩
      · rw [← hall, hback]
      · exact absurd (hall ▸ List.mem_append_right _ List.mem_cons_self) hnone
    have hend : offset = bytes.length := Nat.le_antisymm h (List.drop_eq_nil_iff.mp hdrop)
    rw [hend, List.take_length] at hfront
    exact ⟨hend, hbegun.mp hfront⟩
  · rintro ⟨rfl, hlast⟩
    refine ⟨by simp, ?_⟩
    rw [lineAround, List.take_length, hbegun.mpr hlast, List.drop_length]
    rfl

/-- **The last line feed** before an offset: one line feed fewer comes before it. -/
theorem exists_last_newline {bytes : List UInt8} {offset : Nat} (h : 10 ∈ bytes.take offset) :
    ∃ feed, feed < offset ∧ bytes[feed]? = some 10 ∧ 10 ∉ (bytes.take offset).drop (feed + 1) ∧
      (bytes.take offset).count 10 = (bytes.take feed).count 10 + 1 := by
  have hfree : 10 ∉ (bytes.take offset).rtakeWhile (· != 10) :=
    fun hmem => absurd (List.mem_rtakeWhile_imp hmem) (by decide)
  rcases rtakeWhile_cases (bytes.take offset) 10 with hall | ⟨front, hfront⟩
  · exact absurd (hall.symm ▸ h) hfree
  generalize (bytes.take offset).rtakeWhile (· != 10) = back at hfront hfree
  have hlt : front.length < offset := by
    have hlength := congrArg List.length hfront
    have htake := List.length_take_le offset bytes
    rw [List.length_append, List.length_cons] at hlength
    omega
  have hfeed : (bytes.take offset)[front.length]? = some 10 := by
    rw [hfront, List.getElem?_append_right (Nat.le_refl _), Nat.sub_self]
    rfl
  have hbefore : bytes.take front.length = front := by
    rw [← Nat.min_eq_left hlt.le, ← List.take_take, hfront, List.take_left']
    rfl
  refine ⟨front.length, hlt, ?_, ?_, ?_⟩
  · rwa [List.getElem?_take_of_lt hlt] at hfeed
  · have hback : (front ++ 10 :: back).drop (front.length + 1) = back := by
      rw [List.drop_append]
      simp
    rw [hfront, hback]
    exact hfree
  · rw [hbefore, hfront, List.count_append, List.count_cons_self, List.count_eq_zero.mpr hfree]

/-! ### Line texts by number -/

/-- **The line text of an offset** is listed under the number of line feeds before it, unless there
is nothing on the line and no line feed behind it. -/
theorem map_encode_getElem?_linesOf (cs : List Char) (offset : Nat) :
    (linesOf cs)[((encode cs).take offset).count 10]?.map encode =
      if 10 ∉ (encode cs).drop offset ∧ lineAround (encode cs) offset = [] then none
      else some (lineTextAt (encode cs) offset) := by
  have hpiece := getElem?_splitOn_count (encode cs) offset
  have hlast := count_lt_length_splitOn_iff (encode cs) offset
  rw [splitOn_encode, List.getElem?_map, Option.map_eq_some_iff] at hpiece
  rw [splitOn_encode, List.length_map] at hlast
  obtain ⟨piece, hpiece, hline⟩ := hpiece
  have hnil : lineAround (encode cs) offset = [] ↔ piece = [] := by
    rw [← hline, encode_eq_nil_iff]
  rw [getElem?_linesOf hpiece, lineTextAt]
  by_cases hfeed : 10 ∈ (encode cs).drop offset
  · rw [if_pos (hlast.mpr hfeed), if_neg (fun h => h.1 hfeed), if_pos hfeed, Option.map_some,
      encode_dropReturn, hline]
  · rw [if_neg (fun h => hfeed (hlast.mp h)), if_neg hfeed]
    by_cases hempty : piece = []
    · rw [if_pos hempty, if_pos ⟨hfeed, hnil.mpr hempty⟩, Option.map_none]
    · rw [if_neg hempty, if_neg (fun h => hempty (hnil.mp h.2)), Option.map_some, hline]

end SuiteLint.Text

namespace SuiteLint

/-! ### Directives of two lines -/

namespace Allowance

/-- The directive on a line with this text, if it speaks about the rule. -/
def directiveIn? (rule text : String) : Option Directive :=
  (Directive.parse? text.toList).filter (fun d => d.covers rule.toList)

/-- **Allowance by two lines**: what the texts of a line and of the line above give a rule, as far
as there are such lines. -/
def ofLines (above own : Option String) (rule : String) : Allowance :=
  match (above.bind (directiveIn? rule)).or (own.bind (directiveIn? rule)) with
  | some d => .allowed (d.reason.map String.ofList)
  | none => .denied

theorem onLine?_succ (lines : List String) (index : Nat) (rule : String) :
    onLine? lines (index + 1) rule = lines[index]?.bind (directiveIn? rule) := by
  refine Option.bind_congr fun text _ => ?_
  unfold directiveIn?
  cases Directive.parse? text.toList with
  | none => rfl
  | some d => rfl

/-- A finding on a line is allowed by that line and by the one above, if there is one. -/
theorem check_eq_ofLines {line : Nat} (h : 0 < line) (content rule : String) :
    check content line rule =
      ofLines (if 1 < line then (Text.lines content)[line - 2]? else none)
        (Text.lines content)[line - 1]? rule := by
  obtain ⟨index, rfl⟩ : ∃ index, line = index + 1 := ⟨line - 1, by omega⟩
  unfold check
  dsimp only
  rw [Nat.add_sub_cancel, onLine?_succ]
  cases index with
  | zero => rfl
  | succ index =>
    rw [onLine?_succ, if_pos (by omega)]
    rfl

end Allowance

/-! ### Both numberings -/

namespace SourceFile

variable {file : SourceFile} {offset : Nat}

/-- The listed text under the line number of an offset, as bytes. -/
theorem map_bytes_getElem?_lines (h : offset ≤ file.bytes.length) :
    ((Text.lines file.content)[(file.position offset).line - 1]?).map
        (fun text => text.toUTF8.data.toList) =
      if 10 ∉ file.bytes.drop offset ∧ Text.lineAround file.bytes offset = [] then none
      else some (Text.lineTextAt file.bytes offset) := by
  have hbytes : file.bytes = Text.encode file.content.toList := Text.bytes_eq_encode file.content
  have hindex : (file.position offset).line - 1 = (file.bytes.take offset).count 10 := by
    rw [position, Text.line_positionAt h, Nat.add_sub_cancel]
  have hencode : (fun text : String => text.toUTF8.data.toList) ∘ String.ofList = Text.encode := by
    funext cs
    rw [Function.comp_apply, Text.bytes_eq_encode, String.toList_ofList]
  rw [hindex, Text.lines, List.getElem?_map, Option.map_map, hencode, hbytes]
  exact Text.map_encode_getElem?_linesOf file.content.toList offset

/-- **Line numbers agree**.  Under the line number of an offset the list of line texts has the
physical line at the offset; it has none exactly where the offset is the end of the text and no line
has been begun there.  Under the number before it the list has the physical line of the last line
feed before the offset, which is the line above.  So what allows a finding is what these two lines
say. -/
theorem lines_at_position (h : offset ≤ file.bytes.length) :
    let line := (file.position offset).line
    let texts := Text.lines file.content
    (texts[line - 1]? = none ↔
        offset = file.bytes.length ∧ (file.content = "" ∨ file.bytes.getLast? = some 10)) ∧
      (∀ text, texts[line - 1]? = some text →
        text.toUTF8.data.toList = Text.lineTextAt file.bytes offset) ∧
      (1 < line → ∃ feed text, feed < offset ∧ file.bytes[feed]? = some 10 ∧
        10 ∉ (file.bytes.take offset).drop (feed + 1) ∧ texts[line - 2]? = some text ∧
        text.toUTF8.data.toList = Text.lineTextAt file.bytes feed) ∧
      ∀ length rule, Allowance.check file.content (file.locate offset length).line rule =
        Allowance.ofLines (if 1 < line then texts[line - 2]? else none) texts[line - 1]? rule := by
  intro line texts
  have hown := map_bytes_getElem?_lines h
  have hline : line = (file.bytes.take offset).count 10 + 1 := Text.line_positionAt h
  have hempty : file.bytes = [] ↔ file.content = "" := by
    rw [bytes, Text.bytes_eq_encode, Text.encode_eq_nil_iff, String.toList_eq_nil_iff]
  refine ⟨?_, fun text htext => ?_, fun habove => ?_, fun length rule => ?_⟩
  · rw [← hempty, ← Text.lineAround_eq_nil_iff h, ← Option.map_eq_none_iff, hown]
    exact ite_eq_left_iff.trans (by simp)
  · rw [htext, Option.map_some] at hown
    split_ifs at hown
    exact Option.some.inj hown
  · -- the last line feed before the offset ends the line above
    have hbefore : 10 ∈ file.bytes.take offset := List.count_pos_iff.mp (by omega)
    obtain ⟨feed, hlt, hfeed, hlast, hcount⟩ := Text.exists_last_newline hbefore
    have hfeedline : (file.position feed).line - 1 = line - 2 := by
      rw [position, Text.line_positionAt (by omega), hline]
      omega
    have hends : 10 ∈ file.bytes.drop feed := by
      refine List.mem_of_getElem? (i := 0) ?_
      rw [List.getElem?_drop, Nat.add_zero, hfeed]
    have hinside : feed ≤ file.bytes.length := by omega
    have htext := map_bytes_getElem?_lines hinside
    rw [hfeedline, if_neg fun hnone => hnone.1 hends, Option.map_eq_some_iff] at htext
    obtain ⟨text, htext, hbytes⟩ := htext
    exact ⟨feed, text, hlt, hfeed, hlast, htext, hbytes⟩
  · have hpos : 0 < line := by omega
    exact Allowance.check_eq_ofLines hpos file.content rule

/-- The second of two lines that end in carriage returns, after a character of two bytes. -/
theorem lines_at_position_secondLine :
    let file : SourceFile :=
      { shown := ⟨"suite.test.ts"⟩, content := "é(); // treelint: allow(all)\r\nload();\r\n" }
    33 ≤ file.bytes.length ∧ (file.position 33).line = 2 ∧
      (∀ text, (Text.lines file.content)[1]? = some text →
        text.toUTF8.data.toList = [108, 111, 97, 100, 40, 41, 59]) ∧
      (∃ feed text, file.bytes[feed]? = some 10 ∧ (Text.lines file.content)[0]? = some text ∧
        text.toUTF8.data.toList = Text.lineTextAt file.bytes feed) ∧
      Allowance.check file.content 2 "no-side-effect-code" = .allowed none := by
  intro file
  have hlength : 33 ≤ file.bytes.length := by decide +kernel
  have hline : (file.position 33).line = 2 := by decide +kernel
  have htext : Text.lineTextAt file.bytes 33 = [108, 111, 97, 100, 40, 41, 59] := by decide +kernel
  obtain ⟨-, hown, habove, hcheck⟩ := lines_at_position hlength
  rw [hline] at hown habove hcheck
  obtain ⟨feed, text, -, hfeed, -, hlisted, hbytes⟩ := habove (by decide)
  refine ⟨hlength, hline, fun text h => (hown text h).trans htext,
    ⟨feed, text, hfeed, hlisted, hbytes⟩, ?_⟩
  have hallowed := hcheck 6 "no-side-effect-code"
  rw [locate, hline] at hallowed
  rw [hallowed]
  decide +kernel

end SourceFile

end SuiteLint
