import Mathlib.Data.List.DropRight
import Mathlib.Data.Prod.Lex
import Mathlib.Order.Interval.Set.Defs
import Mathlib.Order.Monotone.Basic
import SuiteLint.Source.File

/-!
# Lines and columns of byte offsets

A position is looked up in a table of line starts.  `SourceFile.position_counts` says what comes out
for any bytes and any offset: the line feeds before the offset are counted, and the bytes since the
last of them.  The table itself never has to be consulted to read the result.

The proof goes through one equation, `takeWhile_lineStarts`: the line starts up to an offset are the
line starts of the text up to that offset.  So it is enough to know the length and the last entry of
a whole table, and both follow by adding one byte at the end (`lineStarts_concat`).
-/

namespace SuiteLint.Text

/-! ### The table of line starts -/

theorem breaksFrom_append (offset : Nat) (front back : List UInt8) :
    breaksFrom offset (front ++ back)
      = breaksFrom offset front ++ breaksFrom (offset + front.length) back := by
  induction front generalizing offset with
  | nil => rfl
  | cons b front ih =>
    have hoffset : offset + (b :: front).length = offset + 1 + front.length := by
      rw [List.length_cons]; omega
    rw [hoffset, List.cons_append, breaksFrom, breaksFrom, ih]
    split <;> rfl

theorem lt_of_mem_breaksFrom {offset start : Nat} {bytes : List UInt8}
    (h : start ∈ breaksFrom offset bytes) : offset < start := by
  induction bytes generalizing offset with
  | nil => exact absurd h List.not_mem_nil
  | cons b bytes ih =>
    rw [breaksFrom] at h
    split at h
    · rcases List.mem_cons.mp h with rfl | hrest
      · omega
      · have := ih hrest; omega
    · have := ih h; omega

theorem pairwise_breaksFrom (offset : Nat) (bytes : List UInt8) :
    (breaksFrom offset bytes).Pairwise (· < ·) := by
  induction bytes generalizing offset with
  | nil => exact List.Pairwise.nil
  | cons b bytes ih =>
    rw [breaksFrom]
    split
    · exact List.pairwise_cons.mpr ⟨fun start hstart => lt_of_mem_breaksFrom hstart, ih _⟩
    · exact ih _

theorem pairwise_lineStarts (bytes : List UInt8) : (lineStarts bytes).Pairwise (· < ·) :=
  List.pairwise_cons.mpr
    ⟨fun _ hstart => lt_of_mem_breaksFrom hstart, pairwise_breaksFrom 0 bytes⟩

theorem lineStarts_append (front back : List UInt8) :
    lineStarts (front ++ back) = lineStarts front ++ breaksFrom front.length back := by
  rw [lineStarts, lineStarts, breaksFrom_append, Nat.zero_add, List.cons_append]

/-- One more byte opens a line iff it is a line feed. -/
theorem lineStarts_concat (bytes : List UInt8) (b : UInt8) :
    lineStarts (bytes ++ [b])
      = lineStarts bytes ++ if b = 10 then [bytes.length + 1] else [] := by
  rw [lineStarts_append]
  rfl

theorem length_lineStarts (bytes : List UInt8) :
    (lineStarts bytes).length = bytes.count 10 + 1 := by
  induction bytes using List.reverseRecOn with
  | nil => rfl
  | append_singleton bytes b ih =>
    rw [lineStarts_concat, List.length_append, ih, List.count_append, List.count_singleton]
    by_cases hb : b = 10
    · simp only [hb, if_true, List.length_singleton, beq_self_eq_true]
    · simp [hb]

/-- The last line starts where the bytes since the last line feed do. -/
theorem getLast?_lineStarts (bytes : List UInt8) :
    ∃ start, (lineStarts bytes).getLast? = some start ∧
      start + (bytes.rtakeWhile (· != 10)).length = bytes.length := by
  induction bytes using List.reverseRecOn with
  | nil => exact ⟨0, rfl, rfl⟩
  | append_singleton bytes b ih =>
    obtain ⟨start, hlast, hlength⟩ := ih
    rw [lineStarts_concat, List.rtakeWhile_concat]
    by_cases hb : b = 10
    · exact ⟨bytes.length + 1, by simp [hb], by simp [hb]⟩
    · refine ⟨start, by simp [hb, hlast], ?_⟩
      simp only [bne_iff_ne, ne_eq, hb, not_false_eq_true, if_true, List.length_append,
        List.length_singleton]
      omega

theorem le_length_of_mem_lineStarts {bytes : List UInt8} {start : Nat}
    (h : start ∈ lineStarts bytes) : start ≤ bytes.length := by
  induction bytes using List.reverseRecOn with
  | nil => exact (List.mem_singleton.mp h).le
  | append_singleton bytes b ih =>
    rw [lineStarts_concat, List.mem_append] at h
    rw [List.length_append, List.length_singleton]
    rcases h with h | h
    · have := ih h; omega
    · split at h
      · have := List.mem_singleton.mp h; omega
      · exact absurd h List.not_mem_nil

/-! ### Looking up an offset -/

section

variable {bytes : List UInt8} {offset : Nat}

theorem lineStarts_take_append (h : offset ≤ bytes.length) :
    lineStarts bytes
      = lineStarts (bytes.take offset) ++ breaksFrom offset (bytes.drop offset) := by
  have hlength : (bytes.take offset).length = offset := List.length_take_of_le h
  conv_lhs => rw [← List.take_append_drop offset bytes]
  rw [lineStarts_append, hlength]

/-- **Line starts up to an offset** are those of the text up to it: what follows the offset only
opens lines behind it. -/
theorem takeWhile_lineStarts (h : offset ≤ bytes.length) :
    (lineStarts bytes).takeWhile (fun start => start ≤ offset)
      = lineStarts (bytes.take offset) := by
  have hbefore : ∀ start ∈ lineStarts (bytes.take offset), decide (start ≤ offset) = true := by
    intro start hstart
    have hle := le_length_of_mem_lineStarts hstart
    rw [List.length_take_of_le h] at hle
    exact decide_eq_true hle
  have hbehind : (breaksFrom offset (bytes.drop offset)).takeWhile (fun start => start ≤ offset)
      = [] := by
    rw [List.takeWhile_eq_nil_iff]
    intro hpos
    have hlt := lt_of_mem_breaksFrom (List.getElem_mem hpos)
    simp only [decide_eq_true_eq, List.get_eq_getElem]
    omega
  rw [lineStarts_take_append h, List.takeWhile_append_of_pos hbefore, hbehind, List.append_nil]

theorem line_positionAt (h : offset ≤ bytes.length) :
    (positionAt bytes offset).line = (bytes.take offset).count 10 + 1 := by
  unfold positionAt
  dsimp only
  rw [Nat.min_eq_left h, takeWhile_lineStarts h, length_lineStarts]

theorem column_positionAt (h : offset ≤ bytes.length) :
    (positionAt bytes offset).column
      = ((bytes.take offset).rtakeWhile (· != 10)).length + 1 := by
  obtain ⟨start, hlast, hlength⟩ := getLast?_lineStarts (bytes.take offset)
  rw [List.length_take_of_le h] at hlength
  unfold positionAt
  dsimp only
  rw [Nat.min_eq_left h, takeWhile_lineStarts h, hlast, Option.getD_some]
  omega

/-- The entry of the table for the line of an offset is where the column is counted from. -/
theorem getElem?_lineStarts_positionAt (h : offset ≤ bytes.length) :
    ∃ start, (lineStarts bytes)[(positionAt bytes offset).line - 1]? = some start ∧
      start + ((positionAt bytes offset).column - 1) = offset := by
  obtain ⟨start, hlast, hlength⟩ := getLast?_lineStarts (bytes.take offset)
  rw [List.length_take_of_le h] at hlength
  have hline := line_positionAt h
  have hcolumn := column_positionAt h
  refine ⟨start, ?_, by omega⟩
  have hcount : (positionAt bytes offset).line = (lineStarts (bytes.take offset)).length := by
    rw [hline, length_lineStarts]
  have hinside : (positionAt bytes offset).line - 1 < (lineStarts (bytes.take offset)).length := by
    omega
  rw [lineStarts_take_append h, List.getElem?_append_left hinside, hcount,
    ← List.getLast?_eq_getElem?, hlast]

/-- The line of an offset parts the table: exactly the entries before it are no greater. -/
theorem le_iff_lt_line_positionAt (h : offset ≤ bytes.length) {index start : Nat}
    (hstart : (lineStarts bytes)[index]? = some start) :
    start ≤ offset ↔ index < (positionAt bytes offset).line := by
  have hcount : (positionAt bytes offset).line = (lineStarts (bytes.take offset)).length := by
    rw [line_positionAt h, length_lineStarts]
  rw [hcount]
  rw [lineStarts_take_append h, List.getElem?_append] at hstart
  split at hstart
  · rename_i hindex
    have hle := le_length_of_mem_lineStarts (List.mem_of_getElem? hstart)
    rw [List.length_take_of_le h] at hle
    exact iff_of_true hle hindex
  · rename_i hindex
    have hlt := lt_of_mem_breaksFrom (List.mem_of_getElem? hstart)
    exact iff_of_false (by omega) hindex

end

theorem positionAt_min (bytes : List UInt8) (offset : Nat) :
    positionAt bytes (min offset bytes.length) = positionAt bytes offset := by
  unfold positionAt
  rw [Nat.min_eq_left (Nat.min_le_right offset bytes.length)]

/-- A later offset is on a later line, or on the same line in a later column. -/
theorem positionAt_lt {bytes : List UInt8} {a b : Nat} (hab : a < b) (hb : b ≤ bytes.length) :
    (positionAt bytes a).line < (positionAt bytes b).line ∨
      (positionAt bytes a).line = (positionAt bytes b).line ∧
        (positionAt bytes a).column < (positionAt bytes b).column := by
  have ha : a ≤ bytes.length := by omega
  have hprefix : bytes.take a <+: bytes.take b := List.take_prefix_take_left hab.le
  have hcount : (bytes.take a).count 10 ≤ (bytes.take b).count 10 := hprefix.sublist.count_le 10
  by_cases hline : (positionAt bytes a).line = (positionAt bytes b).line
  · -- both columns are counted from the same line start
    obtain ⟨start, hstart, hcolumn⟩ := getElem?_lineStarts_positionAt ha
    obtain ⟨start', hstart', hcolumn'⟩ := getElem?_lineStarts_positionAt hb
    have hsame : start = start' := by
      rw [hline, hstart'] at hstart
      exact (Option.some.inj hstart).symm
    have hpos : 1 ≤ (positionAt bytes a).column := by rw [column_positionAt ha]; omega
    exact Or.inr ⟨hline, by omega⟩
  · rw [line_positionAt ha, line_positionAt hb] at hline ⊢
    exact Or.inl (by omega)

end SuiteLint.Text

namespace SuiteLint.SourceFile

open SuiteLint.Text (lineStarts positionAt)

/-- **What a position counts**.  With the offset cut to the length of the text, the line is one more
than the number of line feeds before it, and the column one more than the number of bytes since the
last of them.  The table of line starts increases, the line parts it at the offset, and its entry
for the line, with the column added, leads back to the offset.  So within the text no two offsets
have one position, and later offsets have later positions. -/
theorem position_counts (file : SourceFile) :
    (lineStarts file.bytes).Pairwise (· < ·) ∧
      (∀ offset,
        let o := min offset file.bytes.length
        let p := file.position offset
        p.line = (file.bytes.take o).count 10 + 1 ∧
          p.column = ((file.bytes.take o).rtakeWhile (· != 10)).length + 1 ∧
          (∃ start, (lineStarts file.bytes)[p.line - 1]? = some start ∧
            start + (p.column - 1) = o) ∧
          ∀ index start, (lineStarts file.bytes)[index]? = some start →
            (start ≤ o ↔ index < p.line)) ∧
      Set.InjOn file.position (Set.Iic file.bytes.length) ∧
      StrictMonoOn
        (fun offset => toLex ((file.position offset).line, (file.position offset).column))
        (Set.Iic file.bytes.length) := by
  have hmono : StrictMonoOn
      (fun offset => toLex ((file.position offset).line, (file.position offset).column))
      (Set.Iic file.bytes.length) := by
    intro a _ b hb hab
    rw [Prod.Lex.toLex_lt_toLex]
    exact Text.positionAt_lt hab hb
  refine ⟨Text.pairwise_lineStarts _, fun offset => ?_, fun a ha b hb heq => ?_, hmono⟩
  · intro o p
    have ho : o ≤ file.bytes.length := Nat.min_le_right _ _
    have hp : p = positionAt file.bytes o := (Text.positionAt_min _ _).symm
    rw [hp]
    exact ⟨Text.line_positionAt ho, Text.column_positionAt ho,
      Text.getElem?_lineStarts_positionAt ho,
      fun index start hstart => Text.le_iff_lt_line_positionAt ho hstart⟩
  · exact hmono.injOn ha hb (by simp only [heq])

/-- An offset inside a character of two bytes, on the third line. -/
example : positionAt [97, 10, 10, 195, 169] 4 = ⟨3, 2⟩ := by decide

end SuiteLint.SourceFile
