import Mathlib.Data.List.Induction
import SuiteLint.Proofs.Text.Pieces
import SuiteLint.Text.Lines

/-!
# Line texts

The lines of a text are its pieces between line feeds, less carriage returns in front of them, and a
line feed at the end opens no further line: `getElem?_linesOf` says which line comes from which
piece, and `lines_join_newline` reads back lines that were written one by one.

Lines are made of characters and offsets count bytes.  A line feed is a byte of its own, which
occurs in the encoding of no other character, so cutting the characters at line feeds and cutting
the bytes comes to the same (`splitOn_encode`).
-/

namespace SuiteLint.Text

/-! ### Lines and pieces -/

theorem dropReturn_eq_self {line : List Char} (h : line.getLast? ≠ some '\r') :
    dropReturn line = line := by
  unfold dropReturn
  split
  · contradiction
  · rfl

/-- **The line of a piece**: a piece that a line feed follows is a line, less the carriage return at
its end; the last piece is a line as it is, unless it is empty. -/
theorem getElem?_linesOf {cs piece : List Char} {index : Nat}
    (h : (cs.splitOn '\n')[index]? = some piece) :
    (linesOf cs)[index]? =
      if index + 1 < (cs.splitOn '\n').length then some (dropReturn piece)
      else if piece = [] then none else some piece := by
  obtain ⟨hindex, -⟩ := List.getElem?_eq_some_iff.mp h
  unfold linesOf
  dsimp only
  rw [List.getElem?_append, List.length_map, List.length_dropLast]
  by_cases hfollowed : index + 1 < (cs.splitOn '\n').length
  · have hbefore : index < (cs.splitOn '\n').length - 1 := by omega
    rw [if_pos hbefore, if_pos hfollowed, List.getElem?_map, List.getElem?_dropLast,
      if_pos hbefore, h]
    rfl
  · have hlast : index = (cs.splitOn '\n').length - 1 := by omega
    rw [hlast, ← List.getLast?_eq_getElem?] at h
    rw [if_neg (by omega), if_neg hfollowed, h, hlast, Nat.sub_self, Option.getD_some]
    cases piece with
    | nil => rfl
    | cons c piece => rfl

theorem splitOn_flatMap_newline {pieces : List (List Char)} (h : ∀ piece ∈ pieces, '\n' ∉ piece) :
    (pieces.flatMap (fun piece => piece ++ ['\n'])).splitOn '\n' = pieces ++ [[]] := by
  induction pieces with
  | nil => rfl
  | cons piece pieces ih =>
    rw [List.forall_mem_cons] at h
    have hfree : ∀ c ∈ piece, (c == '\n') = false := by
      intro c hc
      rw [beq_eq_false_iff_ne]
      rintro rfl
      exact h.1 hc
    rw [List.splitOn_eq_splitOnP] at ih ⊢
    rw [List.flatMap_cons, List.append_assoc, List.singleton_append,
      List.splitOnP_append_cons_of_forall_mem hfree _ (beq_self_eq_true '\n'), ih h.2,
      List.cons_append]

theorem linesOf_flatMap_newline {pieces : List (List Char)}
    (h : ∀ piece ∈ pieces, '\n' ∉ piece ∧ piece.getLast? ≠ some '\r') :
    linesOf (pieces.flatMap (fun piece => piece ++ ['\n'])) = pieces := by
  have hsplit := splitOn_flatMap_newline fun piece hpiece => (h piece hpiece).1
  have hreturn : pieces.map dropReturn = pieces := by
    conv_rhs => rw [← List.map_id pieces]
    exact List.map_congr_left fun piece hpiece => dropReturn_eq_self (h piece hpiece).2
  unfold linesOf
  simp only [hsplit, List.dropLast_concat, List.getLast?_concat, hreturn]
  simp

/-- **Texts that are written one to a line** are read back as the lines. -/
theorem lines_join_newline {texts : List String}
    (h : ∀ text ∈ texts, '\n' ∉ text.toList ∧ text.toList.getLast? ≠ some '\r') :
    lines (String.join (texts.map (fun text => text ++ "\n"))) = texts := by
  have hchars : (String.join (texts.map (fun text => text ++ "\n"))).toList
      = (texts.map String.toList).flatMap (fun piece => piece ++ ['\n']) := by
    rw [String.toList_join, List.flatMap_map, List.flatMap_map]
    refine List.flatMap_congr fun text _ => ?_
    rw [String.toList_append]
    rfl
  have hpieces : ∀ piece ∈ texts.map String.toList,
      '\n' ∉ piece ∧ piece.getLast? ≠ some '\r' := by
    simpa using h
  rw [lines, hchars, linesOf_flatMap_newline hpieces, List.map_map]
  simp

/-! ### Characters as bytes -/

/-- **The bytes of characters**. -/
def encode (cs : List Char) : List UInt8 :=
  cs.flatMap String.utf8EncodeChar

theorem bytes_eq_encode (text : String) : text.toUTF8.data.toList = encode text.toList := by
  rw [String.toUTF8_eq_toByteArray, ← String.utf8Encode_toList, List.utf8Encode,
    List.data_toByteArray]
  rfl

/-- A character up to 127 is one byte, and all bytes of the others are greater. -/
theorem encode_char_cases (c : Char) :
    (c.toNat < 128 ∧ String.utf8EncodeChar c = [UInt8.ofNat c.toNat]) ∨
      (128 ≤ c.toNat ∧ ∀ b ∈ String.utf8EncodeChar c, 128 ≤ b.toNat) := by
  have hval : c.val.toNat = c.toNat := rfl
  unfold String.utf8EncodeChar
  dsimp only
  rw [hval]
  split_ifs with hsmall
  · exact Or.inl ⟨by omega, rfl⟩
  all_goals
    refine Or.inr ⟨by omega, ?_⟩
    simp only [List.mem_cons, List.not_mem_nil, or_false, forall_eq_or_imp, forall_eq,
      UInt8.toNat_ofNat']
    omega

/-- **A byte up to 127** stands for its own character and occurs in no other. -/
theorem mem_encode_char_iff {c d : Char} (hd : d.toNat < 128) :
    UInt8.ofNat d.toNat ∈ String.utf8EncodeChar c ↔ c = d := by
  have hbyte : (UInt8.ofNat d.toNat).toNat = d.toNat := by
    rw [UInt8.toNat_ofNat']
    omega
  rcases encode_char_cases c with ⟨hc, hbytes⟩ | ⟨hc, hbytes⟩
  · rw [hbytes, List.mem_singleton, ← UInt8.toNat_inj, hbyte, UInt8.toNat_ofNat', ← Char.toNat_inj]
    omega
  · refine iff_of_false (fun hmem => ?_) (fun heq => ?_)
    · have := hbytes _ hmem
      omega
    · rw [heq] at hc
      omega

theorem encode_return : String.utf8EncodeChar '\r' = [13] := by
  decide

/-- The last byte of a character is that of a carriage return iff it is one. -/
theorem getLast?_encode_char_iff (c : Char) :
    (String.utf8EncodeChar c).getLast? = some 13 ↔ c = '\r' := by
  constructor
  · intro hlast
    exact (mem_encode_char_iff (by decide)).mp (List.mem_of_getLast? hlast)
  · rintro rfl
    rw [encode_return]
    rfl

theorem encode_eq_nil_iff {cs : List Char} : encode cs = [] ↔ cs = [] := by
  cases cs with
  | nil => exact iff_of_true rfl rfl
  | cons c cs => simp [encode, String.utf8EncodeChar_ne_nil]

theorem newline_not_mem_encode {cs : List Char} (h : '\n' ∉ cs) : 10 ∉ encode cs := by
  rw [encode, List.mem_flatMap]
  rintro ⟨c, hc, hmem⟩
  obtain rfl : c = '\n' := (mem_encode_char_iff (by decide)).mp hmem
  exact h hc

theorem encode_append (front back : List Char) :
    encode (front ++ back) = encode front ++ encode back :=
  List.flatMap_append

theorem encode_intercalate (pieces : List (List Char)) :
    encode (['\n'].intercalate pieces) = [10].intercalate (pieces.map encode) := by
  induction pieces with
  | nil => rfl
  | cons piece rest ih =>
    cases rest with
    | nil => simp
    | cons next rest =>
      rw [List.map_cons] at ih ⊢
      rw [List.map_cons, List.intercalate_cons_cons, List.intercalate_cons_cons, encode_append,
        encode_append, ih]
      rfl

/-- **Cutting at line feeds** comes to the same before and after encoding. -/
theorem splitOn_encode (cs : List Char) :
    (encode cs).splitOn 10 = (cs.splitOn '\n').map encode := by
  have hfree : ∀ piece ∈ (cs.splitOn '\n').map encode, 10 ∉ piece := by
    intro piece hpiece
    obtain ⟨chars, hchars, rfl⟩ := List.mem_map.mp hpiece
    rw [List.splitOn_eq_splitOnP] at hchars
    refine newline_not_mem_encode fun hmem => ?_
    exact absurd (eq_false_of_mem_splitOnP hchars '\n' hmem) (by decide)
  have hne : (cs.splitOn '\n').map encode ≠ [] := by
    rw [ne_eq, List.map_eq_nil_iff]
    exact List.splitOn_ne_nil '\n' cs
  have hcs : ['\n'].intercalate (cs.splitOn '\n') = cs := List.intercalate_splitOn '\n'
  conv_lhs => rw [← hcs]
  rw [encode_intercalate, List.splitOn_intercalate 10 hfree hne]

/-- A line without the carriage return at its end, as bytes. -/
def chopReturn (line : List UInt8) : List UInt8 :=
  if line.getLast? = some 13 then line.dropLast else line

/-- A carriage return at the end of a line is a byte of its own too. -/
theorem encode_dropReturn (line : List Char) :
    encode (dropReturn line) = chopReturn (encode line) := by
  cases hline : line using List.reverseRecOn with
  | nil => rfl
  | append_singleton front c =>
    have hlast : (encode (front ++ [c])).getLast? = (String.utf8EncodeChar c).getLast? := by
      have hne : encode [c] ≠ [] := by simp [encode_eq_nil_iff]
      rw [encode_append, List.getLast?_append_of_ne_nil _ hne]
      simp [encode]
    by_cases hc : c = '\r'
    · have hreturn : (encode (front ++ [c])).getLast? = some 13 :=
        hlast.trans ((getLast?_encode_char_iff c).mpr hc)
      rw [chopReturn, if_pos hreturn, hc]
      simp [dropReturn, encode, encode_return]
    · have hreturn : (encode (front ++ [c])).getLast? ≠ some 13 := by
        rw [hlast, ne_eq, getLast?_encode_char_iff]
        exact hc
      have hself : (front ++ [c]).getLast? ≠ some '\r' := by
        rw [List.getLast?_concat, ne_eq, Option.some.injEq]
        exact hc
      rw [chopReturn, if_neg hreturn, dropReturn_eq_self hself]

end SuiteLint.Text
