import DefectScan.Proofs.Rows
import DefectScan.Proofs.Utf8

/-!
# Positions of nodes

A node is given by byte offsets, its position by a row and a column in characters, and the lines of
a file leave out the line ends. The three agree: at the position of a node its own text stands on
the line, whatever characters and line ends come before it. The variable check therefore decides
about a write by the characters that follow this very occurrence of the name.
-/

namespace DefectScan

open Text

/-! ### Bytes of a line -/

namespace Text

/-- The bytes of the beginning of a line, taken back to the last line feed. -/
theorem takeWhile_reverse_utf8 {above tail : List Char} (habove : EndsLine above)
    (htail : '\n' ∉ tail) :
    ((utf8 (above ++ tail)).reverse.takeWhile (· != 10)).reverse = utf8 tail := by
  have hbytes : ∀ b ∈ (utf8 tail).reverse, (b != 10) = true := by
    intro b hb
    have hcount : (utf8 tail).count 10 = 0 := by
      rw [count_utf8]
      exact List.count_eq_zero.2 htail
    rw [bne_iff_ne]
    rintro rfl
    exact List.count_eq_zero.1 hcount (List.mem_reverse.1 hb)
  have hstop : (utf8 above).reverse.takeWhile (· != 10) = [] := by
    obtain rfl | ⟨t, rfl⟩ := habove
    · rfl
    · have hfeed : utf8 ['\n'] = [10] := by decide
      rw [utf8_append, hfeed, List.reverse_append]
      rfl
  rw [utf8_append, List.reverse_append, List.takeWhile_append_of_pos hbytes, hstop,
    List.append_nil, List.reverse_reverse]

end Text

/-! ### Nodes -/

namespace SyntaxTree

variable {tree : SyntaxTree} {text : List Char} {n : Node}

/-- A node between two boundaries has the text between them. -/
theorem IsOver.exists_parts (h : tree.IsOver text) (hstart : IsBoundary text n.start)
    (hstop : IsBoundary text n.stop) (hne : tree.text n ≠ []) :
    ∃ before after, text = before ++ (tree.text n ++ after) ∧ tree.before n = utf8 before := by
  have hlt : n.start < n.stop := by
    by_contra hle
    have hbytes : tree.bytesOf n = [] := by
      rw [bytesOf, Array.extract_empty_of_stop_le_start (by omega)]
    apply hne
    rw [SyntaxTree.text, hbytes]
    exact ofUtf8Lossy_utf8 []
  obtain ⟨before, part, after, rfl, hbefore, hpart⟩ := hstart.exists_parts hstop hlt
  have htext : tree.text n = part := by
    have hbytes : tree.bytesOf n = utf8 part := by
      rw [bytesOf, h.bytes, ← hbefore, ← hpart]
      simp [utf8_append]
    rw [SyntaxTree.text, hbytes, ofUtf8Lossy_utf8]
  refine ⟨before, after, by rw [htext], ?_⟩
  rw [SyntaxTree.before, h.bytes, ← hbefore]
  simp [utf8_append]

/-- A node stands on the row of the line that it is in, after as many characters as the line has
before it. -/
theorem position_eq {above tail : List Char} (hbefore : tree.before n = utf8 (above ++ tail))
    (habove : EndsLine above) (htail : '\n' ∉ tail) :
    tree.position n = ⟨above.count '\n', tail.length⟩ := by
  have hrow : tree.row n = above.count '\n' := by
    rw [row, hbefore, count_utf8, List.count_append, List.count_eq_zero.2 htail, Nat.add_zero]
  have hprefix : tree.linePrefix n = utf8 tail := by
    rw [linePrefix, hbefore, takeWhile_reverse_utf8 habove htail]
  rw [position, hrow, hprefix, ofUtf8Lossy_utf8]

end SyntaxTree

/-! ### Writes -/

namespace Text

theorem column_le_of_mem_placesFrom {column : Nat} {before : Option Char} {s : List Char}
    {p : Place} (h : p ∈ placesFrom column before s) : column ≤ p.column := by
  induction s generalizing column before with
  | nil =>
    cases List.mem_singleton.1 h
    exact Nat.le_refl column
  | cons c s ih =>
    rcases List.mem_cons.1 h with rfl | h
    · exact Nat.le_refl column
    · exact Nat.le_of_succ_le (ih h)

/-- The places from a column on are those of the rest of the text. -/
theorem exists_filter_placesFrom (column : Nat) (before : Option Char) (l s : List Char) :
    ∃ last, (placesFrom column before (l ++ s)).filter (fun p => column + l.length ≤ p.column) =
      placesFrom (column + l.length) last s := by
  induction l generalizing column before with
  | nil =>
    refine ⟨before, List.filter_eq_self.2 fun p hp => ?_⟩
    exact decide_eq_true (column_le_of_mem_placesFrom hp)
  | cons c l ih =>
    obtain ⟨last, hlast⟩ := ih (column + 1) (some c)
    have hlength : column + (c :: l).length = column + 1 + l.length := by
      rw [List.length_cons]
      omega
    refine ⟨last, ?_⟩
    rw [hlength, List.cons_append, placesFrom, List.filter_cons_of_neg, hlast]
    simp only [decide_eq_true_eq]
    omega

end Text

/-- At the column of a name, what follows the name decides whether it is assigned. -/
theorem isAssignmentTarget_append (l name rest : List Char) :
    isAssignmentTarget (l ++ (name ++ rest)) name l.length = startsAssignment rest := by
  obtain ⟨last, hplaces⟩ := exists_filter_placesFrom 0 none l (name ++ rest)
  rw [Nat.zero_add] at hplaces
  have hname : after? name (name ++ rest) = some rest := after?_eq_some_iff.2 rfl
  have hfirst : ∀ column, (placesFrom column last (name ++ rest)).findSome?
      (fun p => after? name p.after) = some rest := by
    intro column
    generalize hs : name ++ rest = s at hname
    cases s <;> simp [placesFrom, hname]
  rw [isAssignmentTarget, places, hplaces, hfirst]
  rfl

/-- A text that goes on, after blanks, with a single equals sign or with an arithmetic operator and
an equals sign. -/
def BeginsAssignment (s : List Char) : Prop :=
  ∃ blanks rest, s = blanks ++ rest ∧ (∀ c ∈ blanks, isBlank c = true) ∧
    ((∃ more, rest = '=' :: more ∧ more.head? ≠ some '=') ∨
      ∃ operator ∈ ['+', '-', '*', '/', '%'], ∃ more, rest = operator :: '=' :: more)

theorem startsAssignment_iff (s : List Char) : startsAssignment s = true ↔ BeginsAssignment s := by
  constructor
  · intro h
    refine ⟨s.takeWhile isBlank, trimStart s, (List.takeWhile_append_dropWhile).symm,
      fun c hc => List.mem_takeWhile_imp hc, ?_⟩
    unfold startsAssignment at h
    split at h
    · exact .inl ⟨_, ‹_›, by simpa using h⟩
    · exact .inr ⟨_, by simpa using h, _, ‹_›⟩
    · cases h
  · rintro ⟨blanks, rest, rfl, hblanks, ⟨more, rfl, hmore⟩ | ⟨operator, hoperator, more, rfl⟩⟩
    · have hblank : isBlank '=' = false := by decide
      rw [startsAssignment, trimStart_append hblanks, trimStart_eq_self (by simp [hblank])]
      simpa using hmore
    · obtain ⟨hblank, hne⟩ : isBlank operator = false ∧ operator ≠ '=' := by
        obtain rfl | rfl | rfl | rfl | rfl := by simpa using hoperator
        all_goals decide
      rw [startsAssignment, trimStart_append hblanks, trimStart_eq_self (by simp [hblank])]
      simpa [hne] using hoperator

/-- The line and column of a node lead to its text in the file, and the rest of that line decides
whether it is assigned. -/
theorem node_text_at_position {tree : SyntaxTree} {text : List Char} (h : tree.IsOver text)
    (n : Node) (hstart : IsBoundary text n.start) (hstop : IsBoundary text n.stop)
    (hne : tree.text n ≠ []) (hreturn : '\r' ∉ tree.text n) (hfeed : '\n' ∉ tree.text n) :
    ∃ before after line, text = before ++ (tree.text n ++ after) ∧
      tree.before n = utf8 before ∧
      tree.lines[(tree.position n).row]? = some line ∧
      line.take (tree.position n).column <:+ before ∧
      (line.drop (tree.position n).column).take (tree.text n).length = tree.text n ∧
      line.drop ((tree.position n).column + (tree.text n).length) <+: after ∧
      (isAssignmentTarget line (tree.text n) (tree.position n).column = true ↔
        BeginsAssignment (line.drop ((tree.position n).column + (tree.text n).length))) := by
  obtain ⟨before, after, htext, hbefore⟩ := h.exists_parts hstart hstop hne
  obtain ⟨above, tail, rfl, habove, htail⟩ := exists_endsLine_append before
  have hposition := SyntaxTree.position_eq hbefore habove htail
  have hline : tree.lines[above.count '\n']? =
      some (tail ++ (tree.text n ++ (splitLines after).headD [])) := by
    have hinner : '\n' ∉ tail ++ tree.text n := by simp [htail, hfeed]
    have hend : (tail ++ tree.text n).getLast? ≠ some '\r' := by
      rw [List.getLast?_append, List.getLast?_eq_some_getLast hne, Option.some_or]
      intro hlast
      exact hreturn (Option.some.inj hlast ▸ List.getLast_mem hne)
    rw [h.lines, htext, List.append_assoc, getElem?_splitLines_append habove,
      ← List.append_assoc tail, splitLines_append hinner fun hlast => absurd hlast hend]
    simp
  rw [hposition]
  refine ⟨above ++ tail, after, _, htext, hbefore, hline, ?_, ?_, ?_, ?_⟩
  · rw [List.take_left]
    exact List.suffix_append above tail
  · rw [List.drop_left, List.take_left]
  · rw [← List.append_assoc, ← List.length_append, List.drop_left]
    exact headD_splitLines_prefix after
  · rw [isAssignmentTarget_append, ← List.append_assoc, ← List.length_append, List.drop_left]
    exact startsAssignment_iff _

/-- A tree for the name `x` in the second line of a text with wide characters and two-character line
ends. -/
private def wideTree : SyntaxTree where
  root :=
    .mk ⟨"translation_unit", none, 0, 28, true, false, false⟩
      [.mk ⟨"identifier", none, 18, 19, true, false, false⟩ []]
  bytes := (utf8 "/* ü */\r\nint é; x  += 1;\r\n".toList).toArray
  lines := splitLines "/* ü */\r\nint é; x  += 1;\r\n".toList

/-- The name at the bytes 18 to 19 stands at column 7 of the second line and is assigned there. -/
theorem node_text_at_position_wide :
    let text := "/* ü */\r\nint é; x  += 1;\r\n".toList
    let n : Node := .mk ⟨"identifier", none, 18, 19, true, false, false⟩ []
    wideTree.IsOver text ∧ IsBoundary text n.start ∧ IsBoundary text n.stop ∧
      wideTree.text n = ['x'] ∧ wideTree.position n = ⟨1, 7⟩ ∧
      ∃ line, wideTree.lines[1]? = some line ∧ (line.drop 7).take 1 = ['x'] ∧
        (isAssignmentTarget line ['x'] 7 = true ↔ BeginsAssignment (line.drop 8)) := by
  intro text n
  have hover : wideTree.IsOver text := ⟨rfl, rfl⟩
  have hstart : IsBoundary text n.start := ⟨16, by decide⟩
  have hstop : IsBoundary text n.stop := ⟨17, by decide⟩
  have htext : wideTree.text n = ['x'] := by decide +kernel
  have hposition : wideTree.position n = ⟨1, 7⟩ := by decide +kernel
  obtain ⟨_, _, line, -, -, hline, -, hpart, -, hassigned⟩ :=
    node_text_at_position hover n hstart hstop (by simp [htext]) (by simp [htext])
      (by simp [htext])
  rw [hposition] at hline hpart hassigned
  rw [htext] at hpart hassigned
  exact ⟨hover, hstart, hstop, htext, hposition, line, hline, hpart, hassigned⟩

end DefectScan
