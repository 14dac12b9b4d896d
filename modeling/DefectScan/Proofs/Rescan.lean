import DefectScan.Proofs.ArgumentViews

/-!
# Scanning code views

A code view is a text of its own and can be scanned again. The second scanner is in code where the
first was in a comment, and else in the same state: what the first one blanked holds no comment
opener, no quote and no backslash, and what it left stands as it stood. The two drift apart only
after a backslash at the end of a line, which carries a literal over to the next line and does not
show in the code view. Without such lines the second scan changes nothing.
-/

namespace DefectScan

/-- What a region of a line is in its code view, where comments are blank code. -/
def Region.settled : Region → Region
  | .code | .comment => .code
  | .literal => .literal

/-- What is shown of a character is shown of it again. -/
theorem Region.show_settled_show (region : Region) (c : Char) :
    region.settled.show (region.show c) = region.show c := by
  cases region <;> rfl

namespace Lexical

/-- A space in a literal belongs to it and does not close it. -/
theorem move_literal_space (quote : Quote) (following : Option Char) :
    move (.literal quote) ' ' following = .one .literal (.literal quote) := by
  simp [move, quote.space_ne_char]

/-! ### Single moves -/

section Moves

variable {state next : Lexical} {region : Region} {c : Char} {following : Option Char}

/-- What belongs to a literal is read inside of it and does not close it. -/
theorem exists_quote_of_move
    (h : state.move c following = .one .literal next ∨
      state.move c following = .two .literal next) :
    ∃ quote, state = .literal quote ∧ next = .literal quote := by
  cases state with
  | code => grind [move]
  | lineComment => grind [move]
  | blockComment => grind [move]
  | literal quote => exact ⟨quote, rfl, by grind [move]⟩

/-- A character taken alone is taken alone in the code view, even if the one after it has become a
space. -/
theorem move_show_of_one (h : state.move c following = .one region next)
    {following' : Option Char} (hfollowing : following' = following ∨ following' = some ' ') :
    state.settled.move (region.show c) following' = .one region.settled next.settled := by
  rcases move_settled_of_one h with ⟨rfl, hstate, hnext⟩ | ⟨hne, hstate, hnext, hspace⟩
  · rw [hstate, hnext]
    exact move_code_space following'
  · rw [hstate, hnext]
    cases region with
    | comment => exact absurd rfl hne
    | code =>
      rcases hfollowing with rfl | rfl
      · exact h
      · exact hspace
    | literal =>
      obtain ⟨quote, rfl, rfl⟩ := exists_quote_of_move (.inl h)
      exact move_literal_space quote following'

/-- Two characters taken together are two spaces in the code view, each of which is taken alone. -/
theorem move_space_of_two (h : state.move c following = .two region next)
    (following' : Option Char) :
    state.settled.move ' ' following' = .one region.settled next.settled ∧
      next.settled.move ' ' following' = .one region.settled next.settled := by
  rcases move_settled_of_two h with ⟨rfl, hstate, hnext, -⟩ | ⟨rfl, -⟩
  · rw [hstate, hnext]
    exact ⟨move_code_space following', move_code_space following'⟩
  · obtain ⟨quote, rfl, rfl⟩ := exists_quote_of_move (.inr h)
    exact ⟨move_literal_space quote following', move_literal_space quote following'⟩

/-- Nothing is shown of two characters taken together. -/
theorem show_of_two (h : state.move c following = .two region next) (d : Char) :
    region.show d = ' ' := by
  rcases move_settled_of_two h with ⟨rfl, -⟩ | ⟨rfl, -⟩ <;> rfl

end Moves

/-! ### Lines -/

/-- The first character of a line is shown as it is or as a space. -/
theorem head?_view (state : Lexical) (raw : List Char) :
    (state.view raw).head? = raw.head? ∨ (state.view raw).head? = some ' ' := by
  fun_cases regions state raw with
  | case1 state => exact .inl rfl
  | case2 state c s region next hmove =>
    rw [view_of_one hmove]
    cases region <;> simp [Region.show]
  | case3 state c region next hmove =>
    rw [view_of_two_nil hmove, show_of_two hmove]
    exact .inr rfl
  | case4 state c region next d s rest hmove =>
    rw [view_of_two hmove, show_of_two hmove]
    exact .inr rfl

/-- In its code view a line has the same literals and code in place of comments, and ends in the
same state but for comments. -/
theorem regions_view (state : Lexical) (raw : List Char) :
    state.settled.regions (state.view raw) =
      ((state.regions raw).1.map Region.settled, (state.regions raw).2.settled) := by
  fun_induction regions state raw with
  | case1 state => rfl
  | case2 state c s region next hmove rest ih =>
    rw [view_of_one hmove, regions_of_one (move_show_of_one hmove (head?_view next s)), ih]
    rfl
  | case3 state c region next hmove =>
    rw [view_of_two_nil hmove, show_of_two hmove, regions_of_one (move_space_of_two hmove _).1]
    rfl
  | case4 state c region next d s rest hmove ih =>
    rw [view_of_two hmove, show_of_two hmove, show_of_two hmove,
      regions_of_one (move_space_of_two hmove _).1, regions_of_one (move_space_of_two hmove _).2,
      ih]
    rfl

/-- The code view of a code view is the code view. -/
theorem view_view (state : Lexical) (raw : List Char) :
    state.settled.view (state.view raw) = state.view raw := by
  rw [view, regions_view, view]
  generalize (state.regions raw).1 = regions
  induction regions generalizing raw with
  | nil => rfl
  | cons region regions ih =>
    cases raw with
    | nil => rfl
    | cons c raw => simp [Region.show_settled_show, ih]

/-- A code view ends with a backslash only if its line does. -/
theorem getLast?_view_ne (state : Lexical) {raw : List Char} (h : raw.getLast? ≠ some '\\') :
    (state.view raw).getLast? ≠ some '\\' := by
  rw [List.getLast?_eq_getElem?] at h ⊢
  rw [length_view, view, List.getElem?_zipWith]
  cases hregion : (state.regions raw).1[raw.length - 1]? with
  | none => simp
  | some region =>
    cases hc : raw[raw.length - 1]? with
    | none => simp
    | some c =>
      rw [hc] at h
      cases region with
      | code => exact h
      | comment => simp [Region.show]
      | literal => simp [Region.show]

/-- A line that does not end with a backslash and its code view lead to the same state but for
comments. -/
theorem afterLine_view (state : Lexical) {raw : List Char} (h : raw.getLast? ≠ some '\\') :
    state.settled.afterLine (state.view raw) = (state.afterLine raw).settled := by
  rw [afterLine, afterLine, regions_view]
  cases (state.regions raw).2 with
  | code => rfl
  | lineComment => rfl
  | blockComment => rfl
  | literal quote =>
    rw [settled, endLine, endLine, if_neg h, if_neg (getLast?_view_ne state h)]
    rfl

end Lexical

/-! ### Files -/

/-- The code view of a line as a line of its own. -/
def CodeLine.viewed (line : CodeLine) : CodeLine := { line with raw := line.code }

/-- Scanned from the same state but for comments, code views become the lines of the second scan and
their own code views. -/
theorem scanFrom_map_code (state : Lexical) (row : Nat) {lines : List (List Char)}
    (h : ∀ raw ∈ lines, raw.getLast? ≠ some '\\') :
    scanFrom state.settled row ((scanFrom state row lines).map CodeLine.code) =
      (scanFrom state row lines).map CodeLine.viewed := by
  induction lines generalizing state row with
  | nil => rfl
  | cons raw lines ih =>
    obtain ⟨hraw, hlines⟩ := List.forall_mem_cons.1 h
    rw [scanFrom_cons, List.map_cons, List.map_cons, scanFrom_cons, Lexical.view_view,
      Lexical.afterLine_view state hraw, ih (state.afterLine raw) (row + 1) hlines]
    rfl

/-- The state in which the second scan comes to a row is that of the first but for comments. -/
theorem afterLines_take_map_code (state : Lexical) (row : Nat) {lines : List (List Char)}
    (h : ∀ raw ∈ lines, raw.getLast? ≠ some '\\') (k : Nat) :
    state.settled.afterLines (((scanFrom state row lines).map CodeLine.code).take k) =
      (state.afterLines (lines.take k)).settled := by
  induction lines generalizing state row k with
  | nil => simp [scanFrom]
  | cons raw lines ih =>
    obtain ⟨hraw, hlines⟩ := List.forall_mem_cons.1 h
    cases k with
    | zero => rfl
    | succ k =>
      rw [scanFrom_cons, List.map_cons, List.take_succ_cons, List.take_succ_cons,
        Lexical.afterLines_cons, Lexical.afterLines_cons, Lexical.afterLine_view state hraw,
        ih (state.afterLine raw) (row + 1) hlines]

/-- If no line ends with a backslash, the code views of the code views of a file are the code
views. -/
theorem scanLines_code_idempotent {lines : List (List Char)}
    (h : ∀ raw ∈ lines, raw.getLast? ≠ some '\\') :
    let views := (scanLines lines).map CodeLine.code
    (scanLines views).map CodeLine.code = views ∧
      ∀ line ∈ scanLines lines, line.viewed ∈ scanLines views ∧
        line.viewed.regionsIn views = (line.regionsIn lines).map Region.settled := by
  intro views
  have hscan : scanLines views = (scanLines lines).map CodeLine.viewed :=
    scanFrom_map_code .code 0 h
  refine ⟨?_, fun line hline => ⟨?_, ?_⟩⟩
  · rw [hscan, List.map_map]
    rfl
  · rw [hscan]
    exact List.mem_map_of_mem hline
  · have hstate : Lexical.code.afterLines (views.take line.row) =
        (Lexical.code.afterLines (lines.take line.row)).settled :=
      afterLines_take_map_code .code 0 h line.row
    have hregions := Lexical.regions_view
      (Lexical.code.afterLines (lines.take line.row)) line.raw
    rw [← code_of_mem_scanLines hline, ← hstate] at hregions
    exact congrArg Prod.fst hregions

/-- A comment over two lines, an opener and a quote inside of literals, escaped quotes, and a
literal that its line leaves open. -/
theorem scanLines_code_idempotent_quoted :
    let lines := ["a /* \" ' //".toList, "b */ = \"/* \\\" ' \" / '\\'' // \"".toList,
      "c = \"// */ d".toList, "e".toList]
    let views := ["a          ".toList, "     = \"        \" / '  '     ".toList,
      "c = \"       ".toList, "e".toList]
    (∀ raw ∈ lines, raw.getLast? ≠ some '\\') ∧ (scanLines lines).map CodeLine.code = views ∧
      (scanLines views).map CodeLine.code = views := by
  intro lines views
  have hlines : ∀ raw ∈ lines, raw.getLast? ≠ some '\\' := by decide +kernel
  have hviews : (scanLines lines).map CodeLine.code = views := by decide +kernel
  have hagain := (scanLines_code_idempotent hlines).1
  rw [hviews] at hagain
  exact ⟨hlines, hviews, hagain⟩

/-- With a literal that goes on to the next line the second scan takes its closing quote for an
opening one. -/
example :
    let lines := ["\"a\\".toList, "b\" c".toList]
    let views := (scanLines lines).map CodeLine.code
    views = ["\"  ".toList, " \" c".toList] ∧
      (scanLines views).map CodeLine.code = ["\"  ".toList, " \"  ".toList] := by
  decide +kernel

end DefectScan
