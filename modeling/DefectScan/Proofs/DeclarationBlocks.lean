import DefectScan.Proofs.BraceDepth
import DefectScan.Proofs.Entries

/-!
# The blocks that declarations are stored in

The scope check reads all braces of a line before it stores what the line declares. The variables
of a declaration line thus go to the block that is open behind the line, which need not be the one
in which they are written: a brace behind the declaration can close that block or open another.
Both are told by the braces that are open, and the main statement says for which lines the two are
the same.
-/

namespace DefectScan

open Text

/-! ### The declaration of a line -/

/-- The blanks and braces in front of the declaration of a line. -/
def declarationLead (code : List Char) : List Char :=
  code.takeWhile fun c => isBlank c || c == '{' || c == '}'

/-- The text of a line from the first word of its declaration on. -/
def declarationText (code : List Char) : List Char :=
  code.dropWhile fun c => isBlank c || c == '{' || c == '}'

theorem declarationLead_append_declarationText (code : List Char) :
    declarationLead code ++ declarationText code = code :=
  List.takeWhile_append_dropWhile

/-- Whether a text closes the blocks that it opens, `nested` of them already, and closes no block
around it. -/
def closesItself (outermost : Bool) (nested : Nat) : List Char → Bool
  | [] => nested == 0
  | c :: s =>
    if c = '{' then closesItself outermost (nested + 1) s
    else if c = '}' then
      if nested = 0 then outermost && closesItself outermost 0 s
      else closesItself outermost (nested - 1) s
    else closesItself outermost nested s

/-! ### Open braces -/

theorem openOnLine_append (above : Option CodeLine) (line : CodeLine) (column : Nat)
    (stack : List Brace) (s t : List Char) :
    openOnLine above line column stack (s ++ t) =
      openOnLine above line (column + s.length) (openOnLine above line column stack s) t := by
  induction s generalizing column stack with
  | nil => rfl
  | cons c s ih =>
    have hcolumn : column + (c :: s).length = column + 1 + s.length := by
      rw [List.length_cons]
      omega
    rw [List.cons_append, openOnLine, openOnLine, hcolumn]
    split
    · exact ih _ _
    · split <;> exact ih _ _

theorem openAfter_concat (above : Option CodeLine) (stack : List Brace) (lines : List CodeLine)
    (line : CodeLine) :
    openAfter above stack (lines ++ [line]) =
      openOnLine (lines.getLast?.or above) line 0 (openAfter above stack lines) line.code := by
  induction lines generalizing above stack with
  | nil => rfl
  | cons first lines ih =>
    have habove : (first :: lines).getLast?.or above = lines.getLast?.or (some first) := by
      rw [List.getLast?_cons]
      cases lines.getLast? <;> rfl
    rw [List.cons_append, openAfter, ih, openAfter, habove]

/-- A text leaves some of the open braces and puts braces of its own on top of them. -/
theorem exists_openOnLine_eq (above : Option CodeLine) (line : CodeLine) (column : Nat)
    (stack : List Brace) (s : List Char) :
    ∃ opened closed, openOnLine above line column stack s = opened ++ stack.drop closed ∧
      ∀ brace ∈ opened, brace.line = line ∧ column ≤ brace.column ∧
        brace.column < column + s.length := by
  induction s generalizing column stack with
  | nil => exact ⟨[], 0, rfl, by simp⟩
  | cons c s ih =>
    have hbound : ∀ brace : Brace,
        (brace.line = line ∧ column + 1 ≤ brace.column ∧
          brace.column < column + 1 + s.length) →
        brace.line = line ∧ column ≤ brace.column ∧
          brace.column < column + (c :: s).length := by
      rintro brace ⟨hline, hfrom, hto⟩
      rw [List.length_cons]
      exact ⟨hline, by omega, by omega⟩
    rw [openOnLine]
    split
    · obtain ⟨opened, closed, hstack, hopened⟩ := ih (column + 1) (⟨above, line, column⟩ :: stack)
      rw [hstack]
      cases closed with
      | zero =>
        refine ⟨opened ++ [⟨above, line, column⟩], 0, by simp, fun brace hbrace => ?_⟩
        rcases List.mem_append.1 hbrace with hbrace | hbrace
        · exact hbound brace (hopened brace hbrace)
        · rw [List.mem_singleton.1 hbrace]
          exact ⟨rfl, Nat.le_refl _, by simp⟩
      | succ closed =>
        exact ⟨opened, closed, rfl, fun brace hbrace => hbound brace (hopened brace hbrace)⟩
    · split
      · obtain ⟨opened, closed, hstack, hopened⟩ := ih (column + 1) stack.tail
        refine ⟨opened, closed + 1, ?_, fun brace hbrace => hbound brace (hopened brace hbrace)⟩
        rw [hstack, ← List.drop_one, List.drop_drop, Nat.add_comm]
      · obtain ⟨opened, closed, hstack, hopened⟩ := ih (column + 1) stack
        exact ⟨opened, closed, hstack, fun brace hbrace => hbound brace (hopened brace hbrace)⟩

/-- The braces that are open after some lines stand on them. -/
theorem line_mem_of_mem_openAfter {above : Option CodeLine} {stack : List Brace}
    {lines : List CodeLine} {brace : Brace} (h : brace ∈ openAfter above stack lines) :
    brace ∈ stack ∨ brace.line ∈ lines := by
  induction lines generalizing above stack with
  | nil => exact .inl h
  | cons line lines ih =>
    rcases ih h with hbrace | hbrace
    · obtain ⟨opened, closed, hstack, hopened⟩ := exists_openOnLine_eq above line 0 stack line.code
      rw [hstack] at hbrace
      rcases List.mem_append.1 hbrace with hbrace | hbrace
      · exact .inr (List.mem_cons.2 (.inl (hopened brace hbrace).1))
      · exact .inl (List.mem_of_mem_drop hbrace)
    · exact .inr (List.mem_cons_of_mem line hbrace)

/-- A brace that is closed does not come back. -/
theorem openOnLine_ne_cons (above : Option CodeLine) {line : CodeLine} {column : Nat}
    {brace : Brace} (hbrace : brace.line = line → brace.column < column) (outer : List Brace)
    (s : List Char) : openOnLine above line column outer s ≠ brace :: outer := by
  intro h
  obtain ⟨opened, closed, hstack, hopened⟩ := exists_openOnLine_eq above line column outer s
  rw [hstack] at h
  cases opened with
  | nil =>
    have hlength := congrArg List.length h
    rw [List.nil_append, List.length_drop, List.length_cons] at hlength
    omega
  | cons first opened =>
    obtain ⟨hline, hfrom, -⟩ := hopened first List.mem_cons_self
    obtain ⟨rfl, -⟩ := List.cons.inj h
    have := hbrace hline
    omega

/-- Behind a text the same braces are open as in front of it if and only if it closes just what it
opens. -/
theorem openOnLine_eq_iff_closesItself (above : Option CodeLine) {line : CodeLine} {column : Nat}
    {stack : List Brace} (hstack : ∀ brace ∈ stack, brace.line = line → brace.column < column)
    (opened : List Brace) (s : List Char) :
    openOnLine above line column (opened ++ stack) s = stack ↔
      closesItself stack.isEmpty opened.length s = true := by
  induction s generalizing column opened with
  | nil => simp [openOnLine, closesItself]
  | cons c s ih =>
    have hnext : ∀ brace ∈ stack, brace.line = line → brace.column < column + 1 :=
      fun brace hbrace hline => Nat.lt_succ_of_lt (hstack brace hbrace hline)
    rw [openOnLine, closesItself]
    by_cases hopen : c = '{'
    · rw [if_pos hopen, if_pos hopen]
      exact ih hnext (⟨above, line, column⟩ :: opened)
    · rw [if_neg hopen, if_neg hopen]
      by_cases hclose : c = '}'
      · rw [if_pos hclose, if_pos hclose]
        cases opened with
        | cons first opened => exact ih hnext opened
        | nil =>
          cases stack with
          | nil => exact ih hnext []
          | cons brace outer =>
            have hbrace := hnext brace List.mem_cons_self
            simpa using openOnLine_ne_cons above hbrace outer s
      · rw [if_neg hclose, if_neg hclose]
        exact ih hnext opened

/-! ### Where a line stores its variables -/

/-- The braces that are open where the declaration of a line begins, after the lines before it. -/
def openAtDeclaration (lines : List CodeLine) (line : CodeLine) : List Brace :=
  openOnLine lines.getLast? line 0 (openAfter none [] lines) (declarationLead line.code)

/-- The braces that are open behind a line, seen from its declaration. -/
theorem openAfter_concat_eq (lines : List CodeLine) (line : CodeLine) :
    openAfter none [] (lines ++ [line]) =
      openOnLine lines.getLast? line (declarationLead line.code).length
        (openAtDeclaration lines line) (declarationText line.code) := by
  have hsplit := openOnLine_append lines.getLast? line 0 (openAfter none [] lines)
    (declarationLead line.code) (declarationText line.code)
  rw [declarationLead_append_declarationText, Nat.zero_add] at hsplit
  rw [openAfter_concat, Option.or_none, hsplit]
  rfl

/-- Behind the declaration of a line no brace stands that is open in front of it. -/
theorem column_lt_of_mem_openAtDeclaration {lines : List CodeLine} {line : CodeLine}
    (hrows : ∀ earlier ∈ lines, earlier.row < line.row) {brace : Brace}
    (h : brace ∈ openAtDeclaration lines line) (hline : brace.line = line) :
    brace.column < (declarationLead line.code).length := by
  obtain ⟨opened, closed, hstack, hopened⟩ := exists_openOnLine_eq lines.getLast? line 0
    (openAfter none [] lines) (declarationLead line.code)
  rw [openAtDeclaration, hstack] at h
  rcases List.mem_append.1 h with h | h
  · simpa using (hopened brace h).2.2
  · rcases line_mem_of_mem_openAfter (List.mem_of_mem_drop h) with h | h
    · cases h
    · have := hrows brace.line h
      rw [hline] at this
      exact absurd this (Nat.lt_irrefl _)

/-- The depth at the checks of a line is the number of braces that are open behind it. -/
theorem depth_enterLine (flow : Bool) (lines : List CodeLine) (line : CodeLine) :
    ((Scope.afterLines flow {} lines).enterLine line).depth =
      (openAfter none [] (lines ++ [line])).length := by
  have hflags := congrArg List.length (Scope.map_isStruct_afterLines flow (lines ++ [line]))
  rw [List.length_map, List.length_map, Scope.afterLines_concat] at hflags
  have hbraces := Scope.sameBlocks_afterLine flow (Scope.afterLines flow {} lines) line
  have hparameters := Scope.sameBlocks_seedParameters
    ((Scope.afterLines flow {} lines).trackBraces line.code) line.code
  rw [← hflags]
  exact (hbraces.symm.trans hparameters).depth_eq

/-- A declaration is stored in the block open behind its line: its own exactly if the line goes on
to close just what it opens. -/
theorem declared_in_own_block_iff (flow : Bool) (lines : List (List Char))
    {pre post : List CodeLine} {line : CodeLine}
    (hlines : (scanLines lines).filter CodeLine.isChecked = pre ++ line :: post)
    (hline : isLikelyDeclaration line.code = true) :
    let start := Scope.afterLines flow {} pre
    let entered := start.enterLine line
    let declared := (entered.declaredOn line.code).map (Variable.sinceRow line.row)
    let written := openAtDeclaration pre line
    let stored := openAfter none [] (pre ++ [line])
    entered.depth = stored.length ∧
      (∀ (level : Nat) (name : List Char), (start.afterLine flow line).slot? level name =
        (if level = stored.length then lastNamed? name declared else none).or
          (entered.slot? level name)) ∧
      written.length =
        (pre.flatMap CodeLine.code ++ declarationLead line.code).foldl stepDepth 0 ∧
      stored.length = (declarationText line.code).foldl stepDepth written.length ∧
      (stored = written ↔ closesItself written.isEmpty 0 (declarationText line.code) = true) := by
  intro start entered declared written stored
  have hrows : ∀ earlier ∈ pre, earlier.row < line.row := by
    have hordered := (pairwise_row_scanLines lines).filter CodeLine.isChecked
    rw [hlines] at hordered
    exact fun earlier hearlier =>
      (List.pairwise_append.1 hordered).2.2 earlier hearlier line List.mem_cons_self
  have hdepth : entered.depth = stored.length := depth_enterLine flow pre line
  have hstored : stored = openOnLine pre.getLast? line (declarationLead line.code).length written
      (declarationText line.code) := openAfter_concat_eq pre line
  refine ⟨hdepth, fun level name => ?_, ?_, ?_, ?_⟩
  · have hafter : start.afterLine flow line = entered.declare declared := by
      rw [← Scope.declareLine_eq_declare]
      exact if_pos hline
    rw [hafter, Scope.slot?_declare, hdepth]
  · rw [List.foldl_append, ← List.length_nil (α := Brace), ← length_openAfter none [] pre,
      ← length_openOnLine pre.getLast? line 0]
    rfl
  · rw [hstored, length_openOnLine]
  · rw [hstored]
    exact openOnLine_eq_iff_closesItself pre.getLast?
      (fun brace hbrace => column_lt_of_mem_openAtDeclaration hrows hbrace) [] _

/-- The line opens a block in front of its declaration; behind it the braces of an initializer
match. -/
theorem declared_in_own_block_initialized :
    let texts := ["int main(void) \x7b", "    \x7b int b, a[2] = \x7b1, 2\x7d;"].map String.toList
    let first : CodeLine := ⟨0, "int main(void) \x7b".toList, "int main(void) \x7b".toList⟩
    let line : CodeLine := ⟨1, "    \x7b int b, a[2] = \x7b1, 2\x7d;".toList,
      "    \x7b int b, a[2] = \x7b1, 2\x7d;".toList⟩
    let stored := openAfter none [] [first, line]
    (scanLines texts).filter CodeLine.isChecked = [first, line] ∧
      isLikelyDeclaration line.code = true ∧ stored = openAtDeclaration [first] line ∧
      stored.length = 2 ∧
      (Scope.afterLines false {} [first, line]).slot? 2 ['b'] =
        some { name := ['b'], typeName := "int".toList } := by
  intro texts first line stored
  have hlines : (scanLines texts).filter CodeLine.isChecked = [first] ++ line :: [] := by
    decide +kernel
  have hline : isLikelyDeclaration line.code = true := by decide +kernel
  have hall := declared_in_own_block_iff false texts hlines hline
  have hkept : stored = openAtDeclaration [first] line := hall.2.2.2.2.2 (by decide +kernel)
  exact ⟨hlines, hline, hkept, by decide +kernel, by decide +kernel⟩

/-- A variable of a block that ends on its line is stored in the block around it, where the next
line finds it. -/
theorem declared_variable_outlives_its_block :
    let lines := ["int main(void) \x7b", "    \x7b int tmp; \x7d", "    return tmp;", "\x7d"].map
      String.toList
    let checked := (scanLines lines).filter CodeLine.isChecked
    let line : CodeLine := ⟨1, "    \x7b int tmp; \x7d".toList, "    \x7b int tmp; \x7d".toList⟩
    checked[1]? = some line ∧ isLikelyDeclaration line.code = true ∧
      (openAtDeclaration (checked.take 1) line).length = 2 ∧
      (Scope.afterLines false {} (checked.take 2)).slot? 1 "tmp".toList =
        some { name := "tmp".toList, typeName := "int".toList } ∧
      Sighting.issue "a.c" ⟨2, .unsetUse "tmp".toList⟩ ∈
        (scopeCheck false lines).map (Sighting.issue "a.c") := by
  decide +kernel

end DefectScan
