import DefectScan.Proofs.BraceDepth
import DefectScan.Proofs.CommentInfluence
import Mathlib.Data.List.Basic

/-!
# What the tracker of bodies keeps

The tracker reads a line character by character. In between it holds the open bodies and the text
since the last brace or semicolon, and the next opening brace is judged by the header and that text
together. Whatever lines are read, only the outermost open body can be that of a function, since a
function is recognised outside all bodies only, and the header is a text without braces, semicolons
and outer blanks. So a declaration that the body check reports stands outside all bodies or in a
function, and in no struct or union.
-/

namespace DefectScan

open Text

/-! ### Trimmed texts -/

namespace Text

/-- A trimmed text has no blank at its end. -/
theorem any_isBlank_getLast?_trim (s : List Char) : (trim s).getLast?.any isBlank = false := by
  have hhead := List.head?_dropWhile_not isBlank (trimStart s).reverse
  rw [trim, trimEnd, List.getLast?_reverse]
  cases h : ((trimStart s).reverse.dropWhile isBlank).head? with
  | none => rfl
  | some c => simpa [h] using hhead

/-- A trimmed text has no blank at its start. -/
theorem any_isBlank_head?_trim (s : List Char) : (trim s).head?.any isBlank = false := by
  have hhead := List.head?_dropWhile_not isBlank s
  have hprefix : trim s <+: trimStart s := by
    rw [trim, trimEnd, ← List.reverse_suffix, List.reverse_reverse]
    exact List.dropWhile_suffix _
  cases h : (trim s).head? with
  | none => rfl
  | some c =>
    obtain ⟨r, hr⟩ := List.head?_eq_some_iff.1 h
    obtain ⟨back, hback⟩ := hprefix
    rw [← trimStart, ← hback, hr] at hhead
    simpa using hhead

theorem mem_of_mem_trim {c : Char} {s : List Char} (h : c ∈ trim s) : c ∈ s := by
  obtain ⟨front, back, hs, -, -⟩ := exists_eq_append_trim s
  rw [hs]
  exact List.mem_append_right front (List.mem_append_left back h)

end Text

namespace Bodies

/-! ### Reading character by character -/

/-- A brace or a semicolon, at which a header ends. -/
def isDelimiter (c : Char) : Bool := c == '{' || c == '}' || c == ';'

/-- A line in the middle of being read. -/
structure Reading where
  /-- The bodies so far, with the header of the lines before. -/
  bodies : Bodies
  /-- What was read since the last brace or semicolon of the line, last character first. -/
  seen : List Char := []

namespace Reading

/-- Read one more character. -/
def next (r : Reading) (c : Char) : Reading :=
  if c = '{' then ⟨{ stack := r.bodies.kindAfter r.seen.reverse :: r.bodies.stack }, []⟩
  else if c = '}' then ⟨{ stack := r.bodies.stack.tail }, []⟩
  else if c = ';' then ⟨{ stack := r.bodies.stack }, []⟩
  else ⟨r.bodies, c :: r.seen⟩

/-- The bodies at the end of the line. -/
def finish (r : Reading) : Bodies := r.bodies.extend r.seen.reverse

/-- All that one more character can do. -/
theorem next_cases (r : Reading) (c : Char) :
    (c = '{' ∧ r.next c = ⟨{ stack := r.bodies.kindAfter r.seen.reverse :: r.bodies.stack }, []⟩) ∨
      (c = '}' ∧ r.next c = ⟨{ stack := r.bodies.stack.tail }, []⟩) ∨
      (c = ';' ∧ r.next c = ⟨{ stack := r.bodies.stack }, []⟩) ∨
      (isDelimiter c = false ∧ r.next c = ⟨r.bodies, c :: r.seen⟩) := by
  unfold next
  by_cases hopen : c = '{'
  · exact .inl ⟨hopen, if_pos hopen⟩
  · rw [if_neg hopen]
    by_cases hclose : c = '}'
    · exact .inr (.inl ⟨hclose, if_pos hclose⟩)
    · rw [if_neg hclose]
      by_cases hend : c = ';'
      · exact .inr (.inr (.inl ⟨hend, if_pos hend⟩))
      · exact .inr (.inr (.inr ⟨by simp [isDelimiter, hopen, hclose, hend], if_neg hend⟩))

end Reading

/-- Reading a text is reading its characters one by one. -/
theorem readFrom_eq_finish_foldl (b : Bodies) (seen s : List Char) :
    b.readFrom seen s = (s.foldl Reading.next ⟨b, seen⟩).finish := by
  induction s generalizing b seen with
  | nil => rfl
  | cons c s ih =>
    rw [readFrom, List.foldl_cons, Reading.next]
    simp only [ih]
    split
    · rfl
    · split
      · rfl
      · split <;> rfl

/-! ### The invariant -/

/-- What holds of the open bodies and the header at the end of every line. -/
structure IsSound (b : Bodies) : Prop where
  /-- No body inside another one is that of a function. -/
  function_outermost : .function ∉ b.stack.dropLast
  /-- The header goes back to the last brace or semicolon. -/
  header_free : ∀ c ∈ b.header, isDelimiter c = false
  /-- The header has no outer blanks. -/
  header_trimmed : trim b.header = b.header

theorem isSound_empty : IsSound {} where
  function_outermost := by simp
  header_free := List.forall_mem_nil _
  header_trimmed := rfl

/-- A function is recognised outside all bodies only. -/
theorem stack_eq_nil_of_kindAfter {b : Bodies} {text : List Char}
    (h : b.kindAfter text = .function) : b.stack = [] := by
  unfold kindAfter at h
  dsimp only at h
  split at h
  · cases h
  · split at h
    · next hcond => exact List.isEmpty_iff.1 (Bool.and_eq_true_iff.1 hcond).1
    · cases h

namespace IsSound

variable {b : Bodies}

/-- A directive, a brace or a semicolon ends the header. -/
theorem of_stack {stack : List BodyKind} (h : .function ∉ stack.dropLast) :
    IsSound { stack } :=
  { isSound_empty with function_outermost := h }

theorem opened (h : b.IsSound) (text : List Char) :
    .function ∉ (b.kindAfter text :: b.stack).dropLast := by
  cases hstack : b.stack with
  | nil => simp
  | cons outer stack =>
    have hkind : b.kindAfter text ≠ .function := by
      intro hfunction
      rw [stack_eq_nil_of_kindAfter hfunction] at hstack
      cases hstack
    rw [List.dropLast_cons_of_ne_nil (List.cons_ne_nil _ _), List.mem_cons, not_or, ← hstack]
    exact ⟨hkind.symm, h.function_outermost⟩

theorem closed (h : b.IsSound) : .function ∉ b.stack.tail.dropLast := by
  rw [← List.tail_dropLast]
  exact fun hm => h.function_outermost (List.mem_of_mem_tail hm)

theorem extend (h : b.IsSound) {text : List Char} (htext : ∀ c ∈ text, isDelimiter c = false) :
    (b.extend text).IsSound := by
  unfold Bodies.extend
  split
  · exact h
  · refine ⟨h.function_outermost, fun c hc => ?_, trim_trim _⟩
    rcases List.mem_append.1 (mem_of_mem_trim hc) with hc | hc
    · exact h.header_free c hc
    · rcases List.mem_cons.1 hc with rfl | hc
      · rfl
      · exact htext c (mem_of_mem_trim hc)

/-- One more character keeps the bodies sound and what is seen free of delimiters. -/
theorem next {r : Reading} (h : r.bodies.IsSound) (hseen : ∀ c ∈ r.seen, isDelimiter c = false)
    (c : Char) :
    (r.next c).bodies.IsSound ∧ ∀ d ∈ (r.next c).seen, isDelimiter d = false := by
  rcases r.next_cases c with ⟨-, hnext⟩ | ⟨-, hnext⟩ | ⟨-, hnext⟩ | ⟨hc, hnext⟩
  · rw [hnext]
    exact ⟨of_stack (h.opened _), List.forall_mem_nil _⟩
  · rw [hnext]
    exact ⟨of_stack h.closed, List.forall_mem_nil _⟩
  · rw [hnext]
    exact ⟨of_stack h.function_outermost, List.forall_mem_nil _⟩
  · rw [hnext]
    exact ⟨h, List.forall_mem_cons.2 ⟨hc, hseen⟩⟩

theorem foldl_next {r : Reading} (h : r.bodies.IsSound)
    (hseen : ∀ c ∈ r.seen, isDelimiter c = false) (s : List Char) :
    (s.foldl Reading.next r).finish.IsSound := by
  induction s generalizing r with
  | nil => exact h.extend fun c hc => hseen c (List.mem_reverse.1 hc)
  | cons c s ih =>
    obtain ⟨hbodies, hseen⟩ := h.next hseen c
    exact ih hbodies hseen

theorem read (h : b.IsSound) (line : CodeLine) : (b.read line).IsSound := by
  unfold Bodies.read
  split
  · exact of_stack h.function_outermost
  · rw [readFrom_eq_finish_foldl]
    exact foldl_next (r := ⟨b, []⟩) h (List.forall_mem_nil _) line.code

theorem readLines (h : b.IsSound) (lines : List CodeLine) : (b.readLines lines).IsSound := by
  induction lines generalizing b with
  | nil => exact h
  | cons line lines ih => exact ih (h.read line)

/-- A function body is the outermost one. -/
theorem eq_length_of_getElem? (h : b.IsSound) {i : Nat} (hi : b.stack[i]? = some .function) :
    i + 1 = b.stack.length := by
  have hlt : i < b.stack.length := (List.getElem?_eq_some_iff.1 hi).1
  by_contra hne
  have hinner : i < b.stack.dropLast.length := by
    rw [List.length_dropLast]
    omega
  refine h.function_outermost (List.mem_iff_getElem?.2 ⟨i, ?_⟩)
  rw [List.getElem?_dropLast, if_pos (by omega), hi]

/-- Some body is that of a function if and only if the outermost one is. -/
theorem inFunction_iff (h : b.IsSound) :
    b.inFunction = true ↔ b.stack.getLast? = some .function := by
  rw [inFunction, List.contains_iff_mem]
  constructor
  · intro hm
    obtain ⟨i, hi⟩ := List.mem_iff_getElem?.1 hm
    have hlast := h.eq_length_of_getElem? hi
    rwa [List.getLast?_eq_getElem?, ← hlast, Nat.add_sub_cancel]
  · exact List.mem_of_getLast?

theorem count_function_le_one (h : b.IsSound) : b.stack.count .function ≤ 1 := by
  have hinner : b.stack.dropLast.count .function = 0 := List.count_eq_zero.2 h.function_outermost
  rcases List.eq_nil_or_concat b.stack with hstack | ⟨inner, outer, hstack⟩
  · simp [hstack]
  · rw [List.concat_eq_append] at hstack
    rw [hstack, List.dropLast_concat] at hinner
    rw [hstack, List.count_append, hinner, Nat.zero_add]
    exact List.count_le_length

end IsSound

/-- No body is open if and only if every brace is closed. -/
theorem stack_readLines_eq_nil_iff (lines : List CodeLine) :
    (Bodies.readLines {} lines).stack = [] ↔ braceDepth lines = 0 := by
  rw [← length_openAfter_filter_isChecked, ← length_stack_readLines (b := {}) rfl none lines,
    List.length_eq_zero_iff]

/-- A line with a defect of the body check stands outside all bodies or in a function, and in no
struct. -/
theorem of_lineDefect? {b : Bodies} {line : CodeLine} {d : Defect}
    (h : b.lineDefect? line = some d) :
    (b.stack = [] ∨ b.inFunction = true) ∧ .struct ∉ b.stack := by
  unfold lineDefect? at h
  split at h
  · next hcond =>
    simp only [Bool.and_eq_true, Bool.or_eq_true, Bool.not_eq_true'] at hcond
    obtain ⟨⟨-, hstruct⟩, hplace⟩ := hcond
    have hstack : b.stack = [] ∨ b.inFunction = true :=
      hplace.symm.imp_left List.isEmpty_iff.1
    exact ⟨hstack, fun hm => by simp [inStruct, hm] at hstruct⟩
  · cases h

end Bodies

/-- After any lines only the outermost body can be a function's, and a declaration that is reported
as unset stands in no struct. -/
theorem tracked_bodies_sound :
    (∀ scanned : List CodeLine,
      let b := Bodies.readLines {} scanned
      b.stack.count .function ≤ 1 ∧
        (∀ i : Nat, b.stack[i]? = some .function → i + 1 = b.stack.length) ∧
        (b.inFunction = true ↔ b.stack.getLast? = some .function) ∧
        (∀ c ∈ b.header, c ≠ '{' ∧ c ≠ '}' ∧ c ≠ ';') ∧
        b.header.head?.any isBlank = false ∧ b.header.getLast?.any isBlank = false) ∧
      ∀ (path : String) (lines : List (List Char)),
        ∀ issue ∈ (bodyCheck lines).map (Sighting.issue path), issue.category = .uninitialized →
          ∃ (row : Nat) (line : CodeLine),
            issue.line = row + 1 ∧ (scanLines lines)[row]? = some line ∧
              let above := (scanLines lines).take row
              let b := Bodies.readLines {} above
              (braceDepth above = 0 ∨ b.stack.getLast? = some .function) ∧ .struct ∉ b.stack := by
  refine ⟨fun scanned => ?_, fun path lines issue hissue hcategory => ?_⟩
  · have hsound := Bodies.isSound_empty.readLines scanned
    refine ⟨hsound.count_function_le_one, fun i => hsound.eq_length_of_getElem?,
      hsound.inFunction_iff, fun c hc => ?_, ?_, ?_⟩
    · simpa [Bodies.isDelimiter, and_assoc] using hsound.header_free c hc
    · rw [← hsound.header_trimmed]
      exact any_isBlank_head?_trim _
    · rw [← hsound.header_trimmed]
      exact any_isBlank_getLast?_trim _
  · obtain ⟨s, hs, rfl⟩ := List.mem_map.1 hissue
    rcases List.mem_append.1 hs with hs | hs
    · obtain ⟨above, line, below, hlines, hrow, hdefect⟩ := exists_split_of_mem_bodySightings hs
      have hline : (scanLines lines)[above.length]? = some line := by simp [hlines]
      have habove : (scanLines lines).take above.length = above := by simp [hlines]
      obtain ⟨hplace, hstruct⟩ := Bodies.of_lineDefect? hdefect
      refine ⟨above.length, line, ?_, hline, ?_⟩
      · rw [Sighting.issue, Issue.atRow, hrow, row_of_getElem?_scanLines hline]
      · dsimp only
        rw [habove, ← Bodies.stack_readLines_eq_nil_iff,
          ← (Bodies.isSound_empty.readLines above).inFunction_iff]
        exact ⟨hplace, hstruct⟩
    · have hheader := category_of_mem_missingHeaders hs
      exact absurd (hheader.symm.trans hcategory) (by decide)

/-- The members of a struct inside a function are passed over, and the variable behind it, in a
block of that function, is reported. -/
theorem tracked_bodies_sound_behind_struct :
    let lines := ["int f(int a)".toList, "\x7b if (a) \x7b struct s \x7b".toList, "int m;".toList,
      "\x7d; ; /* \x7d */".toList, "int x;".toList]
    let issue := Sighting.issue "a.c" ⟨4, .unsetDeclarations [['x']]⟩
    let b := Bodies.readLines {} ((scanLines lines).take 4)
    (bodyCheck lines).map (Sighting.issue "a.c") = [issue] ∧ b.stack = [.block, .function] ∧
      (Bodies.readLines {} ((scanLines lines).take 2)).stack = [.struct, .block, .function] ∧
      b.inFunction = true ∧
      ∃ (row : Nat) (line : CodeLine),
        issue.line = row + 1 ∧ (scanLines lines)[row]? = some line ∧
          .struct ∉ (Bodies.readLines {} ((scanLines lines).take row)).stack := by
  intro lines issue b
  have hissues : (bodyCheck lines).map (Sighting.issue "a.c") = [issue] := by decide +kernel
  have hstack : b.stack = [.block, .function] := by decide +kernel
  obtain ⟨-, -, hfunction, -⟩ := tracked_bodies_sound.1 ((scanLines lines).take 4)
  obtain ⟨row, line, hrow, hline, -, hstruct⟩ :=
    tracked_bodies_sound.2 "a.c" lines issue (by simp [hissues]) rfl
  have hinside : b.inFunction = true := hfunction.2 (congrArg List.getLast? hstack)
  exact ⟨hissues, hstack, by decide +kernel, hinside, row, line, hrow, hline, hstruct⟩

end DefectScan
