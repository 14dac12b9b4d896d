import DefectScan.Analysis
import DefectScan.Proofs.Braces
import DefectScan.Proofs.CodeView
import DefectScan.Proofs.TextLines
import Mathlib.Data.Option.Basic

/-!
# Rows of sites and of findings

A text has one line more than line feeds, and encoding it keeps their number, so a node of a
syntax tree never starts below the last line. The text engines take their rows from the numbered
lines. Both facts are carried through every engine: whatever is found, is found on a row that the
file has.
-/

namespace DefectScan

open Text

/-! ### Line feeds -/

private theorem ofNat_ne_lineFeed {n : Nat} (hlow : 10 < n) (hhigh : n < 256) :
    UInt8.ofNat n ≠ 10 := by
  intro he
  have := congrArg UInt8.toNat he
  simp at this
  omega

/-- The byte of a line feed occurs in the encoding of the line feed only. -/
theorem Text.count_utf8EncodeChar (c : Char) :
    (String.utf8EncodeChar c).count 10 = if c = '\n' then 1 else 0 := by
  have hc : c = '\n' ↔ c.val.toNat = 10 := by
    rw [← Char.toNat_inj]
    rfl
  simp only [String.utf8EncodeChar, hc]
  generalize c.val.toNat = v
  by_cases h : v ≤ 0x7f
  · have hb : UInt8.ofNat v = 10 ↔ v = 10 := by
      rw [← UInt8.toNat_inj]
      simp
      omega
    simp [h, List.count_cons, hb]
  · have hv : v ≠ 10 := by omega
    rw [if_neg h, if_neg hv, List.count_eq_zero]
    intro hm
    split at hm
    · simp only [List.mem_cons, List.not_mem_nil, or_false] at hm
      rcases hm with hm | hm <;> exact ofNat_ne_lineFeed (by omega) (by omega) hm.symm
    · split at hm
      · simp only [List.mem_cons, List.not_mem_nil, or_false] at hm
        rcases hm with hm | hm | hm <;> exact ofNat_ne_lineFeed (by omega) (by omega) hm.symm
      · simp only [List.mem_cons, List.not_mem_nil, or_false] at hm
        rcases hm with hm | hm | hm | hm <;>
          exact ofNat_ne_lineFeed (by omega) (by omega) hm.symm

/-- Encoding keeps the number of line feeds. -/
theorem Text.count_utf8 (s : List Char) : (utf8 s).count 10 = s.count '\n' := by
  induction s with
  | nil => rfl
  | cons c s ih =>
    have hstep : utf8 (c :: s) = String.utf8EncodeChar c ++ utf8 s := rfl
    rw [hstep, List.count_append, count_utf8EncodeChar, ih, List.count_cons]
    by_cases h : c = '\n' <;> simp [h, Nat.add_comm]

/-! ### Nodes -/

/-- A tree whose bytes and lines are those of a text. -/
structure SyntaxTree.IsOver (tree : SyntaxTree) (text : List Char) : Prop where
  /-- The bytes are the encoding of the text. -/
  bytes : tree.bytes = (utf8 text).toArray
  /-- The lines are the lines of the text. -/
  lines : tree.lines = splitLines text

/-- A parser builds its trees over the text it was given. -/
theorem Parser.isOver_of_parse {parser : Parser} {text : List Char} {tree : SyntaxTree}
    (h : parser.parse text = .ok tree) : tree.IsOver text := by
  unfold Parser.parse at h
  split at h
  · cases h
  · split at h
    · cases h
    · cases h
    · dsimp only at h
      split at h
      · cases h
      · cases h
        exact ⟨rfl, rfl⟩

/-- A node starts on a line of its text. -/
theorem SyntaxTree.IsOver.row_lt {tree : SyntaxTree} {text : List Char} (h : tree.IsOver text)
    (n : Node) : tree.row n < (splitLines text).length := by
  have hsub : (tree.before n).Sublist (utf8 text) := by
    rw [before, h.bytes]
    simpa using List.take_sublist n.start (utf8 text)
  have hcount : tree.row n ≤ (utf8 text).count 10 := hsub.count_le 10
  rw [length_splitLines, ← count_utf8]
  omega

namespace SyntaxTree

/-- Every occurrence of a name is the position of a node. -/
theorem exists_node_of_mem_usages {tree : SyntaxTree} {name : List Char} {p : Position}
    (h : p ∈ tree.usages name) : ∃ n, p = tree.position n := by
  obtain ⟨n, -, rfl⟩ := List.mem_map.1 h
  exact ⟨n, rfl⟩

/-- Every dereference of a name is the position of a node. -/
theorem exists_node_of_mem_dereferences {tree : SyntaxTree} {name : List Char} {p : Position}
    (h : p ∈ tree.dereferences name) : ∃ n, p = tree.position n := by
  simp only [dereferences, List.mem_filterMap, Option.bind_eq_bind, Option.bind_eq_some_iff] at h
  obtain ⟨_, -, argument, -, _, -, hp⟩ := h
  exact ⟨argument, (Option.some.inj hp).symm⟩

end SyntaxTree

/-! ### Tree checks -/

namespace SyntaxTree.IsOver

variable {tree : SyntaxTree} {text : List Char} (h : tree.IsOver text)
include h

/-- The calls of a tree stand on lines of its text. -/
theorem row_lt_of_mem_calls {calls : List Call} (hcalls : tree.calls = .ok calls) {call : Call}
    (hcall : call ∈ calls) : call.position.row < (splitLines text).length := by
  obtain ⟨n, -, hn⟩ := List.mem_filterMap.1 ((mem_iff_of_collect hcalls).1 hcall)
  obtain ⟨_, -, hn⟩ := Option.map_eq_some_iff.1 hn
  obtain ⟨_, -, rfl⟩ := map_eq_ok_iff.1 hn
  exact h.row_lt n

/-- The includes of a tree stand on lines of its text. -/
theorem row_lt_of_mem_includes {includes : List Include} (hincludes : tree.includes = .ok includes)
    {i : Include} (hi : i ∈ includes) : i.position.row < (splitLines text).length := by
  obtain ⟨n, -, hn⟩ := List.mem_filterMap.1 ((mem_iff_of_collect hincludes).1 hi)
  obtain ⟨_, -, hn⟩ := Option.map_eq_some_iff.1 hn
  obtain ⟨_, -, rfl⟩ := map_eq_ok_iff.1 hn
  exact h.row_lt n

/-- The loops of a tree stand on lines of its text. -/
theorem row_lt_of_mem_loops {loop : Loop} (hloop : loop ∈ tree.loops) :
    loop.position.row < (splitLines text).length := by
  obtain ⟨n, -, hn⟩ := List.mem_filterMap.1 hloop
  obtain ⟨_, -, rfl⟩ := Option.map_eq_some_iff.1 hn
  exact h.row_lt n

/-- The formatted calls of a tree stand on lines of its text. -/
theorem row_lt_of_mem_formatCalls {call : FormatCall} (hcall : call ∈ tree.formatCalls) :
    call.position.row < (splitLines text).length := by
  simp only [formatCalls, List.mem_filterMap, Option.bind_eq_bind,
    Option.bind_eq_some_iff] at hcall
  obtain ⟨n, -, _, -, _, -, _, -, hn⟩ := hcall
  cases hn
  exact h.row_lt n

end SyntaxTree.IsOver

/-- A missing header is reported on the row of a call. -/
theorem exists_call_of_mem_missingHeaders {table : HeaderTable} {calls : List Call}
    {includes : List Include} {s : Sighting} (h : s ∈ missingHeaders table calls includes) :
    ∃ call ∈ calls, s.row = call.position.row := by
  obtain ⟨call, hc, hs⟩ := List.mem_filterMap.1 h
  refine ⟨call, hc, ?_⟩
  dsimp only at hs
  split at hs
  · cases hs
  · cases hs
    rfl

/-- A misspelled header is reported on the row of an include. -/
theorem exists_include_of_mem_misspelledHeaders {includes : List Include} {s : Sighting}
    (h : s ∈ misspelledHeaders includes) : ∃ i ∈ includes, s.row = i.position.row := by
  obtain ⟨i, hi, hs⟩ := List.mem_filterMap.1 h
  refine ⟨i, hi, ?_⟩
  split at hs
  · cases hs
  · cases hs
    rfl

/-- A loop or format defect is reported on the row of a loop or of a formatted call. -/
theorem row_lt_of_mem_loopAndFormatCheck {ds : List Declaration} {loops : List Loop}
    {formats : List FormatCall} {count : Nat} (hl : ∀ loop ∈ loops, loop.position.row < count)
    (hf : ∀ call ∈ formats, call.position.row < count) {s : Sighting}
    (h : s ∈ loopAndFormatCheck ds loops formats) : s.row < count := by
  rcases List.mem_append.1 h with h | h
  · obtain ⟨loop, hm, rfl⟩ := List.mem_map.1 h
    exact hl loop (List.mem_filter.1 hm).1
  · obtain ⟨call, hm, hs⟩ := List.mem_flatMap.1 h
    obtain ⟨_, -, rfl⟩ := List.mem_map.1 hs
    exact hf call hm

/-- The rows on which a name is dereferenced are rows of nodes. -/
theorem SyntaxTree.exists_node_of_mem_derefRows {tree : SyntaxTree} {d : Declaration}
    {bound : Option Nat} {row : Nat} (h : row ∈ tree.derefRows d bound) :
    ∃ n, row = tree.row n := by
  obtain ⟨p, hp, rfl⟩ := List.mem_map.1 (List.mem_filter.1 h).1
  obtain ⟨n, rfl⟩ := exists_node_of_mem_dereferences hp
  exact ⟨n, rfl⟩

/-- The reads that count are uses. -/
theorem SyntaxTree.mem_of_mem_countedReads {flow : Bool} {uses : List Use} {u : Use}
    (h : u ∈ countedReads flow uses) : u ∈ uses := by
  unfold countedReads at h
  split at h
  · exact (List.takeWhile_sublist _).subset h
  · exact (List.mem_filter.1 h).1

/-- The reads of a variable that count are at nodes. -/
theorem SyntaxTree.exists_node_of_mem_countedReads {tree : SyntaxTree} {flow : Bool}
    {d : Declaration} {u : Use} (h : u ∈ countedReads flow (tree.usesOf d)) :
    ∃ n, u.position = tree.position n := by
  obtain ⟨p, hp, rfl⟩ := List.mem_map.1 (mem_of_mem_countedReads h)
  exact exists_node_of_mem_usages (List.mem_filter.1 hp).1

/-- What is wrong with the uses of a variable is reported on rows of nodes. -/
theorem SyntaxTree.exists_node_of_mem_useSightings {tree : SyntaxTree} {flow : Bool}
    {d : Declaration} {s : Sighting} (h : s ∈ tree.useSightings flow d) :
    ∃ n, s.row = tree.row n := by
  unfold useSightings at h
  split at h
  · rcases List.mem_append.1 h with h | h
    · obtain ⟨u, hu, rfl⟩ := List.mem_map.1 h
      obtain ⟨n, hn⟩ := exists_node_of_mem_countedReads hu
      exact ⟨n, congrArg Position.row hn⟩
    · split at h
      · obtain ⟨row, hr, rfl⟩ := List.mem_map.1 h
        exact exists_node_of_mem_derefRows hr
      · cases h
  · cases h

/-- Dereferences of null pointers are reported on rows of nodes. -/
theorem SyntaxTree.exists_node_of_mem_nullSightings {tree : SyntaxTree} {flow : Bool}
    {d : Declaration} {s : Sighting} (h : s ∈ tree.nullSightings flow d) :
    ∃ n, s.row = tree.row n := by
  unfold nullSightings at h
  split at h
  · obtain ⟨row, hr, rfl⟩ := List.mem_map.1 h
    exact exists_node_of_mem_derefRows hr
  · cases h

/-- The variable check reports on rows of nodes only. -/
theorem SyntaxTree.exists_node_of_mem_variableCheck {tree : SyntaxTree} {flow : Bool}
    {ds : List Declaration} {s : Sighting} (h : s ∈ tree.variableCheck flow ds) :
    ∃ n, s.row = tree.row n := by
  rcases List.mem_append.1 h with h | h
  · obtain ⟨g, -, hg⟩ := List.mem_flatMap.1 h
    obtain ⟨d, -, hd⟩ := List.mem_flatMap.1 hg
    exact exists_node_of_mem_useSightings hd
  · obtain ⟨d, -, hd⟩ := List.mem_flatMap.1 h
    exact exists_node_of_mem_nullSightings hd

/-! ### Text engines -/

/-- A call on a line stands on the row of the line. -/
theorem CodeLine.row_of_mem_calls {line : CodeLine} {call : Call} (h : call ∈ line.calls) :
    call.position.row = line.row := by
  unfold calls at h
  by_cases hdirective : line.isDirective = true
  · rw [if_pos hdirective] at h
    cases h
  · rw [if_neg hdirective] at h
    obtain ⟨p, -, h⟩ := List.mem_filterMap.1 h
    obtain ⟨_, -, h⟩ := Option.bind_eq_some_iff.1 h
    obtain ⟨_, -, h⟩ := Option.bind_eq_some_iff.1 h
    cases h
    rfl

/-- A step of the scope check is the step over a line after the lines before it. -/
theorem exists_split_of_mem_scopeStepsFrom {flow : Bool} {scope : Scope} {lines : List CodeLine}
    {step : ScopeStep} (h : step ∈ scopeStepsFrom flow scope lines) :
    ∃ pre line post, lines = pre ++ line :: post ∧
      step = ⟨line.row, (scope.afterLines flow pre).lineDefects flow line,
        (scope.afterLines flow pre).afterLine flow line⟩ := by
  induction lines generalizing scope with
  | nil => cases h
  | cons line lines ih =>
    rcases List.mem_cons.1 h with rfl | h
    · exact ⟨[], line, lines, rfl, rfl⟩
    · obtain ⟨pre, last, post, rfl, hstep⟩ := ih h
      exact ⟨line :: pre, last, post, rfl, hstep⟩

/-- A step of the scope check is the step from some scope over one of the lines. -/
theorem exists_line_of_mem_scopeStepsFrom {flow : Bool} {scope : Scope} {lines : List CodeLine}
    {step : ScopeStep} (h : step ∈ scopeStepsFrom flow scope lines) :
    ∃ line ∈ lines, ∃ start : Scope,
      step = ⟨line.row, start.lineDefects flow line, start.afterLine flow line⟩ := by
  obtain ⟨pre, line, post, rfl, hstep⟩ := exists_split_of_mem_scopeStepsFrom h
  exact ⟨line, List.mem_append_right _ List.mem_cons_self, _, hstep⟩

/-- Each report of a declaration is about a line, with the bodies in which that line begins. -/
theorem exists_split_of_mem_bodySightings {bodies : Bodies} {lines : List CodeLine} {s : Sighting}
    (h : s ∈ bodySightings bodies lines) :
    ∃ above line below, lines = above ++ line :: below ∧ s.row = line.row ∧
      (bodies.readLines above).lineDefect? line = some s.defect := by
  induction lines generalizing bodies with
  | nil => cases h
  | cons line lines ih =>
    rcases List.mem_append.1 h with h | h
    · obtain ⟨d, hd, rfl⟩ := Option.map_eq_some_iff.1 (Option.mem_toList.1 h)
      exact ⟨[], line, lines, rfl, rfl, hd⟩
    · obtain ⟨above, l, below, rfl, hrow, hdefect⟩ := ih h
      exact ⟨line :: above, l, below, rfl, hrow, hdefect⟩

/-- A declaration without a value is reported on the row of one of the lines. -/
theorem exists_line_of_mem_bodySightings {bodies : Bodies} {lines : List CodeLine} {s : Sighting}
    (h : s ∈ bodySightings bodies lines) : ∃ line ∈ lines, s.row = line.row := by
  obtain ⟨above, line, below, rfl, hrow, -⟩ := exists_split_of_mem_bodySightings h
  exact ⟨line, List.mem_append_right _ List.mem_cons_self, hrow⟩

private theorem row_lt_of_mem_lineHeaders {table : HeaderTable} {scanned : List CodeLine}
    {includes : List Include} {count : Nat} (hrows : ∀ line ∈ scanned, line.row < count)
    {s : Sighting} (h : s ∈ missingHeaders table (scanned.flatMap CodeLine.calls) includes) :
    s.row < count := by
  obtain ⟨call, hc, hr⟩ := exists_call_of_mem_missingHeaders h
  obtain ⟨line, hl, hcall⟩ := List.mem_flatMap.1 hc
  rw [hr, CodeLine.row_of_mem_calls hcall]
  exact hrows line hl

private theorem row_lt_of_mem_scanLines {lines : List (List Char)} {line : CodeLine}
    (h : line ∈ scanLines lines) : line.row < lines.length := by
  rw [← length_scanFrom .code 0 lines]
  exact (List.getElem?_eq_some_iff.1 (getElem?_row_of_mem_scanLines h)).1

/-- The scope check reports on rows of the file only. -/
theorem row_lt_of_mem_scopeCheck {flow : Bool} {lines : List (List Char)} {s : Sighting}
    (h : s ∈ scopeCheck flow lines) : s.row < lines.length := by
  have hchecked : ∀ line ∈ (scanLines lines).filter CodeLine.isChecked,
      line.row < lines.length :=
    fun line hl => row_lt_of_mem_scanLines (List.mem_filter.1 hl).1
  rcases List.mem_append.1 h with h | h
  · obtain ⟨step, hstep, hs⟩ := List.mem_flatMap.1 h
    obtain ⟨_, -, rfl⟩ := List.mem_map.1 hs
    obtain ⟨line, hl, _, rfl⟩ := exists_line_of_mem_scopeStepsFrom hstep
    exact hchecked line hl
  · exact row_lt_of_mem_lineHeaders hchecked h

/-- The body check reports on rows of the file only. -/
theorem row_lt_of_mem_bodyCheck {lines : List (List Char)} {s : Sighting}
    (h : s ∈ bodyCheck lines) : s.row < lines.length := by
  rcases List.mem_append.1 h with h | h
  · obtain ⟨line, hl, hr⟩ := exists_line_of_mem_bodySightings h
    rw [hr]
    exact row_lt_of_mem_scanLines hl
  · exact row_lt_of_mem_lineHeaders (fun line => row_lt_of_mem_scanLines) h

/-- The bare check reports on rows of the file only. -/
theorem row_lt_of_mem_bareCheck {text : List Char} {lines : List (List Char)} {s : Sighting}
    (h : s ∈ bareCheck text lines) : s.row < lines.length := by
  obtain ⟨⟨line, row⟩, hl, hs⟩ := List.mem_flatMap.1 h
  obtain ⟨_, -, rfl⟩ := List.mem_map.1 hs
  have := List.snd_lt_add_of_mem_zipIdx hl
  simpa using this

end DefectScan
