import DefectScan.Proofs.CommentInfluence
import DefectScan.Proofs.Tables
import Mathlib.Data.List.TakeWhile
import Mathlib.Data.Nat.Basic
import Mathlib.Order.Monotone.Basic

/-!
# Lines without code

The checks that work on lines know of a line's number only that rows increase. So renumbering the
lines by a strictly increasing function renumbers what is found and changes nothing else: the rows
since which pointers may be null move with the lines, and which of two rows comes first stays. A
line without code between two lines of code leaves scopes, bodies, calls and includes as they are.
The main statement puts the two together: inserting such a line moves what is found below it down
by one line, and the reports are otherwise the same.
-/

namespace DefectScan

open Text

/-! ### Variables and tables under other row numbers -/

/-- The variable when row `r` is called `f r`. -/
def Variable.renumber (f : Nat → Nat) (v : Variable) : Variable :=
  { v with nullSince := v.nullSince.map f }

namespace Variable

variable {f : Nat → Nat}

@[simp] theorem name_renumber (v : Variable) : (v.renumber f).name = v.name := rfl

theorem renumber_of_nullSince {v : Variable} (h : v.nullSince = none) : v.renumber f = v := by
  rw [renumber, h, Option.map_none, ← h]

theorem renumber_assigned (flow : Bool) (row : Nat) (value : List Char) (v : Variable) :
    (v.assigned flow row value).renumber f = (v.renumber f).assigned flow (f row) value := by
  unfold assigned renumber
  cases v.isPointer with
  | false => rfl
  | true =>
    by_cases hnull : pointerInitKind value = .null
    · simp [hnull]
    · cases flow <;> simp [hnull]

/-- A variable that may be null since its declaration moves with the row of the declaration. -/
theorem renumber_sinceRow {v : Variable} (h : v.nullSince = none) (row : Nat) :
    (v.sinceRow row).renumber f = v.sinceRow (f row) := by
  unfold sinceRow
  split
  · rfl
  · exact renumber_of_nullSince h

/-- Of two rows the same one comes first, so a use is judged alike. -/
theorem useDefect?_renumber (hf : StrictMono f) (row : Nat) (code name : List Char)
    (v : Variable) :
    (v.renumber f).useDefect? (f row) code name = v.useDefect? row code name := by
  have hnull : (v.renumber f).nullSince.any (· < f row) = v.nullSince.any (· < row) := by
    cases hv : v.nullSince with
    | none => simp [renumber, hv]
    | some since => simp [renumber, hv, hf.lt_iff_lt]
  unfold useDefect?
  rw [hnull]
  rfl

end Variable

/-- The table when row `r` is called `f r`. -/
def SymbolTable.renumber (f : Nat → Nat) (table : SymbolTable) : SymbolTable :=
  List.map (Prod.map id (Variable.renumber f)) table

namespace SymbolTable

variable {f : Nat → Nat}

@[simp] theorem names_renumber (table : SymbolTable) : (table.renumber f).names = table.names := by
  rw [names, renumber, List.map_map]
  rfl

theorem get?_renumber (table : SymbolTable) (name : List Char) :
    (table.renumber f).get? name = (table.get? name).map (Variable.renumber f) := by
  induction table with
  | nil => rfl
  | cons e table ih =>
    have hcons : renumber f (e :: table) = (e.1, e.2.renumber f) :: renumber f table := rfl
    rw [hcons, get?_cons, get?_cons, ih]
    split <;> rfl

theorem renumber_store (table : SymbolTable) (name : List Char) (v : Variable) :
    (table.store name v).renumber f = (table.renumber f).store name (v.renumber f) := by
  induction table with
  | nil => rfl
  | cons e table ih =>
    have hcons : renumber f (e :: table) = (e.1, e.2.renumber f) :: renumber f table := rfl
    rw [hcons, store, store]
    split
    · rfl
    · rw [← ih]
      rfl

theorem renumber_storeAll (table : SymbolTable) (vs : List Variable) :
    (table.storeAll vs).renumber f =
      (table.renumber f).storeAll (vs.map (Variable.renumber f)) := by
  unfold storeAll
  induction vs generalizing table with
  | nil => rfl
  | cons v vs ih =>
    rw [List.foldl_cons, List.map_cons, List.foldl_cons, ih, renumber_store, Variable.name_renumber]

theorem renumber_modify {g g' : Variable → Variable}
    (hg : ∀ v, (g v).renumber f = g' (v.renumber f)) (table : SymbolTable) (name : List Char) :
    (table.modify name g).renumber f = (table.renumber f).modify name g' := by
  rw [renumber, renumber, modify, modify, List.map_map, List.map_map]
  apply List.map_congr_left
  intro e _
  by_cases h : e.1 = name <;> simp [h, hg]

end SymbolTable

/-! ### Lines under other row numbers -/

/-- The line when row `r` is called `f r`. -/
def CodeLine.renumber (f : Nat → Nat) (line : CodeLine) : CodeLine :=
  { line with row := f line.row }

/-- The position when row `r` is called `f r`. -/
def Position.renumber (f : Nat → Nat) (p : Position) : Position := { p with row := f p.row }

/-- The call when row `r` is called `f r`. -/
def Call.renumber (f : Nat → Nat) (call : Call) : Call :=
  { call with position := call.position.renumber f }

/-- The formatted call when row `r` is called `f r`. -/
def FormatCall.renumber (f : Nat → Nat) (call : FormatCall) : FormatCall :=
  { call with position := call.position.renumber f }

namespace CodeLine

variable {f : Nat → Nat}

@[simp] theorem row_renumber (line : CodeLine) : (line.renumber f).row = f line.row := rfl

@[simp] theorem code_renumber (line : CodeLine) : (line.renumber f).code = line.code := rfl

theorem isEndlessLoop_renumber (line : CodeLine) :
    (line.renumber f).isEndlessLoop = line.isEndlessLoop := rfl

theorem calls_renumber (line : CodeLine) :
    (line.renumber f).calls = line.calls.map (Call.renumber f) := by
  have hdirective : (line.renumber f).isDirective = line.isDirective := rfl
  unfold calls
  rw [hdirective]
  split
  · rfl
  · rw [List.map_filterMap, code_renumber]
    congr 1
    funext p
    simp only [Option.bind_eq_bind, Option.map_bind, Function.comp_def, Option.pure_def,
      Option.map_some]
    rfl

theorem formatCalls_renumber (line : CodeLine) :
    (line.renumber f).formatCalls = line.formatCalls.map (FormatCall.renumber f) := by
  unfold formatCalls
  rw [List.map_filterMap, code_renumber]
  congr 1
  funext p
  simp only [Option.bind_eq_bind, Option.map_bind, Function.comp_def, Option.pure_def,
    Option.map_some]
  rfl

/-- Formatted calls are judged without their rows. -/
theorem flatMap_defects_renumber (line : CodeLine) (isCharBuffer : List Char → Bool) :
    (line.renumber f).formatCalls.flatMap (FormatCall.defects isCharBuffer) =
      line.formatCalls.flatMap (FormatCall.defects isCharBuffer) := by
  rw [formatCalls_renumber, List.flatMap_map]
  rfl

end CodeLine

/-! ### Scopes under other row numbers -/

/-- The block when row `r` is called `f r`. -/
def Block.renumber (f : Nat → Nat) (block : Block) : Block :=
  { block with symbols := block.symbols.renumber f }

/-- The scope when row `r` is called `f r`. -/
def Scope.renumber (f : Nat → Nat) (scope : Scope) : Scope :=
  { scope with
    globals := scope.globals.renumber f
    blocks := scope.blocks.map (Block.renumber f) }

namespace Scope

variable {f : Nat → Nat}

theorem inStruct_renumber (scope : Scope) : (scope.renumber f).inStruct = scope.inStruct := by
  rw [inStruct, inStruct, renumber, List.any_map]
  rfl

theorem renumber_push (scope : Scope) (isStruct : Bool) :
    (scope.push isStruct).renumber f = (scope.renumber f).push isStruct := rfl

theorem renumber_pop (scope : Scope) : scope.pop.renumber f = (scope.renumber f).pop := by
  simp [pop, renumber, List.map_tail]

theorem renumber_braces (scope : Scope) (isStruct : Bool) (text : List Char) :
    (scope.braces isStruct text).renumber f = (scope.renumber f).braces isStruct text := by
  induction text generalizing scope isStruct with
  | nil => rfl
  | cons c text ih =>
    rw [braces, braces]
    split
    · rw [ih, renumber_push]
    · split
      · rw [ih, renumber_pop]
      · exact ih scope isStruct

theorem renumber_trackBraces (scope : Scope) (code : List Char) :
    (scope.trackBraces code).renumber f = (scope.renumber f).trackBraces code := by
  have hbraces := renumber_braces (f := f) scope (scope.pendingStruct || opensStruct code) code
  unfold trackBraces
  change ({ (scope.braces _ code).renumber f with pendingStruct := _ } : Scope) = _
  rw [hbraces]
  rfl

theorem renumber_declare (scope : Scope) (vs : List Variable) :
    (scope.declare vs).renumber f =
      (scope.renumber f).declare (vs.map (Variable.renumber f)) := by
  unfold declare setCurrent current renumber
  cases scope.blocks with
  | nil => simp [SymbolTable.renumber_storeAll]
  | cons block outer => simp [Block.renumber, SymbolTable.renumber_storeAll]

/-- Parameters know no rows. -/
theorem renumber_seedParameters (scope : Scope) (code : List Char) :
    (scope.seedParameters code).renumber f = (scope.renumber f).seedParameters code := by
  have hparams : (openedParameters code).map (Variable.renumber f) = openedParameters code := by
    refine (List.map_congr_left fun v hv => ?_).trans (List.map_id _)
    obtain ⟨_, _, _, _, rfl⟩ := exists_eq_of_mem_openedParameters hv
    rfl
  have hempty : (scope.renumber f).blocks.isEmpty = scope.blocks.isEmpty := List.isEmpty_map
  unfold seedParameters
  rw [hempty]
  split
  · rfl
  · rw [renumber_declare, hparams]

theorem renumber_enterLine (scope : Scope) (line : CodeLine) :
    (scope.enterLine line).renumber f = (scope.renumber f).enterLine (line.renumber f) := by
  rw [enterLine, renumber_seedParameters, renumber_trackBraces]
  rfl

theorem renumber_declareLine (scope : Scope) (row : Nat) (code : List Char) :
    (scope.declareLine row code).renumber f = (scope.renumber f).declareLine (f row) code := by
  have hdeclared : ((parseDeclaration code).map (Variable.sinceRow row)).map (Variable.renumber f) =
      (parseDeclaration code).map (Variable.sinceRow (f row)) := by
    rw [List.map_map]
    apply List.map_congr_left
    intro v hv
    obtain ⟨_, _, _, _, _, rfl⟩ := exists_declared_of_mem_parseDeclaration hv
    exact Variable.renumber_sinceRow rfl row
  unfold declareLine
  rw [inStruct_renumber]
  split
  · rfl
  · rw [renumber_declare, hdeclared]

theorem lookup_renumber (scope : Scope) (name : List Char) :
    (scope.renumber f).lookup name = (scope.lookup name).map (Variable.renumber f) := by
  have htables : (scope.renumber f).tables = scope.tables.map (SymbolTable.renumber f) := by
    simp [tables, renumber, Block.renumber]
  rw [lookup_eq_findSome?, lookup_eq_findSome?, htables]
  induction scope.tables with
  | nil => rfl
  | cons table tables ih =>
    rw [List.map_cons, List.findSome?_cons, List.findSome?_cons, SymbolTable.get?_renumber]
    cases table.get? name with
    | none => exact ih
    | some v => rfl

theorem visibleNames_renumber (scope : Scope) :
    (scope.renumber f).visibleNames = scope.visibleNames := by
  simp [visibleNames, renumber, Block.renumber, ← List.map_reverse, Function.comp_def]

theorem isCharBuffer_renumber (scope : Scope) :
    (scope.renumber f).isCharBuffer = scope.isCharBuffer := by
  funext name
  rw [isCharBuffer, isCharBuffer, lookup_renumber, Option.any_map]
  rfl

private theorem map_renumber_modifyBlocks {g g' : Variable → Variable}
    (hg : ∀ v, (g v).renumber f = g' (v.renumber f)) (name : List Char) (blocks : List Block) :
    (modifyBlocks name g blocks).map (List.map (Block.renumber f)) =
      modifyBlocks name g' (blocks.map (Block.renumber f)) := by
  induction blocks with
  | nil => rfl
  | cons block outer ih =>
    have hsome : ((block.renumber f).symbols.get? name).isSome =
        (block.symbols.get? name).isSome := by
      rw [Block.renumber, SymbolTable.get?_renumber, Option.isSome_map]
    rw [List.map_cons, modifyBlocks, modifyBlocks, hsome, ← ih]
    split
    · simp [Block.renumber, SymbolTable.renumber_modify hg]
    · rw [Option.map_map, Option.map_map]
      rfl

theorem renumber_modify {g g' : Variable → Variable}
    (hg : ∀ v, (g v).renumber f = g' (v.renumber f)) (scope : Scope) (name : List Char) :
    (scope.modify name g).renumber f = (scope.renumber f).modify name g' := by
  have hblocks : modifyBlocks name g' (scope.renumber f).blocks =
      (modifyBlocks name g scope.blocks).map (List.map (Block.renumber f)) :=
    (map_renumber_modifyBlocks hg name scope.blocks).symm
  have hglobals : (scope.renumber f).globals.modify name g' =
      (scope.globals.modify name g).renumber f :=
    (SymbolTable.renumber_modify hg scope.globals name).symm
  unfold modify
  rw [hblocks, hglobals]
  cases modifyBlocks name g scope.blocks <;> rfl

theorem renumber_assign (flow : Bool) (row : Nat) (code : List Char) (scope : Scope)
    (names : List (List Char)) :
    (scope.assign flow row code names).renumber f =
      (scope.renumber f).assign flow (f row) code names := by
  rw [assign, assign]
  induction names generalizing scope with
  | nil => rfl
  | cons name names ih =>
    rw [List.foldl_cons, List.foldl_cons, ih]
    congr 1
    split
    · split
      · exact renumber_modify (Variable.renumber_assigned flow row _) scope name
      · rfl
    · rfl

/-- The scope after a line moves with the row of the line. -/
theorem renumber_afterLine (flow : Bool) (scope : Scope) (line : CodeLine) :
    (scope.afterLine flow line).renumber f =
      (scope.renumber f).afterLine flow (line.renumber f) := by
  simp only [afterLine, ← renumber_enterLine, visibleNames_renumber, CodeLine.code_renumber,
    CodeLine.row_renumber]
  split
  · exact renumber_declareLine (scope.enterLine line) line.row line.code
  · exact renumber_assign flow line.row line.code (scope.enterLine line) _

theorem useDefects_renumber (hf : StrictMono f) (row : Nat) (code : List Char) (scope : Scope)
    (names : List (List Char)) :
    (scope.renumber f).useDefects (f row) code names = scope.useDefects row code names := by
  unfold useDefects
  congr 1
  funext name
  rw [lookup_renumber]
  split
  · cases scope.lookup name with
    | none => rfl
    | some v => exact Variable.useDefect?_renumber hf row code name v
  · rfl

/-- A line has the same defects whatever its row is called. -/
theorem lineDefects_renumber (hf : StrictMono f) (flow : Bool) (scope : Scope)
    (line : CodeLine) :
    (scope.renumber f).lineDefects flow (line.renumber f) = scope.lineDefects flow line := by
  simp only [lineDefects, ← renumber_enterLine, ← renumber_afterLine, visibleNames_renumber,
    isCharBuffer_renumber, CodeLine.flatMap_defects_renumber, CodeLine.code_renumber,
    CodeLine.row_renumber, CodeLine.isEndlessLoop_renumber, useDefects_renumber hf]
  rfl

end Scope

/-! ### Findings under other row numbers -/

/-- The sighting when row `r` is called `f r`. -/
def Sighting.renumber (f : Nat → Nat) (s : Sighting) : Sighting := { s with row := f s.row }

section Findings

variable {f : Nat → Nat}

/-- A run of the scope check over renumbered lines finds the same on the renumbered rows. -/
theorem flatMap_sightings_renumber (hf : StrictMono f) (flow : Bool) (scope : Scope)
    (lines : List CodeLine) :
    (scopeStepsFrom flow (scope.renumber f) (lines.map (CodeLine.renumber f))).flatMap
        ScopeStep.sightings =
      ((scopeStepsFrom flow scope lines).flatMap ScopeStep.sightings).map
        (Sighting.renumber f) := by
  induction lines generalizing scope with
  | nil => rfl
  | cons line lines ih =>
    rw [List.map_cons, scopeStepsFrom, scopeStepsFrom, ← Scope.renumber_afterLine,
      Scope.lineDefects_renumber hf, List.flatMap_cons, List.flatMap_cons, ih, List.map_append,
      ScopeStep.sightings, ScopeStep.sightings, List.map_map]
    rfl

/-- A run of the body check over renumbered lines finds the same on the renumbered rows. -/
theorem bodySightings_renumber (bodies : Bodies) (lines : List CodeLine) :
    bodySightings bodies (lines.map (CodeLine.renumber f)) =
      (bodySightings bodies lines).map (Sighting.renumber f) := by
  induction lines generalizing bodies with
  | nil => rfl
  | cons line lines ih =>
    have hdefect : bodies.lineDefect? (line.renumber f) = bodies.lineDefect? line := by
      unfold Bodies.lineDefect? CodeLine.isBareDeclaration
      rfl
    have hread : bodies.read (line.renumber f) = bodies.read line := rfl
    rw [List.map_cons, bodySightings, bodySightings, hdefect, hread, ih, List.map_append]
    cases bodies.lineDefect? line <;> rfl

/-- Missing headers depend on the headers of the includes and not on where they stand. -/
theorem missingHeaders_renumber (table : HeaderTable) (calls : List Call)
    {includes includes' : List Include}
    (h : includes'.map Include.header = includes.map Include.header) :
    missingHeaders table (calls.map (Call.renumber f)) includes' =
      (missingHeaders table calls includes).map (Sighting.renumber f) := by
  have hany : ∀ header : List Char, (includes'.any fun i => i.header == header) =
      includes.any fun i => i.header == header := by
    intro header
    have hmap : ∀ is : List Include, (is.any fun i => i.header == header) =
        (is.map Include.header).any (· == header) := by
      intro is
      rw [List.any_map]
      rfl
    rw [hmap, hmap, h]
  unfold missingHeaders
  rw [List.filterMap_map, List.map_filterMap]
  congr 1
  funext call
  simp only [Function.comp_apply, hany, Call.renumber, apply_ite (Option.map (Sighting.renumber f)),
    Option.map_none, Option.map_some]
  rfl

theorem flatMap_calls_renumber (lines : List CodeLine) :
    (lines.map (CodeLine.renumber f)).flatMap CodeLine.calls =
      (lines.flatMap CodeLine.calls).map (Call.renumber f) := by
  rw [List.flatMap_map, List.map_flatMap]
  congr 1
  funext line
  exact line.calls_renumber

theorem map_header_includesIn_renumber (lines : List CodeLine) :
    (includesIn (lines.map (CodeLine.renumber f))).map Include.header =
      (includesIn lines).map Include.header := by
  unfold includesIn
  rw [List.filterMap_map, List.map_filterMap, List.map_filterMap]
  congr 1
  funext line
  simp only [Function.comp_apply, CodeLine.include?, CodeLine.renumber, Option.bind_eq_bind,
    Option.map_bind, Option.pure_def, Option.map_some]

theorem filter_isChecked_renumber (lines : List CodeLine) :
    (lines.map (CodeLine.renumber f)).filter CodeLine.isChecked =
      (lines.filter CodeLine.isChecked).map (CodeLine.renumber f) := by
  rw [List.filter_map]
  rfl

end Findings

/-! ### Lines without code -/

theorem Text.ne_of_isBlank {c d : Char} (hc : isBlank c = true) (hd : isBlank d = false) :
    c ≠ d := by
  rintro rfl
  rw [hc] at hd
  cases hd

section Blank

variable {line : CodeLine}

theorem CodeLine.isDirective_of_isBlank (h : line.isBlank = true) : line.isDirective = false := by
  have htrim : trimStart line.code = [] :=
    List.dropWhile_eq_nil_iff.2 fun c hc => List.all_eq_true.1 h c hc
  rw [isDirective, htrim]
  rfl

theorem CodeLine.isChecked_of_isBlank (h : line.isBlank = true) : line.isChecked = false := by
  rw [isChecked, h]
  rfl

/-- Blank text changes neither the open bodies nor the text before the next brace. -/
theorem Bodies.readFrom_of_blank (b : Bodies) {seen s : List Char}
    (hseen : ∀ c ∈ seen, isBlank c = true) (hs : ∀ c ∈ s, isBlank c = true) :
    b.readFrom seen s = b := by
  induction s generalizing seen with
  | nil =>
    have htrim : trim seen.reverse = [] := by
      have hstart : trimStart seen.reverse = [] :=
        List.dropWhile_eq_nil_iff.2 fun c hc => hseen c (List.mem_reverse.1 hc)
      rw [trim, hstart]
      rfl
    rw [readFrom, extend, htrim]
    rfl
  | cons c s ih =>
    obtain ⟨hc, hs⟩ := List.forall_mem_cons.1 hs
    rw [readFrom, if_neg (ne_of_isBlank hc (by decide)), if_neg (ne_of_isBlank hc (by decide)),
      if_neg (ne_of_isBlank hc (by decide))]
    exact ih (List.forall_mem_cons.2 ⟨hc, hseen⟩) hs

theorem Bodies.read_of_isBlank (b : Bodies) (h : line.isBlank = true) : b.read line = b := by
  rw [read, CodeLine.isDirective_of_isBlank h, if_neg (by simp)]
  exact b.readFrom_of_blank (by simp) (List.all_eq_true.1 h)

/-- A line without code declares nothing. -/
theorem Bodies.lineDefect?_of_isBlank (b : Bodies) (h : line.isBlank = true) :
    b.lineDefect? line = none := by
  have hsemicolon : line.code.contains ';' = false := by
    rw [Bool.eq_false_iff]
    intro hmem
    exact absurd (List.all_eq_true.1 h ';' (List.contains_iff_mem.1 hmem)) (by decide)
  rw [lineDefect?, CodeLine.isBareDeclaration, hsemicolon]
  rfl

/-- The body check passes over a line without code. -/
theorem bodySightings_of_isBlank (h : line.isBlank = true) (bodies : Bodies)
    (pre post : List CodeLine) :
    bodySightings bodies (pre ++ line :: post) = bodySightings bodies (pre ++ post) := by
  induction pre generalizing bodies with
  | nil =>
    rw [List.nil_append, List.nil_append, bodySightings, bodies.lineDefect?_of_isBlank h,
      bodies.read_of_isBlank h]
    rfl
  | cons first pre ih => simp only [List.cons_append, bodySightings, ih]

/-- A line without code is not checked. -/
theorem filter_isChecked_of_isBlank (h : line.isBlank = true) (pre post : List CodeLine) :
    (pre ++ line :: post).filter CodeLine.isChecked =
      (pre ++ post).filter CodeLine.isChecked := by
  rw [List.filter_append, List.filter_append,
    List.filter_cons_of_neg (by simp [CodeLine.isChecked_of_isBlank h])]

/-- A line without code calls nothing. -/
theorem flatMap_calls_of_isBlank (h : line.isBlank = true) (pre post : List CodeLine) :
    (pre ++ line :: post).flatMap CodeLine.calls = (pre ++ post).flatMap CodeLine.calls := by
  rw [List.flatMap_append, List.flatMap_append, List.flatMap_cons,
    CodeLine.calls_of_not_isChecked (CodeLine.isChecked_of_isBlank h), List.nil_append]

/-- The number sign of a directive is code if its line starts in code. -/
theorem include?_of_view_blank {row : Nat} {raw : List Char}
    (h : ∀ c ∈ Lexical.code.view raw, isBlank c = true) :
    (⟨row, raw, Lexical.code.view raw⟩ : CodeLine).include? = none := by
  have hsign : afterBlanks? '#' raw = none := by
    induction raw with
    | nil => rfl
    | cons c s ih =>
      cases hc : isBlank c with
      | true =>
        have hmove : Lexical.code.move c s.head? = .one .code .code := by
          have hslash : c ≠ '/' := ne_of_isBlank hc (by decide)
          have hdouble : c ≠ '"' := ne_of_isBlank hc (by decide)
          have hsingle : c ≠ '\'' := ne_of_isBlank hc (by decide)
          simp [Lexical.move, hslash, hdouble, hsingle]
        rw [Lexical.view_of_one hmove] at h
        have htrim : trimStart (c :: s) = trimStart s := List.dropWhile_cons_of_pos hc
        have hrest := ih (List.forall_mem_cons.1 h).2
        unfold afterBlanks? at hrest ⊢
        rwa [htrim]
      | false =>
        have htrim : trimStart (c :: s) = c :: s :=
          List.dropWhile_cons_of_neg (by simp [hc])
        unfold afterBlanks?
        rw [htrim]
        refine if_neg ?_
        rintro rfl
        have hmove : Lexical.code.move '#' s.head? = .one .code .code := by simp [Lexical.move]
        rw [Lexical.view_of_one hmove] at h
        exact absurd (List.forall_mem_cons.1 h).1 (by decide)
  rw [CodeLine.include?, hsign]
  rfl

end Blank

/-! ### Inserted lines -/

/-- Row `r` of a file into which a line is inserted as row `n`. -/
def rowPast (n r : Nat) : Nat := if r < n then r else r + 1

theorem strictMono_rowPast (n : Nat) : StrictMono (rowPast n) := by
  intro r r' h
  unfold rowPast
  split <;> split <;> omega

/-- An issue of a file into which a line is inserted below line `n`. -/
def Issue.past (n : Nat) (issue : Issue) : Issue :=
  if (n : Int) < issue.line then { issue with line := issue.line + 1 } else issue

theorem Sighting.issue_renumber_rowPast (path : String) (n : Nat) (s : Sighting) :
    (s.renumber (rowPast n)).issue path = (s.issue path).past n := by
  have hline : (s.issue path).line = (s.row : Int) + 1 := rfl
  unfold Issue.past
  rw [hline]
  by_cases hrow : s.row < n
  · rw [if_neg (by omega), renumber, rowPast, if_pos hrow]
  · rw [if_pos (by omega), renumber, rowPast, if_neg hrow]
    rfl

theorem map_issue_renumber_rowPast (path : String) (n : Nat) (found : List Sighting) :
    (found.map (Sighting.renumber (rowPast n))).map (Sighting.issue path) =
      (found.map (Sighting.issue path)).map (Issue.past n) := by
  rw [List.map_map, List.map_map]
  exact List.map_congr_left fun s _ => s.issue_renumber_rowPast path n

theorem scanFrom_append (state : Lexical) (row : Nat) (lines lines' : List (List Char)) :
    scanFrom state row (lines ++ lines') =
      scanFrom state row lines ++
        scanFrom (state.afterLines lines) (row + lines.length) lines' := by
  induction lines generalizing state row with
  | nil => rfl
  | cons raw lines ih =>
    have hrow : row + (raw :: lines).length = row + 1 + lines.length := by
      rw [List.length_cons]
      omega
    rw [List.cons_append, scanFrom_cons, scanFrom_cons, ih, List.cons_append, hrow,
      Lexical.afterLines_cons]

/-- Scanning from another row renumbers the lines. -/
theorem scanFrom_eq_map_renumber {f : Nat → Nat} (state : Lexical) {row row' : Nat}
    {lines : List (List Char)} (h : ∀ k < lines.length, f (row + k) = row' + k) :
    scanFrom state row' lines = (scanFrom state row lines).map (CodeLine.renumber f) := by
  induction lines generalizing state row row' with
  | nil => rfl
  | cons raw lines ih =>
    have hrow : f row = row' := h 0 (Nat.zero_lt_succ _)
    have hrest : ∀ k < lines.length, f (row + 1 + k) = row' + 1 + k := by
      intro k hk
      have hnext := h (k + 1) (Nat.succ_lt_succ hk)
      rwa [Nat.add_right_comm, Nat.add_right_comm row']
    rw [scanFrom_cons, scanFrom_cons, List.map_cons, ih _ hrest, CodeLine.renumber, hrow]

section Insert

variable {before : List (List Char)} {blank : List Char}

/-- Around an inserted line without code the other lines are scanned as they are without it, but
for their rows. -/
theorem exists_scanLines_insert (after : List (List Char))
    (hbefore : Lexical.code.afterLines before = .code)
    (hview : (Lexical.code.view blank).all isBlank = true)
    (hblank : Lexical.code.afterLine blank = .code) :
    ∃ (pre post : List CodeLine) (line : CodeLine),
      scanLines (before ++ [blank] ++ after) = pre ++ line :: post ∧
        pre ++ post =
          (scanLines (before ++ after)).map (CodeLine.renumber (rowPast before.length)) ∧
        line.isBlank = true ∧ line.include? = none := by
  refine ⟨scanFrom .code 0 before, scanFrom .code (before.length + 1) after,
    ⟨before.length, blank, Lexical.code.view blank⟩, ?_, ?_, hview, ?_⟩
  · rw [scanLines, List.append_assoc, scanFrom_append, hbefore, Nat.zero_add, List.singleton_append,
      scanFrom_cons, hblank]
  · rw [scanLines, scanFrom_append, hbefore, Nat.zero_add, List.map_append]
    congr 1
    · apply scanFrom_eq_map_renumber
      intro k hk
      rw [Nat.zero_add, rowPast, if_pos hk]
    · apply scanFrom_eq_map_renumber
      intro k hk
      rw [rowPast, if_neg (by omega)]
      omega
  · exact include?_of_view_blank (List.all_eq_true.1 hview)

/-- Inserting a line without code, which leaves the scanner in code, moves the issues below it down
by one line and changes nothing else. -/
theorem issues_insert_blank (flow : Bool) (path : String) (after : List (List Char))
    (hbefore : Lexical.code.afterLines before = .code)
    (hview : (Lexical.code.view blank).all isBlank = true)
    (hblank : Lexical.code.afterLine blank = .code) :
    (scopeCheck flow (before ++ [blank] ++ after)).map (Sighting.issue path) =
        ((scopeCheck flow (before ++ after)).map (Sighting.issue path)).map
          (Issue.past before.length) ∧
      (bodyCheck (before ++ [blank] ++ after)).map (Sighting.issue path) =
        ((bodyCheck (before ++ after)).map (Sighting.issue path)).map
          (Issue.past before.length) := by
  obtain ⟨pre, post, line, hscanned, hothers, hline, hinclude⟩ :=
    exists_scanLines_insert after hbefore hview hblank
  have hmono := strictMono_rowPast before.length
  have hincludes : includesIn (pre ++ line :: post) = includesIn (pre ++ post) := by
    rw [includesIn, includesIn, List.filterMap_append, List.filterMap_append,
      List.filterMap_cons_none hinclude]
  have hheaders : ∀ table : HeaderTable,
      missingHeaders table ((pre ++ line :: post).flatMap CodeLine.calls)
          (includesIn (pre ++ line :: post)) =
        (missingHeaders table ((scanLines (before ++ after)).flatMap CodeLine.calls)
          (includesIn (scanLines (before ++ after)))).map
            (Sighting.renumber (rowPast before.length)) := by
    intro table
    rw [flatMap_calls_of_isBlank hline, hincludes, hothers, flatMap_calls_renumber]
    exact missingHeaders_renumber table _ (map_header_includesIn_renumber _)
  have hscope : scopeCheck flow (before ++ [blank] ++ after) =
      (scopeCheck flow (before ++ after)).map (Sighting.renumber (rowPast before.length)) := by
    have hempty : ({} : Scope) = ({} : Scope).renumber (rowPast before.length) := rfl
    simp only [scopeCheck, scopeSteps, hscanned, flatMap_calls_filter_isChecked, hheaders,
      List.map_append]
    rw [filter_isChecked_of_isBlank hline, hothers, filter_isChecked_renumber, hempty,
      flatMap_sightings_renumber hmono]
    rfl
  have hbody : bodyCheck (before ++ [blank] ++ after) =
      (bodyCheck (before ++ after)).map (Sighting.renumber (rowPast before.length)) := by
    simp only [bodyCheck, hscanned, hheaders, List.map_append]
    rw [bodySightings_of_isBlank hline, hothers, bodySightings_renumber]
  exact ⟨by rw [hscope, map_issue_renumber_rowPast], by rw [hbody, map_issue_renumber_rowPast]⟩

end Insert

/-- A comment with a write in it, between a null pointer and the write through it, moves the report
from line 2 to line 3. -/
theorem issues_insert_blank_comment :
    let before := ["int *p = 0;".toList]
    let after := ["*p = 2;".toList]
    let blank := "  // *p = 1; /*".toList
    Lexical.code.afterLines before = .code ∧ (Lexical.code.view blank).all isBlank = true ∧
      Lexical.code.afterLine blank = .code ∧
      (scopeCheck true (before ++ after)).map (Sighting.issue "a.c") =
        [Sighting.issue "a.c" ⟨1, .nullPointer ['p']⟩] ∧
      (scopeCheck true (before ++ [blank] ++ after)).map (Sighting.issue "a.c") =
        [Sighting.issue "a.c" ⟨2, .nullPointer ['p']⟩] := by
  intro before after blank
  have hbefore : Lexical.code.afterLines before = .code := by decide +kernel
  have hview : (Lexical.code.view blank).all isBlank = true := by decide +kernel
  have hblank : Lexical.code.afterLine blank = .code := by decide +kernel
  have hplain : (scopeCheck true (before ++ after)).map (Sighting.issue "a.c") =
      [Sighting.issue "a.c" ⟨1, .nullPointer ['p']⟩] := by decide +kernel
  have hinserted := (issues_insert_blank true "a.c" after hbefore hview hblank).1
  exact ⟨hbefore, hview, hblank, hplain, hinserted.trans (by rw [hplain]; rfl)⟩

end DefectScan
