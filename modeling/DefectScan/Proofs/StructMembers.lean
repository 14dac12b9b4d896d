import DefectScan.Proofs.UnsetReads
import Mathlib.Data.List.Infix

/-!
# Blocks inside structs

Declarations are stored only while no struct is open, but parameters are stored whatever is open.
So the table of a block that is a struct, or lies in one, holds parameters only, and parameters
have values. This is shown for every scope that the check passes through, from one change of the
scope to the next. The main statement adds what follows for the reports: a variable that is reported
as used without a value is a global, or lives in a block that is no struct and lies in none.
-/

namespace DefectScan

/-! ### Entries of blocks inside structs -/

/-- The entries of those blocks, innermost first, that are structs or lie in one. -/
def structEntries : List Block → List Variable
  | [] => []
  | block :: outer =>
    (if (block :: outer).any Block.isStruct then block.symbols.values else []) ++
      structEntries outer

theorem forall_mem_structEntries_cons {P : Variable → Prop} (block : Block) (outer : List Block) :
    (∀ v ∈ structEntries (block :: outer), P v) ↔
      ((block :: outer).any Block.isStruct = true → ∀ v ∈ block.symbols.values, P v) ∧
        ∀ v ∈ structEntries outer, P v := by
  rw [structEntries, List.forall_mem_append]
  refine and_congr_left fun _ => ?_
  split
  · next hstruct => simp [hstruct]
  · next hstruct => simp [hstruct]

namespace Scope

/-- All entries of blocks that are structs or lie in one satisfy a property. -/
def StructEntriesAre (P : Variable → Prop) (scope : Scope) : Prop :=
  ∀ v ∈ structEntries scope.blocks, P v

/-- The block at an index of the stack, counted from the outermost one, is a struct or lies in
one. -/
def LiesInStruct (scope : Scope) (i : Nat) : Prop :=
  ∃ j ≤ i, ∃ block, scope.blocks.reverse[j]? = some block ∧ block.isStruct = true

section

variable {P : Variable → Prop} {scope : Scope}

/-- The property read off the stack of blocks. -/
theorem StructEntriesAre.of_liesInStruct (h : scope.StructEntriesAre P) {i : Nat} {block : Block}
    (hblock : scope.blocks.reverse[i]? = some block) (hlies : scope.LiesInStruct i) :
    ∀ v ∈ block.symbols.values, P v := by
  obtain ⟨j, hji, below, hbelow, hstruct⟩ := hlies
  unfold StructEntriesAre at h
  generalize scope.blocks = blocks at h hblock hbelow
  induction blocks with
  | nil => simp at hblock
  | cons top outer ih =>
    rw [forall_mem_structEntries_cons] at h
    rw [List.reverse_cons] at hblock hbelow
    rcases Nat.lt_or_ge i outer.reverse.length with hi | hi
    · rw [List.getElem?_append_left hi] at hblock
      rw [List.getElem?_append_left (Nat.lt_of_le_of_lt hji hi)] at hbelow
      exact ih h.2 hblock hbelow
    · rw [List.getElem?_append_right hi] at hblock
      obtain rfl : block = top := by simpa using List.mem_of_getElem? hblock
      have hmem : below ∈ block :: outer := by
        simpa [or_comm] using List.mem_of_getElem? hbelow
      exact h.1 (List.any_eq_true.2 ⟨below, hmem, hstruct⟩)

/-! ### What the operations keep -/

/-- A new block has no entries. -/
theorem StructEntriesAre.push (h : scope.StructEntriesAre P) (isStruct : Bool) :
    (scope.push isStruct).StructEntriesAre P :=
  (forall_mem_structEntries_cons _ _).2 ⟨fun _ _ hv => (List.not_mem_nil hv).elim, h⟩

theorem StructEntriesAre.pop (h : scope.StructEntriesAre P) : scope.pop.StructEntriesAre P := by
  unfold StructEntriesAre Scope.pop at *
  cases hblocks : scope.blocks with
  | nil => rwa [hblocks] at h
  | cons top outer =>
    rw [hblocks] at h
    exact ((forall_mem_structEntries_cons top outer).1 h).2

theorem StructEntriesAre.braces (h : scope.StructEntriesAre P) (isStruct : Bool)
    (text : List Char) : (scope.braces isStruct text).StructEntriesAre P :=
  braces_induction (P := StructEntriesAre P) (fun _ isStruct h => h.push isStruct)
    (fun _ h => h.pop) h isStruct text

/-- Declaring keeps the property if what is declared while a struct is open has it. -/
theorem StructEntriesAre.declare (h : scope.StructEntriesAre P) {vs : List Variable}
    (hvs : scope.inStruct = true → ∀ v ∈ vs, P v) : (scope.declare vs).StructEntriesAre P := by
  unfold StructEntriesAre Scope.declare setCurrent current inStruct at *
  cases hblocks : scope.blocks with
  | nil => rwa [hblocks] at h
  | cons top outer =>
    rw [hblocks] at h hvs
    obtain ⟨htop, houter⟩ := (forall_mem_structEntries_cons top outer).1 h
    refine (forall_mem_structEntries_cons _ _).2 ⟨fun hstruct => ?_, houter⟩
    refine List.foldlRecOn vs (fun table v => SymbolTable.store v.name v table)
      (motive := fun table => ∀ w ∈ table.values, P w) (htop hstruct) ?_
    intro table htable v hv w hw
    rcases SymbolTable.eq_or_mem_of_mem_values_store hw with rfl | hw
    · exact hvs hstruct w hv
    · exact htable w hw

private theorem forall_mem_structEntries_modifyBlocks {name : List Char}
    {f : Variable → Variable} (hf : ∀ v, P v → P (f v)) {blocks blocks' : List Block}
    (hblocks : modifyBlocks name f blocks = some blocks') (h : ∀ v ∈ structEntries blocks, P v) :
    ∀ v ∈ structEntries blocks', P v := by
  induction blocks generalizing blocks' with
  | nil => cases hblocks
  | cons top outer ih =>
    obtain ⟨htop, houter⟩ := (forall_mem_structEntries_cons top outer).1 h
    rw [modifyBlocks] at hblocks
    split at hblocks
    · cases hblocks
      refine (forall_mem_structEntries_cons _ _).2 ⟨fun hstruct w hw => ?_, houter⟩
      obtain ⟨v, hv, rfl | rfl⟩ := SymbolTable.mem_values_modify _ hw
      · exact htop hstruct w hv
      · exact hf v (htop hstruct v hv)
    · obtain ⟨outer', houter', rfl⟩ := Option.map_eq_some_iff.1 hblocks
      have hflags := map_isStruct_modifyBlocks houter'
      have hany : outer'.any Block.isStruct = outer.any Block.isStruct := by
        simpa only [List.any_map, Function.id_comp] using congrArg (List.any · id) hflags
      refine (forall_mem_structEntries_cons _ _).2 ⟨fun hstruct => htop ?_, ih houter' houter⟩
      rwa [List.any_cons, ← hany]

/-- Changing a variable keeps a property that the change keeps. -/
theorem StructEntriesAre.modify (h : scope.StructEntriesAre P) {name : List Char}
    {f : Variable → Variable} (hf : ∀ v, P v → P (f v)) :
    (scope.modify name f).StructEntriesAre P := by
  unfold Scope.modify
  split
  · next blocks hblocks => exact forall_mem_structEntries_modifyBlocks hf hblocks h
  · exact h

theorem StructEntriesAre.assign (h : scope.StructEntriesAre P) {flow : Bool} {row : Nat}
    {code : List Char} (hassign : ∀ value v, P v → P (v.assigned flow row value))
    (names : List (List Char)) : (scope.assign flow row code names).StructEntriesAre P :=
  assign_induction (P := StructEntriesAre P)
    (fun _ _ value h => h.modify fun v => hassign value v) h names

end

/-! ### Lines -/

/-- The scopes a line passes through: while its braces are read, its parameters stored, and its
declarations or assignments made. -/
def passed (flow : Bool) (start : Scope) (line : CodeLine) : List Scope :=
  let code := line.code
  let braced := start.trackBraces code
  let entered := start.enterLine line
  code.inits.map (start.braces (start.pendingStruct || opensStruct code)) ++
    (braced.broughtIn code).inits.map braced.declare ++
    if isLikelyDeclaration code then
      (entered.declaredOn code).inits.map fun vs =>
        entered.declare (vs.map (Variable.sinceRow line.row))
    else entered.visibleNames.inits.map (entered.assign flow line.row code)

/-- The last of them is the scope after the line. -/
theorem afterLine_mem_passed (flow : Bool) (start : Scope) (line : CodeLine) :
    start.afterLine flow line ∈ start.passed flow line := by
  refine List.mem_append_right _ ?_
  unfold afterLine
  dsimp only
  split
  · rw [declareLine_eq_declare]
    exact List.mem_map_of_mem
      (f := fun vs : List Variable => declare _ (vs.map (Variable.sinceRow line.row)))
      ((List.mem_inits _ _).2 List.prefix_rfl)
  · exact List.mem_map_of_mem ((List.mem_inits _ _).2 List.prefix_rfl)

end Scope

/-- The variable has a value and came in as a parameter on one of the lines, but for assignments
since then. -/
def Variable.IsParameterOf (lines : List CodeLine) (v : Variable) : Prop :=
  v.isInitialized = true ∧
    ∃ line ∈ lines, ∃ u ∈ Scope.openedParameters line.code, v.fixed = u.fixed

namespace Variable

variable {seen lines : List CodeLine} {v : Variable}

theorem IsParameterOf.mono (h : v.IsParameterOf seen) (hsub : seen ⊆ lines) :
    v.IsParameterOf lines := by
  obtain ⟨hvalue, line, hline, hparameter⟩ := h
  exact ⟨hvalue, line, hsub hline, hparameter⟩

theorem IsParameterOf.assigned (h : v.IsParameterOf lines) (flow : Bool) (row : Nat)
    (value : List Char) : (v.assigned flow row value).IsParameterOf lines := by
  obtain ⟨-, line, hline, u, hu, hfixed⟩ := h
  exact ⟨isInitialized_assigned .., line, hline, u, hu, (fixed_assigned ..).trans hfixed⟩

/-- What a line brings in is a parameter. -/
theorem isParameterOf_of_mem_broughtIn {scope : Scope} {line : CodeLine} (hline : line ∈ lines)
    (h : v ∈ scope.broughtIn line.code) : v.IsParameterOf lines := by
  unfold Scope.broughtIn at h
  split at h
  · cases h
  · refine ⟨?_, line, hline, v, h, rfl⟩
    obtain ⟨_, _, _, _, rfl⟩ := exists_eq_of_mem_openedParameters h
    rfl

end Variable

namespace Scope

/-- A line leaves parameters only in blocks that are structs or lie in one, at each of the scopes
it passes through. -/
theorem StructEntriesAre.passed {seen : List CodeLine} {start : Scope}
    (h : start.StructEntriesAre (Variable.IsParameterOf seen)) (flow : Bool) (line : CodeLine) :
    ∀ scope ∈ start.passed flow line,
      scope.StructEntriesAre (Variable.IsParameterOf (seen ++ [line])) := by
  have hstart : start.StructEntriesAre (Variable.IsParameterOf (seen ++ [line])) :=
    fun v hv => (h v hv).mono (List.subset_append_left seen [line])
  have hbraced : (start.trackBraces line.code).StructEntriesAre
      (Variable.IsParameterOf (seen ++ [line])) :=
    hstart.braces _ line.code
  have hbrought : ∀ vs, vs <+: (start.trackBraces line.code).broughtIn line.code →
      ((start.trackBraces line.code).declare vs).StructEntriesAre
        (Variable.IsParameterOf (seen ++ [line])) := by
    intro vs hvs
    refine hbraced.declare fun _ v hv => ?_
    exact Variable.isParameterOf_of_mem_broughtIn (by simp) (hvs.subset hv)
  have hentered : (start.enterLine line).StructEntriesAre
      (Variable.IsParameterOf (seen ++ [line])) := by
    rw [enterLine, seedParameters_eq_declare]
    exact hbrought _ List.prefix_rfl
  intro scope hscope
  rcases List.mem_append.1 hscope with hscope | hscope
  · rcases List.mem_append.1 hscope with hscope | hscope
    · obtain ⟨text, -, rfl⟩ := List.mem_map.1 hscope
      exact hstart.braces _ text
    · obtain ⟨vs, hvs, rfl⟩ := List.mem_map.1 hscope
      exact hbrought vs ((List.mem_inits _ _).1 hvs)
  · split at hscope
    · obtain ⟨vs, hvs, rfl⟩ := List.mem_map.1 hscope
      have hsub := ((List.mem_inits _ _).1 hvs).subset
      refine hentered.declare fun hstruct v hv => ?_
      obtain ⟨u, hu, -⟩ := List.mem_map.1 hv
      have hnone := hsub hu
      rw [declaredOn, if_pos hstruct] at hnone
      cases hnone
    · obtain ⟨names, -, rfl⟩ := List.mem_map.1 hscope
      exact hentered.assign (fun value v hv => hv.assigned flow line.row value) names

/-- After any lines the blocks that are structs or lie in one hold parameters only. -/
theorem structEntriesAre_afterLines (flow : Bool) (lines : List CodeLine) :
    (afterLines flow {} lines).StructEntriesAre (Variable.IsParameterOf lines) := by
  induction lines using List.reverseRecOn with
  | nil => exact fun v hv => by cases hv
  | append_singleton lines line ih =>
    rw [afterLines_concat]
    exact ih.passed flow line _ (afterLine_mem_passed flow _ line)

/-! ### Reports -/

/-- The entry at a level above the globals belongs to the block at the index below it. -/
theorem exists_block_of_slot? {scope : Scope} {i : Nat} {name : List Char} {v : Variable}
    (h : scope.slot? (i + 1) name = some v) :
    ∃ block, scope.blocks.reverse[i]? = some block ∧ v ∈ block.symbols.values := by
  unfold slot? tables at h
  generalize scope.blocks = blocks at h
  induction blocks with
  | nil => simp [SymbolTable.slot?] at h
  | cons top outer ih =>
    rw [List.map_cons, List.cons_append, SymbolTable.slot?] at h
    split at h
    · next hlevel =>
      have hi : i = outer.reverse.length := by simpa using hlevel
      refine ⟨top, ?_, List.mem_map_of_mem (SymbolTable.mem_of_get? h)⟩
      rw [List.reverse_cons, hi, List.getElem?_concat_length]
    · obtain ⟨block, hblock, hv⟩ := ih h
      refine ⟨block, ?_, hv⟩
      rw [List.reverse_cons, List.getElem?_append_left (List.getElem?_eq_some_iff.1 hblock).1]
      exact hblock

end Scope

/-- A line reports a use without a value only of a global or of an entry in a block outside all
structs. -/
theorem Scope.exists_slot?_of_mem_lineDefects {flow : Bool} {start : Scope} {line : CodeLine}
    (hstart : (start.afterLine flow line).StructEntriesAre fun v => v.isInitialized = true)
    {d : Defect} (hunset : d.isUnset = true) (hd : d ∈ start.lineDefects flow line) :
    let scope := start.afterLine flow line
    ∃ name deref level v, d = unsetDefect name deref ∧ scope.level? name = some level ∧
      scope.slot? level name = some v ∧ v.isInitialized = false ∧
      ∀ i < level, ¬scope.LiesInStruct i := by
  intro scope
  obtain ⟨-, name, v, -, hlookup, -, hvalue, hdefect⟩ :=
    (mem_lineDefects_iff_of_isUnset hunset).1 hd
  obtain ⟨level, hlevel, hslot⟩ := exists_level?_of_lookup hlookup
  refine ⟨name, _, level, v, hdefect, hlevel, hslot, hvalue, ?_⟩
  intro i hi hlies
  cases level with
  | zero => omega
  | succ k =>
    obtain ⟨block, hblock, hmem⟩ := exists_block_of_slot? hslot
    obtain ⟨j, hji, below, hbelow, hstruct⟩ := hlies
    have hlies : scope.LiesInStruct k := ⟨j, by omega, below, hbelow, hstruct⟩
    rw [hstart.of_liesInStruct hblock hlies v hmem] at hvalue
    cases hvalue

/-- Blocks in structs hold parameters only, so what is reported without a value is a global or
outside all structs. -/
theorem structMembers_never_unset (flow : Bool) (path : String) (lines : List (List Char)) :
    (∀ pre line post, (scanLines lines).filter CodeLine.isChecked = pre ++ line :: post →
        ∀ scope ∈ (Scope.afterLines flow {} pre).passed flow line,
        ∀ (i : Nat) (block : Block), scope.blocks.reverse[i]? = some block →
          scope.LiesInStruct i → ∀ v ∈ block.symbols.values, v.IsParameterOf (pre ++ [line])) ∧
      ∀ issue ∈ (scopeCheck flow lines).map (Sighting.issue path),
        issue.category = .uninitialized ∨ issue.category = .wildPointer →
          ∃ step ∈ scopeSteps flow lines, ∃ name deref level v,
            issue = Sighting.issue path ⟨step.row, unsetDefect name deref⟩ ∧
              step.scope.level? name = some level ∧ step.scope.slot? level name = some v ∧
              v.isInitialized = false ∧ ∀ i < level, ¬step.scope.LiesInStruct i := by
  constructor
  · intro pre line post hlines scope hscope i block hblock hlies
    have hpassed := (Scope.structEntriesAre_afterLines flow pre).passed flow line scope hscope
    exact hpassed.of_liesInStruct hblock hlies
  · intro issue hissue hcategory
    obtain ⟨s, hs, rfl⟩ := List.mem_map.1 hissue
    have hunset : s.defect.isUnset = true := by
      rw [Defect.isUnset, Bool.or_eq_true, beq_iff_eq, beq_iff_eq]
      exact hcategory
    rcases List.mem_append.1 hs with hs | hs
    · obtain ⟨step, hstep, hs⟩ := List.mem_flatMap.1 hs
      obtain ⟨d, hd, rfl⟩ := List.mem_map.1 hs
      obtain ⟨pre, line, post, -, rfl⟩ := exists_split_of_mem_scopeStepsFrom hstep
      have hentries : ((Scope.afterLines flow {} pre).afterLine flow line).StructEntriesAre
          fun v => v.isInitialized = true := by
        rw [← Scope.afterLines_concat]
        exact fun v hv => (Scope.structEntriesAre_afterLines flow _ v hv).1
      obtain ⟨name, deref, level, v, rfl, hentry⟩ :=
        Scope.exists_slot?_of_mem_lineDefects hentries hunset hd
      exact ⟨_, hstep, name, deref, level, v, rfl, hentry⟩
    · have hheader :=
        category_of_mem_headerIssues (List.mem_map_of_mem (f := Sighting.issue path) hs)
      rw [Defect.isUnset, show s.defect.category = .header from hheader] at hunset
      cases hunset

/-- On the last line the global is reported; of the other names only the parameter lives in the
function inside the struct. -/
theorem structMembers_never_unset_nested :
    let lines := ["int g;", "struct s \x7b", "int m;", "void f(int *p) \x7b", "int k;",
      "*p = g + m + k;"].map String.toList
    let checked := (scanLines lines).filter CodeLine.isChecked
    let scope := Scope.afterLines false {} checked
    let p : Variable :=
      { name := ['p'], typeName := "int".toList, isPointer := true, isInitialized := true }
    let issue := Sighting.issue "a.c" ⟨5, .unsetUse ['g']⟩
    scope.blocks.reverse[1]? = some { symbols := [(['p'], p)] } ∧ scope.LiesInStruct 1 ∧
      p.IsParameterOf checked ∧ issue ∈ (scopeCheck false lines).map (Sighting.issue "a.c") ∧
      ∃ step ∈ scopeSteps false lines, ∃ name deref level v,
        issue = Sighting.issue "a.c" ⟨step.row, unsetDefect name deref⟩ ∧
          step.scope.level? name = some level ∧ step.scope.slot? level name = some v ∧
          v.isInitialized = false ∧ ∀ i < level, ¬step.scope.LiesInStruct i := by
  intro lines checked scope p issue
  let last : CodeLine := ⟨5, "*p = g + m + k;".toList, "*p = g + m + k;".toList⟩
  have hall := structMembers_never_unset false "a.c" lines
  have hsplit : checked = checked.take 5 ++ last :: [] := by decide +kernel
  have hblock : scope.blocks.reverse[1]? = some { symbols := [(['p'], p)] } := by decide +kernel
  have hlies : scope.LiesInStruct 1 := ⟨0, by omega, { isStruct := true }, by decide +kernel, rfl⟩
  have hscope : scope ∈ (Scope.afterLines false {} (checked.take 5)).passed false last := by
    have hafter : scope = (Scope.afterLines false {} (checked.take 5)).afterLine false last := by
      decide +kernel
    exact hafter ▸ Scope.afterLine_mem_passed false _ last
  have hissue : issue ∈ (scopeCheck false lines).map (Sighting.issue "a.c") := by decide +kernel
  have hparameter := hall.1 _ last [] hsplit scope hscope 1 _ hblock hlies p List.mem_cons_self
  exact ⟨hblock, hlies, hsplit ▸ hparameter, hissue, hall.2 issue hissue (.inl rfl)⟩

end DefectScan
