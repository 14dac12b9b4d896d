import DefectScan.Proofs.Braces
import DefectScan.Proofs.Tables
import DefectScan.Proofs.Words
import Mathlib.Data.List.Induction

/-!
# Entries and the lines that stored them

An entry of a scope is told by its name and by the level of its table, the number of tables
outside it. Braces, declarations and assignments are restated for single entries. A run of the
scope check then explains each of its entries: some line stored it, no later line stored the name
at that level, and the entry has a value if and only if it was stored with one or a later line
assigned the name while it meant this entry.
-/

namespace DefectScan

open Text

/-! ### Assigned names -/

/-- No word character follows a name that is assigned. -/
theorem startsWord_of_afterAssignment? {s rest : List Char} (h : afterAssignment? s = some rest) :
    startsWord s = false := by
  cases s with
  | nil => rfl
  | cons c s =>
    by_cases hblank : isBlank c = true
    · exact isWord_of_isBlank hblank
    · have htrim : trimStart (c :: s) = c :: s := List.dropWhile_cons_of_neg hblank
      have hc : c ∈ ['=', '-', '+', '*', '/', '%'] := by
        simp only [afterAssignment?, htrim] at h
        split at h
        · next he =>
          cases he
          exact List.mem_cons_self
        · next he =>
          cases he
          split at h
          · next hm => exact List.mem_cons_of_mem _ (List.contains_iff_mem.1 hm)
          · cases h
        · cases h
      have hoperators : (['=', '-', '+', '*', '/', '%'].all fun d => !isWord d) = true := by
        decide
      have hc := List.all_eq_true.1 hoperators c hc
      rwa [Bool.not_eq_true'] at hc

/-- A name that is assigned on a line occurs on it as a word. -/
theorem occursIn_of_assignmentTo? {code name value : List Char}
    (h : assignmentTo? code name = some value) : occursIn name code = true := by
  obtain ⟨p, hp, hvalue⟩ := List.exists_of_findSome?_eq_some h
  split at hvalue
  · cases hvalue
  · next hbefore =>
    obtain ⟨rest, hafter, hassign⟩ := Option.bind_eq_some_iff.1 hvalue
    have hopen : p.isOpen = true := by
      rw [Place.isOpen]
      cases hb : p.before with
      | none => rfl
      | some c => simp_all
    refine List.any_eq_true.2 ⟨p, hp, ?_⟩
    rw [Place.word?, if_pos hopen, closedWord?, hafter]
    simp [Option.filter, startsWord_of_afterAssignment? hassign]

/-! ### Levels of tables -/

namespace SymbolTable

/-- The level of the first of some tables that has a name: the number of tables behind it. -/
def level? (name : List Char) : List SymbolTable → Option Nat
  | [] => none
  | table :: outer => if (table.get? name).isSome then some outer.length else level? name outer

/-- The variable of a name in that of some tables which is at the given level. -/
def slot? (level : Nat) (name : List Char) : List SymbolTable → Option Variable
  | [] => none
  | table :: outer => if level = outer.length then table.get? name else slot? level name outer

variable {level : Nat} {name : List Char} {tables : List SymbolTable}

theorem lt_of_level? (h : level? name tables = some level) : level < tables.length := by
  induction tables with
  | nil => cases h
  | cons table outer ih =>
    rw [level?] at h
    split at h
    · cases h
      exact Nat.lt_succ_self _
    · exact Nat.lt_succ_of_lt (ih h)

theorem lt_of_slot? {v : Variable} (h : slot? level name tables = some v) :
    level < tables.length := by
  induction tables with
  | nil => cases h
  | cons table outer ih =>
    rw [slot?] at h
    split at h
    · next hlevel => exact hlevel ▸ Nat.lt_succ_self _
    · exact Nat.lt_succ_of_lt (ih h)

theorem slot?_cons_of_lt (h : level < tables.length) (table : SymbolTable) :
    slot? level name (table :: tables) = slot? level name tables :=
  if_neg (Nat.ne_of_lt h)

/-- A name means its entry at the level of the first table that has it. -/
theorem findSome?_get?_eq_slot? (h : level? name tables = some level) :
    (tables.findSome? fun table => table.get? name) = slot? level name tables := by
  induction tables with
  | nil => cases h
  | cons table outer ih =>
    rw [level?] at h
    rw [List.findSome?_cons]
    cases hget : table.get? name with
    | some v =>
      rw [hget, Option.isSome_some, if_pos rfl] at h
      cases h
      rw [slot?, if_pos rfl, hget]
    | none =>
      rw [hget, if_neg (by simp)] at h
      rw [slot?_cons_of_lt (lt_of_level? h)]
      exact ih h

theorem isSome_findSome?_get? (name : List Char) (tables : List SymbolTable) :
    (tables.findSome? fun table => table.get? name).isSome = (level? name tables).isSome := by
  induction tables with
  | nil => rfl
  | cons table outer ih =>
    rw [List.findSome?_cons, level?]
    cases hget : table.get? name with
    | some v => rfl
    | none => simpa using ih

theorem length_modifyFirst (name : List Char) (f : Variable → Variable)
    (tables : List SymbolTable) : (modifyFirst name f tables).length = tables.length := by
  induction tables with
  | nil => rfl
  | cons table outer ih =>
    rw [modifyFirst]
    split
    · rfl
    · exact congrArg (· + 1) ih

section Modify

variable (f : Variable → Variable)

theorem level?_modifyFirst (name name' : List Char) (tables : List SymbolTable) :
    level? name' (modifyFirst name f tables) = level? name' tables := by
  induction tables with
  | nil => rfl
  | cons table outer ih =>
    have hsome : ((table.modify name f).get? name').isSome = (table.get? name').isSome := by
      rw [Bool.eq_iff_iff, isSome_get?, isSome_get?, names_modify]
    rw [modifyFirst]
    split
    · rw [level?, level?, hsome]
    · rw [level?, level?, ih, length_modifyFirst]

/-- Only the entry that a name means is changed. -/
theorem slot?_modifyFirst (level : Nat) (name name' : List Char) (tables : List SymbolTable) :
    slot? level name' (modifyFirst name f tables) =
      if name' = name ∧ level? name tables = some level then (slot? level name' tables).map f
      else slot? level name' tables := by
  induction tables with
  | nil => simp [modifyFirst, slot?]
  | cons table outer ih =>
    by_cases hsome : (table.get? name).isSome = true
    · have hlevel : level? name (table :: outer) = some outer.length := if_pos hsome
      rw [modifyFirst, if_pos hsome, hlevel]
      by_cases hl : level = outer.length
      · simp [slot?, hl, get?_modify]
      · simp [slot?, hl, Ne.symm hl]
    · have hlevel : level? name (table :: outer) = level? name outer := if_neg hsome
      rw [modifyFirst, if_neg hsome, hlevel, slot?, slot?, length_modifyFirst, ih]
      by_cases hl : level = outer.length
      · have hne : level? name outer ≠ some level :=
          fun h => Nat.ne_of_lt (lt_of_level? h) hl
        simp [hl, hl ▸ hne]
      · simp [hl]

end Modify

end SymbolTable

namespace Scope

/-- The level of the innermost table that has a name, zero for the globals. -/
def level? (scope : Scope) (name : List Char) : Option Nat :=
  SymbolTable.level? name scope.tables

/-- The variable of a name in the table at a level. -/
def slot? (scope : Scope) (level : Nat) (name : List Char) : Option Variable :=
  SymbolTable.slot? level name scope.tables

variable {scope : Scope} {level : Nat} {name : List Char}

theorem lookup_eq_slot? (h : scope.level? name = some level) :
    scope.lookup name = scope.slot? level name := by
  rw [lookup_eq_findSome?]
  exact SymbolTable.findSome?_get?_eq_slot? h

theorem isSome_lookup (scope : Scope) (name : List Char) :
    (scope.lookup name).isSome = (scope.level? name).isSome := by
  rw [lookup_eq_findSome?]
  exact SymbolTable.isSome_findSome?_get? name scope.tables

/-- What a name means is its entry at some level. -/
theorem exists_level?_of_lookup {v : Variable} (h : scope.lookup name = some v) :
    ∃ level, scope.level? name = some level ∧ scope.slot? level name = some v := by
  have hsome : (scope.level? name).isSome = true := by
    rw [← isSome_lookup, h]
    rfl
  obtain ⟨level, hlevel⟩ := Option.isSome_iff_exists.1 hsome
  exact ⟨level, hlevel, (lookup_eq_slot? hlevel).symm.trans h⟩

/-- Braces make no entries. -/
theorem slot?_of_braces {isStruct : Bool} {text : List Char} {v : Variable}
    (h : (scope.braces isStruct text).slot? level name = some v) :
    scope.slot? level name = some v := by
  refine braces_induction (P := fun inner =>
    inner.slot? level name = some v → scope.slot? level name = some v) ?_ ?_ id isStruct text h
  · intro inner isStruct ih hpush
    apply ih
    rw [slot?, tables_push, SymbolTable.slot?] at hpush
    split at hpush
    · cases hpush
    · exact hpush
  · intro inner ih hpop
    apply ih
    rw [slot?, tables_pop] at hpop
    split at hpop
    · exact hpop
    · rw [slot?, tables_eq_cons, SymbolTable.slot?_cons_of_lt (SymbolTable.lt_of_slot? hpop)]
      exact hpop

/-- Declaring makes entries at the level of the innermost table. -/
theorem slot?_declare (scope : Scope) (vs : List Variable) (level : Nat) (name : List Char) :
    (scope.declare vs).slot? level name =
      (if level = scope.depth then lastNamed? name vs else none).or (scope.slot? level name) := by
  have hdepth : scope.tables.tail.length = scope.depth := by simp
  rw [slot?, slot?, tables_declare, tables_eq_cons scope, List.tail_cons, SymbolTable.slot?,
    SymbolTable.slot?, hdepth, SymbolTable.get?_storeAll]
  split
  · rfl
  · rfl

theorem level?_modify (f : Variable → Variable) (scope : Scope) (name name' : List Char) :
    (scope.modify name f).level? name' = scope.level? name' := by
  rw [level?, level?, tables_modify, SymbolTable.level?_modifyFirst]

theorem slot?_modify (f : Variable → Variable) (scope : Scope) (name : List Char) (level : Nat)
    (name' : List Char) :
    (scope.modify name f).slot? level name' =
      if name' = name ∧ scope.level? name = some level then (scope.slot? level name').map f
      else scope.slot? level name' := by
  rw [slot?, slot?, tables_modify, SymbolTable.slot?_modifyFirst]
  rfl

end Scope

/-! ### Assignments of a line -/

/-- What an assignment leaves as it was stored. -/
def Variable.fixed (v : Variable) : Variable :=
  { v with isInitialized := false, initKind := .none, nullSince := none }

@[simp] theorem Variable.fixed_assigned (flow : Bool) (row : Nat) (value : List Char)
    (v : Variable) : (v.assigned flow row value).fixed = v.fixed := by
  unfold assigned
  split <;> rfl

theorem Variable.isPointer_eq_of_fixed {v w : Variable} (h : v.fixed = w.fixed) :
    v.isPointer = w.isPointer :=
  (congrArg isPointer h :)

theorem Variable.isArray_eq_of_fixed {v w : Variable} (h : v.fixed = w.fixed) :
    v.isArray = w.isArray :=
  (congrArg isArray h :)

@[simp] theorem Variable.isInitialized_assigned (flow : Bool) (row : Nat) (value : List Char)
    (v : Variable) : (v.assigned flow row value).isInitialized = true := by
  unfold assigned
  split <;> rfl

@[simp] theorem Variable.isInitialized_sinceRow (row : Nat) (v : Variable) :
    (v.sinceRow row).isInitialized = v.isInitialized := by
  unfold sinceRow
  split <;> rfl

namespace Scope

/-- The scope after the assignment of a row of code to one name, if there is one. -/
def assignName (flow : Bool) (row : Nat) (code : List Char) (scope : Scope)
    (name : List Char) : Scope :=
  match assignmentTo? code name with
  | some value => scope.modify name (Variable.assigned flow row value)
  | none => scope

variable {flow : Bool} {row : Nat} {code : List Char}

/-- The assignments of a row are made name by name. -/
theorem assign_eq_foldl (flow : Bool) (row : Nat) (code : List Char) (scope : Scope)
    (names : List (List Char)) :
    scope.assign flow row code names = names.foldl (assignName flow row code) scope := by
  unfold assign
  congr 1
  funext scope name
  unfold assignName
  cases hvalue : assignmentTo? code name with
  | none => exact ite_self _
  | some value => exact if_pos (occursIn_of_assignmentTo? hvalue)

theorem level?_assignName (scope : Scope) (name name' : List Char) :
    (assignName flow row code scope name).level? name' = scope.level? name' := by
  unfold assignName
  split
  · exact level?_modify _ scope name name'
  · rfl

theorem level?_assign (scope : Scope) (names : List (List Char)) (name : List Char) :
    (scope.assign flow row code names).level? name = scope.level? name := by
  rw [assign_eq_foldl]
  induction names generalizing scope with
  | nil => rfl
  | cons name' names ih => rw [List.foldl_cons, ih, level?_assignName]

/-- One assignment gives a value to the entry that its name means. -/
theorem exists_slot?_of_assignName {scope : Scope} {name name' : List Char} {level : Nat}
    {v' : Variable} (h : (assignName flow row code scope name').slot? level name = some v') :
    ∃ v, scope.slot? level name = some v ∧ v'.fixed = v.fixed ∧
      (v'.isInitialized = true ↔ v.isInitialized = true ∨
        (name = name' ∧ scope.level? name = some level ∧
          (assignmentTo? code name).isSome = true)) := by
  unfold assignName at h
  cases hvalue : assignmentTo? code name' with
  | none =>
    rw [hvalue] at h
    refine ⟨v', h, rfl, ?_⟩
    constructor
    · exact .inl
    · rintro (hv | ⟨rfl, -, hsome⟩)
      · exact hv
      · simp [hvalue] at hsome
  | some value =>
    rw [hvalue] at h
    dsimp only at h
    rw [slot?_modify] at h
    split at h
    · next hmeant =>
      obtain ⟨v, hv, rfl⟩ := Option.map_eq_some_iff.1 h
      obtain ⟨rfl, hlevel⟩ := hmeant
      exact ⟨v, hv, Variable.fixed_assigned .., by simp [hlevel, hvalue]⟩
    · next hmeant =>
      refine ⟨v', h, rfl, ?_⟩
      constructor
      · exact .inl
      · rintro (hv | ⟨rfl, hlevel, -⟩)
        · exact hv
        · exact absurd ⟨rfl, hlevel⟩ hmeant

/-- The assignments of a row give values to the entries that the assigned names mean. -/
theorem exists_slot?_of_assign {scope : Scope} {names : List (List Char)} {name : List Char}
    {level : Nat} {v' : Variable}
    (h : (scope.assign flow row code names).slot? level name = some v') :
    ∃ v, scope.slot? level name = some v ∧ v'.fixed = v.fixed ∧
      (v'.isInitialized = true ↔ v.isInitialized = true ∨
        (name ∈ names ∧ scope.level? name = some level ∧
          (assignmentTo? code name).isSome = true)) := by
  rw [assign_eq_foldl] at h
  induction names generalizing scope with
  | nil => exact ⟨v', h, rfl, by simp⟩
  | cons name' names ih =>
    obtain ⟨w, hw, hfixed, hvalue⟩ := ih h
    obtain ⟨v, hv, hfixed', hvalue'⟩ := exists_slot?_of_assignName hw
    refine ⟨v, hv, hfixed.trans hfixed', ?_⟩
    rw [level?_assignName] at hvalue
    rw [hvalue, hvalue', List.mem_cons, or_and_right, or_assoc]

end Scope

/-! ### Checked lines and what they store -/

/-- A checked line with the scope at its checks: after its braces and the parameters it brings
in. -/
structure Checkpoint where
  /-- The line. -/
  line : CodeLine
  /-- The scope at its checks. -/
  scope : Scope
  deriving DecidableEq, Repr

namespace Checkpoint

/-- Whether the line is a declaration line. -/
def isDeclaration (c : Checkpoint) : Bool := isLikelyDeclaration c.line.code

/-- The variables that the line declares. -/
def declared (c : Checkpoint) : List Variable :=
  if c.isDeclaration then c.scope.declaredOn c.line.code else []

/-- The variables that the line stores in the innermost table: the parameters it brings in and then
the variables it declares. -/
def stored (c : Checkpoint) : List Variable :=
  c.scope.broughtIn c.line.code ++ c.declared.map (Variable.sinceRow c.line.row)

/-- The variable that the line leaves under a name in the innermost table, if it stores one. -/
def stored? (c : Checkpoint) (name : List Char) : Option Variable := lastNamed? name c.stored

variable {c : Checkpoint} {name : List Char} {u : Variable}

theorem stored?_of_declared (h : lastNamed? name c.declared = some u) :
    c.stored? name = some (u.sinceRow c.line.row) := by
  rw [stored?, stored, lastNamed?_append, lastNamed?_map (Variable.name_sinceRow _), h]
  rfl

/-- What a line stores without a value, one of its declarators declares. -/
theorem exists_declared_of_stored? (h : c.stored? name = some u) (hu : u.isInitialized = false) :
    ∃ v, lastNamed? name c.declared = some v ∧ u = v.sinceRow c.line.row := by
  rw [stored?, stored, lastNamed?_append, lastNamed?_map (Variable.name_sinceRow _),
    Option.or_eq_some_iff] at h
  rcases h with h | ⟨-, h⟩
  · obtain ⟨v, hv, rfl⟩ := Option.map_eq_some_iff.1 h
    exact ⟨v, hv, rfl⟩
  · have hmem := mem_of_lastNamed? h
    unfold Scope.broughtIn at hmem
    split at hmem
    · cases hmem
    · obtain ⟨_, _, _, _, rfl⟩ := exists_eq_of_mem_openedParameters hmem
      cases hu

/-- What other lines than declaration lines store has a value. -/
theorem isInitialized_of_stored? (h : c.stored? name = some u) (hline : c.isDeclaration = false) :
    u.isInitialized = true := by
  by_contra hu
  obtain ⟨v, hv, -⟩ := exists_declared_of_stored? h (by simpa using hu)
  simp [declared, hline] at hv

end Checkpoint

/-! ### What a line does to an entry -/

namespace Scope

/-- The checkpoint of a line that starts in the given scope. -/
def checkpoint (scope : Scope) (line : CodeLine) : Checkpoint := ⟨line, scope.enterLine line⟩

theorem broughtIn_declare (scope : Scope) (vs : List Variable) (code : List Char) :
    (scope.declare vs).broughtIn code = scope.broughtIn code := by
  rw [broughtIn, broughtIn, (sameBlocks_declare scope vs).isEmpty_eq]

/-- With its declarations in, a line has its entries and those that its braces left. -/
theorem slot?_declare_declared (scope : Scope) (line : CodeLine) (level : Nat)
    (name : List Char) :
    let c := scope.checkpoint line
    (c.scope.declare (c.declared.map (Variable.sinceRow line.row))).slot? level name =
      (if level = c.scope.depth then c.stored? name else none).or
        ((scope.trackBraces line.code).slot? level name) := by
  intro c
  have hscope : c.scope = (scope.trackBraces line.code).declare
      ((scope.trackBraces line.code).broughtIn line.code) :=
    seedParameters_eq_declare _ _
  have hstored : c.stored? name =
      (lastNamed? name (c.declared.map (Variable.sinceRow line.row))).or
        (lastNamed? name ((scope.trackBraces line.code).broughtIn line.code)) := by
    have hbrought : c.scope.broughtIn c.line.code =
        (scope.trackBraces line.code).broughtIn line.code := by
      rw [hscope, broughtIn_declare]
      rfl
    rw [Checkpoint.stored?, Checkpoint.stored, lastNamed?_append, hbrought]
    rfl
  have hentry : c.scope.slot? level name =
      (if level = c.scope.depth then
        lastNamed? name ((scope.trackBraces line.code).broughtIn line.code) else none).or
        ((scope.trackBraces line.code).slot? level name) := by
    rw [hscope, slot?_declare, depth_declare]
  rw [slot?_declare, hstored, hentry, ← Option.or_assoc]
  split <;> rfl

/-- An entry after a line was stored by the line or stood before it, and has got a value only by an
assignment to it. -/
theorem exists_slot?_of_afterLine {flow : Bool} {scope : Scope} {line : CodeLine} {level : Nat}
    {name : List Char} {v' : Variable}
    (h : (scope.afterLine flow line).slot? level name = some v') :
    let c := scope.checkpoint line
    ∃ v, (level = c.scope.depth ∧ c.stored? name = some v ∨
        (level = c.scope.depth → c.stored? name = none) ∧ scope.slot? level name = some v) ∧
      v'.fixed = v.fixed ∧
      (v'.isInitialized = true ↔ v.isInitialized = true ∨
        (c.isDeclaration = false ∧ c.scope.level? name = some level ∧
          (assignmentTo? line.code name).isSome = true)) := by
  intro c
  have hsource : ∀ v, (c.scope.declare (c.declared.map (Variable.sinceRow line.row))).slot?
      level name = some v → (level = c.scope.depth ∧ c.stored? name = some v ∨
        (level = c.scope.depth → c.stored? name = none) ∧ scope.slot? level name = some v) := by
    intro v hv
    rw [slot?_declare_declared, Option.or_eq_some_iff] at hv
    rcases hv with hv | ⟨hnone, hv⟩
    · rw [Option.ite_none_right_eq_some] at hv
      exact .inl hv
    · exact .inr ⟨fun hlevel => (if_pos hlevel).symm.trans hnone, slot?_of_braces hv⟩
  cases hline : c.isDeclaration with
  | true =>
    have hdeclared : c.declared = c.scope.declaredOn line.code := if_pos hline
    have hafter : scope.afterLine flow line =
        c.scope.declare (c.declared.map (Variable.sinceRow line.row)) := by
      rw [hdeclared, ← declareLine_eq_declare]
      exact if_pos hline
    exact ⟨v', hsource v' (hafter ▸ h), rfl, by simp⟩
  | false =>
    have hdeclared : c.declared = [] := if_neg (by simp [hline])
    have hafter : scope.afterLine flow line =
        c.scope.assign flow line.row line.code c.scope.visibleNames :=
      if_neg (Bool.eq_false_iff.1 hline)
    rw [hafter] at h
    obtain ⟨v, hv, hfixed, hvalue⟩ := exists_slot?_of_assign h
    rw [hdeclared, List.map_nil, declare_nil] at hsource
    have hvisible : c.scope.level? name = some level → name ∈ c.scope.visibleNames := by
      intro hlevel
      rw [mem_visibleNames, isSome_lookup, hlevel]
      rfl
    refine ⟨v, hsource v hv, hfixed, ?_⟩
    rw [hvalue, and_iff_right_of_imp fun h => hvisible h.1, and_iff_right rfl]

end Scope

/-! ### Runs -/

/-- The checkpoints of a run over lines from the given scope. -/
def checkpointsFrom (flow : Bool) (scope : Scope) : List CodeLine → List Checkpoint
  | [] => []
  | line :: lines =>
    scope.checkpoint line :: checkpointsFrom flow (scope.afterLine flow line) lines

/-- The checkpoints of the scope check over the lines of a file. -/
def checkpoints (flow : Bool) (lines : List (List Char)) : List Checkpoint :=
  checkpointsFrom flow {} ((scanLines lines).filter CodeLine.isChecked)

theorem checkpointsFrom_append (flow : Bool) (scope : Scope) (pre post : List CodeLine) :
    checkpointsFrom flow scope (pre ++ post) =
      checkpointsFrom flow scope pre ++ checkpointsFrom flow (scope.afterLines flow pre) post := by
  induction pre generalizing scope with
  | nil => rfl
  | cons line pre ih => exact congrArg (_ :: ·) (ih (scope.afterLine flow line))

theorem Scope.afterLines_concat (flow : Bool) (scope : Scope) (lines : List CodeLine)
    (line : CodeLine) :
    scope.afterLines flow (lines ++ [line]) =
      (scope.afterLines flow lines).afterLine flow line := by
  simp [afterLines]

theorem map_line_checkpointsFrom (flow : Bool) (scope : Scope) (lines : List CodeLine) :
    (checkpointsFrom flow scope lines).map Checkpoint.line = lines := by
  induction lines generalizing scope with
  | nil => rfl
  | cons line lines ih => exact congrArg (line :: ·) (ih _)

/-- How past checkpoints explain an entry: `d` stored it, nothing replaced it, and its value came
with it or by an assignment to it. -/
structure Explains (past : List Checkpoint) (level : Nat) (name : List Char) (v : Variable)
    (d : Checkpoint) : Prop where
  /-- The line that stored the entry is one of them. -/
  mem : d ∈ past
  /-- It stored into the table at the level. -/
  depth_eq : d.scope.depth = level
  /-- No later line stored the name there. -/
  last : ∀ e ∈ past, d.line.row < e.line.row → e.scope.depth = level → e.stored? name = none
  /-- What was stored, and when it has a value. -/
  stored : ∃ u, d.stored? name = some u ∧ v.fixed = u.fixed ∧
    (v.isInitialized = true ↔ u.isInitialized = true ∨
      ∃ e ∈ past, d.line.row < e.line.row ∧ e.isDeclaration = false ∧
        e.scope.level? name = some level ∧ (assignmentTo? e.line.code name).isSome = true)

namespace Explains

variable {past : List Checkpoint} {level : Nat} {name : List Char} {v w : Variable}
  {c d : Checkpoint}

/-- A line explains the entries it stores. -/
theorem self (hrows : ∀ e ∈ past, e.line.row < c.line.row) (hstored : c.stored? name = some w)
    (hfixed : v.fixed = w.fixed) (hvalue : v.isInitialized = w.isInitialized) :
    Explains (past ++ [c]) c.scope.depth name v c := by
  have hle : ∀ e ∈ past ++ [c], ¬c.line.row < e.line.row := by
    intro e he
    rcases List.mem_append.1 he with he | he
    · exact Nat.not_lt_of_lt (hrows e he)
    · rw [List.mem_singleton.1 he]
      exact Nat.lt_irrefl _
  refine ⟨by simp, rfl, fun e he hlt => absurd hlt (hle e he), w, hstored, hfixed, ?_⟩
  rw [hvalue]
  refine ⟨.inl, ?_⟩
  rintro (hw | ⟨e, he, hlt, -⟩)
  · exact hw
  · exact absurd hlt (hle e he)

/-- A line that does not store the name at the level takes part by its assignment only. -/
theorem snoc (h : Explains past level name w d) (hrows : ∀ e ∈ past, e.line.row < c.line.row)
    (hstored : level = c.scope.depth → c.stored? name = none) (hfixed : v.fixed = w.fixed)
    (hvalue : v.isInitialized = true ↔ w.isInitialized = true ∨
      (c.isDeclaration = false ∧ c.scope.level? name = some level ∧
        (assignmentTo? c.line.code name).isSome = true)) :
    Explains (past ++ [c]) level name v d where
  mem := List.mem_append_left _ h.mem
  depth_eq := h.depth_eq
  last := by
    intro e he hlt hdepth
    rcases List.mem_append.1 he with he | he
    · exact h.last e he hlt hdepth
    · rw [List.mem_singleton.1 he] at hdepth ⊢
      exact hstored hdepth.symm
  stored := by
    obtain ⟨u, hu, hfixed', hvalue'⟩ := h.stored
    refine ⟨u, hu, hfixed.trans hfixed', ?_⟩
    simp only [List.mem_append, List.mem_singleton, or_and_right, exists_or, exists_eq_left,
      hrows d h.mem, true_and]
    rw [hvalue, hvalue', or_assoc]

end Explains

/-- Every entry of a scope that a run has reached is explained by the lines of the run. -/
theorem exists_explains (flow : Bool) {lines : List CodeLine}
    (hrows : lines.Pairwise fun a b => a.row < b.row) {level : Nat} {name : List Char}
    {v : Variable} (h : (Scope.afterLines flow {} lines).slot? level name = some v) :
    ∃ d, Explains (checkpointsFrom flow {} lines) level name v d := by
  induction lines using List.reverseRecOn generalizing level name v with
  | nil =>
    have hnone : ({} : Scope).slot? level name = none := ite_self none
    exact absurd (hnone.symm.trans h) (by simp)
  | append_singleton lines line ih =>
    obtain ⟨hpast, -, hline⟩ := List.pairwise_append.1 hrows
    have hcheckpoints : checkpointsFrom flow {} (lines ++ [line]) =
        checkpointsFrom flow {} lines ++ [(Scope.afterLines flow {} lines).checkpoint line] :=
      checkpointsFrom_append flow {} lines [line]
    have hbelow : ∀ e ∈ checkpointsFrom flow {} lines, e.line.row < line.row := by
      intro e he
      refine hline e.line ?_ line (List.mem_singleton_self line)
      rw [← map_line_checkpointsFrom flow {} lines]
      exact List.mem_map_of_mem he
    rw [Scope.afterLines_concat] at h
    rw [hcheckpoints]
    obtain ⟨w, hsource, hfixed, hvalue⟩ := Scope.exists_slot?_of_afterLine h
    rcases hsource with ⟨rfl, hstored⟩ | ⟨hstored, hw⟩
    · have hw := Checkpoint.isInitialized_of_stored? hstored
      refine ⟨_, .self hbelow hstored hfixed ?_⟩
      rw [Bool.eq_iff_iff, hvalue]
      exact or_iff_left_of_imp fun h => hw h.1
    · obtain ⟨d, hd⟩ := ih hpast hw
      exact ⟨d, hd.snoc hbelow hstored hfixed hvalue⟩

end DefectScan
