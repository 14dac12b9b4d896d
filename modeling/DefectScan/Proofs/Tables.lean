import DefectScan.Proofs.Words
import DefectScan.Scope.Check
import Mathlib.Data.List.Basic
import Mathlib.Data.Option.Basic

/-!
# The tables of a scope

A scope is a stack of symbol tables with the globals at its bottom. This module says once what
each operation of the scope check does to that stack: braces add an empty table on top or take the
top one away, declarations store into the top table, and an assignment changes one entry of the
uppermost table that has the name. Properties of tables that these four keep hold in every scope
that the check reaches.
-/

namespace DefectScan

/-- The last of some variables that has the given name. -/
def lastNamed? (name : List Char) (vs : List Variable) : Option Variable :=
  vs.reverse.find? fun v => v.name == name

@[simp] theorem lastNamed?_nil (name : List Char) : lastNamed? name [] = none := rfl

theorem lastNamed?_append (name : List Char) (vs ws : List Variable) :
    lastNamed? name (vs ++ ws) = (lastNamed? name ws).or (lastNamed? name vs) := by
  simp [lastNamed?]

theorem lastNamed?_singleton (name : List Char) (v : Variable) :
    lastNamed? name [v] = if v.name = name then some v else none := by
  by_cases h : v.name = name <;> simp [lastNamed?, h]

theorem mem_of_lastNamed? {name : List Char} {vs : List Variable} {v : Variable}
    (h : lastNamed? name vs = some v) : v ∈ vs :=
  List.mem_reverse.1 (List.mem_of_find?_eq_some h)

theorem name_of_lastNamed? {name : List Char} {vs : List Variable} {v : Variable}
    (h : lastNamed? name vs = some v) : v.name = name :=
  beq_iff_eq.1 (List.find?_some (p := fun v : Variable => v.name == name) h)

/-- A change that keeps the names changes the last variable of a name. -/
theorem lastNamed?_map {f : Variable → Variable} (hf : ∀ v, (f v).name = v.name)
    (name : List Char) (vs : List Variable) :
    lastNamed? name (vs.map f) = (lastNamed? name vs).map f := by
  have hname : (fun v : Variable => v.name == name) ∘ f = fun v => v.name == name := by
    funext v
    simp [hf]
  rw [lastNamed?, lastNamed?, ← List.map_reverse, List.find?_map, hname]

namespace SymbolTable

@[simp] theorem get?_nil (name : List Char) : get? [] name = none := rfl

theorem get?_cons (e : List Char × Variable) (table : SymbolTable) (name : List Char) :
    get? (e :: table) name = if e.1 = name then some e.2 else table.get? name := by
  rw [get?, List.lookup_cons]
  by_cases h : e.1 = name
  · rw [if_pos h, beq_iff_eq.2 h.symm]
  · rw [if_neg h, beq_eq_false_iff_ne.2 (Ne.symm h), get?]

theorem mem_of_get? {table : SymbolTable} {name : List Char} {v : Variable}
    (h : table.get? name = some v) : (name, v) ∈ table := by
  induction table with
  | nil => cases h
  | cons e table ih =>
    rw [get?_cons] at h
    split at h
    · next hkey =>
      cases h
      exact hkey ▸ List.mem_cons_self
    · exact List.mem_cons_of_mem _ (ih h)

theorem isSome_get? (table : SymbolTable) (name : List Char) :
    (table.get? name).isSome = true ↔ name ∈ table.names := by
  induction table with
  | nil => simp [names]
  | cons e table ih =>
    have hnames : names (e :: table) = e.1 :: names table := rfl
    rw [get?_cons, hnames, List.mem_cons, ← ih]
    by_cases h : e.1 = name
    · simp [h]
    · simp [h, Ne.symm h]

/-- After storing a variable its name leads to it and other names lead where they did. -/
theorem get?_store (table : SymbolTable) (key : List Char) (v : Variable) (name : List Char) :
    (table.store key v).get? name = if key = name then some v else table.get? name := by
  induction table with
  | nil => rw [store, get?_cons]
  | cons e table ih =>
    rw [store]
    by_cases he : e.1 = key
    · rw [if_pos he, get?_cons, get?_cons, he]
      by_cases h : key = name <;> simp only [h, if_true, if_false]
    · rw [if_neg he, get?_cons, get?_cons, ih]
      by_cases h : key = name
      · have hne : e.1 ≠ name := fun heq => he (heq.trans h.symm)
        rw [if_neg hne, if_pos h, if_pos h]
      · rw [if_neg h, if_neg h]

/-- Of several stored variables of a name the last one stays. -/
theorem get?_storeAll (table : SymbolTable) (vs : List Variable) (name : List Char) :
    (table.storeAll vs).get? name = (lastNamed? name vs).or (table.get? name) := by
  induction vs generalizing table with
  | nil => rfl
  | cons v vs ih =>
    have hlast : lastNamed? name (v :: vs) =
        (lastNamed? name vs).or (if v.name = name then some v else none) := by
      rw [← lastNamed?_singleton, ← lastNamed?_append, List.singleton_append]
    have hstep : table.storeAll (v :: vs) = (table.store v.name v).storeAll vs := rfl
    rw [hstep, ih, get?_store, hlast, Option.or_assoc]
    by_cases h : v.name = name <;> simp [h]

/-- A table has the stored variable and otherwise what it had. -/
theorem eq_or_mem_of_mem_values_store {table : SymbolTable} {key : List Char} {v w : Variable}
    (h : w ∈ (table.store key v).values) : w = v ∨ w ∈ table.values := by
  induction table with
  | nil => exact .inl (List.mem_singleton.1 h)
  | cons e table ih =>
    rw [store] at h
    split at h
    · exact (List.mem_cons.1 h).imp_right (List.mem_cons_of_mem _)
    · rcases List.mem_cons.1 h with rfl | h
      · exact .inr List.mem_cons_self
      · exact (ih h).imp_right (List.mem_cons_of_mem _)

theorem mem_names_store (table : SymbolTable) (key : List Char) (v : Variable)
    (name : List Char) :
    name ∈ (table.store key v).names ↔ name = key ∨ name ∈ table.names := by
  rw [← isSome_get?, ← isSome_get?, get?_store]
  by_cases h : key = name
  · simp [h]
  · simp [h, Ne.symm h]

/-- Storing keeps one variable for each name. -/
theorem nodup_names_store {table : SymbolTable} (h : table.names.Nodup) (key : List Char)
    (v : Variable) : (table.store key v).names.Nodup := by
  induction table with
  | nil => simp [store, names]
  | cons e table ih =>
    obtain ⟨he, htable⟩ := List.nodup_cons.1 h
    rw [store]
    by_cases hkey : e.1 = key
    · rw [if_pos hkey]
      exact List.nodup_cons.2 ⟨hkey ▸ he, htable⟩
    · rw [if_neg hkey]
      refine List.nodup_cons.2 ⟨fun hm => ?_, ih htable⟩
      exact ((mem_names_store table key v e.1).1 hm).elim hkey he

section Modify

variable (f : Variable → Variable)

@[simp] theorem names_modify (table : SymbolTable) (name : List Char) :
    (table.modify name f).names = table.names := by
  rw [names, modify, List.map_map]
  apply List.map_congr_left
  intro e _
  by_cases h : e.1 = name <;> simp [h]

/-- Changing the variable of a name leaves the others as they are. -/
theorem get?_modify (table : SymbolTable) (name name' : List Char) :
    (table.modify name f).get? name' =
      if name' = name then (table.get? name').map f else table.get? name' := by
  induction table with
  | nil => simp [modify]
  | cons e table ih =>
    have hstep : modify (e :: table) name f =
        (if e.1 = name then (e.1, f e.2) else e) :: modify table name f := rfl
    rw [hstep, get?_cons, get?_cons, ih]
    by_cases he : e.1 = name
    · by_cases hn : name' = name
      · simp [he, hn]
      · simp [he, hn, Ne.symm hn]
    · by_cases hn : name' = name
      · simp [he, hn]
      · simp [he, hn]

theorem mem_values_modify {table : SymbolTable} {name : List Char} {w : Variable}
    (h : w ∈ (table.modify name f).values) : ∃ v ∈ table.values, w = v ∨ w = f v := by
  rw [values, modify, List.map_map] at h
  obtain ⟨e, he, rfl⟩ := List.mem_map.1 h
  refine ⟨e.2, List.mem_map_of_mem he, ?_⟩
  dsimp only [Function.comp_apply]
  split
  · exact .inr rfl
  · exact .inl rfl

end Modify

/-- A name that a table does not have changes nothing. -/
theorem modify_eq_self {table : SymbolTable} {name : List Char} (h : name ∉ table.names)
    (f : Variable → Variable) : table.modify name f = table := by
  refine (List.map_congr_left fun e he => ?_).trans (List.map_id table)
  have hne : e.1 ≠ name := fun heq => h (heq ▸ List.mem_map_of_mem he)
  simp [hne]

/-- Change the variable of a name in the first of some tables that has it. -/
def modifyFirst (name : List Char) (f : Variable → Variable) :
    List SymbolTable → List SymbolTable
  | [] => []
  | table :: tables =>
    if (table.get? name).isSome then table.modify name f :: tables
    else table :: modifyFirst name f tables

end SymbolTable

/-! ### Variables that lines store -/

theorem name_ne_nil_of_nameWithDimensions? {s name : List Char} {isArray : Bool}
    (h : nameWithDimensions? s = some (name, isArray)) : name ≠ [] := by
  unfold nameWithDimensions? at h
  dsimp only at h
  split at h
  · next hname =>
    cases h
    obtain ⟨c, hc, hstart⟩ := (Option.any_eq_true _ _).1 (Bool.and_eq_true_iff.1 hname).1
    obtain ⟨r, rfl⟩ := List.head?_eq_some_iff.1 hc
    rw [Text.wordHead, List.takeWhile_cons_of_pos (Text.isWord_of_isNameStart hstart)]
    exact List.cons_ne_nil _ _
  · cases h

theorem name_ne_nil_of_lastName? {s typePart name : List Char} {isArray : Bool}
    (h : lastName? s = some (typePart, name, isArray)) : name ≠ [] := by
  obtain ⟨p, -, hp⟩ := List.exists_of_findSome?_eq_some h
  obtain ⟨⟨name', isArray'⟩, hname, heq⟩ := Option.map_eq_some_iff.1 hp
  cases heq
  exact name_ne_nil_of_nameWithDimensions? hname

/-- Every variable of a declaration line is that of some declarator with a name. -/
theorem exists_named_of_mem_parseDeclaration {code : List Char} {v : Variable}
    (h : v ∈ parseDeclaration code) :
    ∃ typeName name isPointer isArray init,
      name ≠ [] ∧ v = .declared typeName name isPointer isArray init := by
  unfold parseDeclaration at h
  dsimp only at h
  split at h
  · cases h
  · split at h
    · cases h
    · split at h
      · next hlast =>
        split at h
        · cases h
        · rcases List.mem_cons.1 h with rfl | h
          · exact ⟨_, _, _, _, _, name_ne_nil_of_lastName? hlast, rfl⟩
          · obtain ⟨item, -, hv⟩ := List.mem_filterMap.1 h
            simp only [furtherDeclarator?, Option.bind_eq_bind, Option.bind_eq_some_iff,
              Option.pure_def, Option.some.injEq] at hv
            obtain ⟨_, -, _, hname, rfl⟩ := hv
            exact ⟨_, _, _, _, _, name_ne_nil_of_nameWithDimensions? hname, rfl⟩
      · cases h

theorem exists_declared_of_mem_parseDeclaration {code : List Char} {v : Variable}
    (h : v ∈ parseDeclaration code) :
    ∃ typeName name isPointer isArray init,
      v = .declared typeName name isPointer isArray init := by
  obtain ⟨typeName, name, isPointer, isArray, init, -, hv⟩ :=
    exists_named_of_mem_parseDeclaration h
  exact ⟨typeName, name, isPointer, isArray, init, hv⟩

/-- Parameters have a name and a value, of no particular kind. -/
theorem exists_named_of_mem_openedParameters {code : List Char} {v : Variable}
    (h : v ∈ Scope.openedParameters code) :
    ∃ name typeName isPointer isArray,
      name ≠ [] ∧ v = { name, typeName, isPointer, isArray, isInitialized := true } := by
  unfold Scope.openedParameters at h
  dsimp only at h
  split at h
  · split at h
    · cases h
    · obtain ⟨param, -, hv⟩ := List.mem_filterMap.1 h
      simp only [Scope.parameter?, Option.bind_eq_bind, Option.bind_eq_some_iff, Option.pure_def,
        Option.some.injEq] at hv
      obtain ⟨_, hlast, rfl⟩ := hv
      exact ⟨_, _, _, _, name_ne_nil_of_lastName? hlast, rfl⟩
  · cases h

theorem exists_eq_of_mem_openedParameters {code : List Char} {v : Variable}
    (h : v ∈ Scope.openedParameters code) :
    ∃ name typeName isPointer isArray,
      v = { name, typeName, isPointer, isArray, isInitialized := true } := by
  obtain ⟨name, typeName, isPointer, isArray, -, hv⟩ := exists_named_of_mem_openedParameters h
  exact ⟨name, typeName, isPointer, isArray, hv⟩

/-- An assignment keeps the name. -/
@[simp] theorem Variable.name_assigned (flow : Bool) (row : Nat) (value : List Char)
    (v : Variable) : (v.assigned flow row value).name = v.name := by
  unfold assigned
  split <;> rfl

@[simp] theorem Variable.name_sinceRow (row : Nat) (v : Variable) :
    (v.sinceRow row).name = v.name := by
  unfold sinceRow
  split <;> rfl

namespace Scope

/-- The tables of a scope, innermost first and the globals last. -/
def tables (scope : Scope) : List SymbolTable :=
  scope.blocks.map Block.symbols ++ [scope.globals]

@[simp] theorem length_tables (scope : Scope) : scope.tables.length = scope.depth + 1 := by
  simp [tables, depth]

theorem tables_eq_cons (scope : Scope) : scope.tables = scope.current :: scope.tables.tail := by
  unfold tables current
  cases scope.blocks <;> rfl

/-- A name means the variable of the innermost table that has it. -/
theorem lookup_eq_findSome? (scope : Scope) (name : List Char) :
    scope.lookup name = scope.tables.findSome? fun table => table.get? name := by
  have hblocks : scope.blocks.findSome? (fun b => b.symbols.get? name) =
      (scope.blocks.map Block.symbols).findSome? fun table => table.get? name := by
    rw [List.findSome?_map]
    rfl
  rw [lookup, tables, List.findSome?_append, hblocks]
  simp

/-- The visible names are those of the tables, from the globals inwards. -/
theorem visibleNames_eq (scope : Scope) :
    scope.visibleNames = (scope.tables.reverse.map SymbolTable.names).flatten.eraseDups := by
  simp [visibleNames, tables, ← List.map_reverse, Function.comp_def]

/-- A name is visible if and only if it means a variable. -/
theorem mem_visibleNames (scope : Scope) (name : List Char) :
    name ∈ scope.visibleNames ↔ (scope.lookup name).isSome = true := by
  rw [visibleNames_eq, lookup_eq_findSome?, List.mem_eraseDups, List.findSome?_isSome_iff]
  simp only [List.mem_flatten, List.mem_map, List.mem_reverse, exists_exists_and_eq_and,
    SymbolTable.isSome_get?]

/-! ### Braces -/

@[simp] theorem tables_push (scope : Scope) (isStruct : Bool) :
    (scope.push isStruct).tables = [] :: scope.tables := rfl

theorem tables_pop (scope : Scope) :
    scope.pop.tables = if scope.depth = 0 then scope.tables else scope.tables.tail := by
  unfold pop tables depth
  cases scope.blocks <;> rfl

/-- What opening and closing a block keep, the braces of a text keep. -/
theorem braces_induction {P : Scope → Prop} (hpush : ∀ scope isStruct, P scope →
    P (scope.push isStruct)) (hpop : ∀ scope, P scope → P scope.pop) {scope : Scope}
    (h : P scope) (isStruct : Bool) (text : List Char) : P (scope.braces isStruct text) := by
  induction text generalizing scope isStruct with
  | nil => exact h
  | cons c text ih =>
    rw [braces]
    split
    · exact ih (hpush scope isStruct h) false
    · split
      · exact ih (hpop scope h) isStruct
      · exact ih h isStruct

@[simp] theorem tables_trackBraces (scope : Scope) (code : List Char) :
    (scope.trackBraces code).tables =
      (scope.braces (scope.pendingStruct || opensStruct code) code).tables := rfl

/-! ### Declarations -/

/-- Declaring stores into the innermost table. -/
theorem tables_declare (scope : Scope) (vs : List Variable) :
    (scope.declare vs).tables = scope.current.storeAll vs :: scope.tables.tail := by
  unfold declare setCurrent tables current
  cases scope.blocks <;> simp

@[simp] theorem depth_declare (scope : Scope) (vs : List Variable) :
    (scope.declare vs).depth = scope.depth := by
  unfold declare setCurrent depth
  cases scope.blocks <;> simp

/-- The parameters that a line of code brings into a scope, none outside all blocks. -/
def broughtIn (scope : Scope) (code : List Char) : List Variable :=
  if scope.blocks.isEmpty then [] else openedParameters code

/-- The variables that a declaration line declares in a scope, none among the members of a
struct. -/
def declaredOn (scope : Scope) (code : List Char) : List Variable :=
  if scope.inStruct then [] else parseDeclaration code

theorem declare_nil (scope : Scope) : scope.declare [] = scope := by
  obtain ⟨globals, blocks, pending⟩ := scope
  cases blocks <;> rfl

theorem seedParameters_eq_declare (scope : Scope) (code : List Char) :
    scope.seedParameters code = scope.declare (scope.broughtIn code) := by
  unfold seedParameters broughtIn
  split
  · rw [declare_nil]
  · rfl

theorem declareLine_eq_declare (scope : Scope) (row : Nat) (code : List Char) :
    scope.declareLine row code =
      scope.declare ((scope.declaredOn code).map (Variable.sinceRow row)) := by
  unfold declareLine declaredOn
  split
  · rw [List.map_nil, declare_nil]
  · rfl

/-! ### Assignments -/

/-- An assignment changes the innermost table that has the name. -/
theorem tables_modify (scope : Scope) (name : List Char) (f : Variable → Variable) :
    (scope.modify name f).tables = SymbolTable.modifyFirst name f scope.tables := by
  have hblocks : ∀ blocks : List Block,
      SymbolTable.modifyFirst name f (blocks.map Block.symbols ++ [scope.globals]) =
        (modifyBlocks name f blocks).elim
          (blocks.map Block.symbols ++ [scope.globals.modify name f])
          fun blocks' => blocks'.map Block.symbols ++ [scope.globals] := by
    intro blocks
    induction blocks with
    | nil =>
      simp only [List.map_nil, List.nil_append, SymbolTable.modifyFirst, modifyBlocks,
        Option.elim_none]
      split
      · rfl
      · next h => rw [SymbolTable.modify_eq_self (mt (SymbolTable.isSome_get? _ _).2 h)]
    | cons block blocks ih =>
      rw [List.map_cons, List.cons_append, SymbolTable.modifyFirst, modifyBlocks]
      split
      · rfl
      · rw [ih]
        cases modifyBlocks name f blocks <;> rfl
  unfold modify tables
  rw [hblocks]
  cases modifyBlocks name f scope.blocks <;> rfl

/-- What changing one variable keeps, the assignments of a line keep. -/
theorem assign_induction {P : Scope → Prop} {flow : Bool} {row : Nat} {code : List Char}
    (hmodify : ∀ scope name value, P scope →
      P (scope.modify name (Variable.assigned flow row value)))
    {scope : Scope} (h : P scope) (names : List (List Char)) :
    P (scope.assign flow row code names) := by
  unfold assign
  induction names generalizing scope with
  | nil => exact h
  | cons name names ih =>
    rw [List.foldl_cons]
    apply ih
    split
    · split
      · exact hmodify scope name _ h
      · exact h
    · exact h

/-! ### Properties of all tables -/

section Forall

variable {T : SymbolTable → Prop} {scope : Scope} (h : ∀ table ∈ scope.tables, T table)
include h

theorem forall_tables_braces (hnil : T []) (isStruct : Bool) (text : List Char) :
    ∀ table ∈ (scope.braces isStruct text).tables, T table := by
  refine braces_induction (P := fun scope => ∀ table ∈ scope.tables, T table) ?_ ?_ h isStruct text
  · intro scope isStruct h
    rw [tables_push]
    exact List.forall_mem_cons.2 ⟨hnil, h⟩
  · intro scope h table hm
    rw [tables_pop] at hm
    split at hm
    · exact h table hm
    · exact h table (List.mem_of_mem_tail hm)

theorem forall_tables_declare {vs : List Variable}
    (hstore : ∀ v ∈ vs, ∀ table, T table → T (table.store v.name v)) :
    ∀ table ∈ (scope.declare vs).tables, T table := by
  rw [tables_eq_cons, List.forall_mem_cons] at h
  rw [tables_declare, List.forall_mem_cons]
  refine ⟨?_, h.2⟩
  exact List.foldlRecOn vs (fun table v => SymbolTable.store v.name v table) h.1
    fun table ht v hv => hstore v hv table ht

theorem forall_tables_modify {name : List Char} {f : Variable → Variable}
    (hmodify : ∀ table, T table → T (table.modify name f)) :
    ∀ table ∈ (scope.modify name f).tables, T table := by
  rw [tables_modify]
  generalize scope.tables = tables at h
  induction tables with
  | nil => exact h
  | cons table tables ih =>
    obtain ⟨hhead, htail⟩ := List.forall_mem_cons.1 h
    rw [SymbolTable.modifyFirst]
    split
    · exact List.forall_mem_cons.2 ⟨hmodify table hhead, htail⟩
    · exact List.forall_mem_cons.2 ⟨hhead, ih htail⟩

/-- A property of tables holds at the checks of a line if storing the parameters keeps it. -/
theorem forall_tables_enterLine (hnil : T []) {line : CodeLine}
    (hstore : ∀ v ∈ openedParameters line.code, ∀ table, T table → T (table.store v.name v)) :
    ∀ table ∈ (scope.enterLine line).tables, T table := by
  have hbraces : ∀ table ∈ (scope.trackBraces line.code).tables, T table :=
    forall_tables_braces h hnil _ _
  rw [enterLine, seedParameters_eq_declare]
  refine forall_tables_declare hbraces fun v hv => hstore v ?_
  unfold broughtIn at hv
  split at hv
  · cases hv
  · exact hv

/-- A property of tables holds after a line if storing what the line stores and assigning keep
it. -/
theorem forall_tables_afterLine (hnil : T []) {flow : Bool} {line : CodeLine}
    (hstore : ∀ v ∈ openedParameters line.code ++
        (parseDeclaration line.code).map (Variable.sinceRow line.row),
      ∀ table, T table → T (table.store v.name v))
    (hassign : ∀ name value table, T table →
      T (table.modify name (Variable.assigned flow line.row value))) :
    ∀ table ∈ (scope.afterLine flow line).tables, T table := by
  have henter := forall_tables_enterLine h hnil fun v hv =>
    hstore v (List.mem_append_left _ hv)
  unfold afterLine
  dsimp only
  split
  · rw [declareLine_eq_declare]
    refine forall_tables_declare henter fun v hv => hstore v (List.mem_append_right _ ?_)
    unfold declaredOn at hv
    split at hv
    · cases hv
    · exact hv
  · refine assign_induction (P := fun scope => ∀ table ∈ scope.tables, T table) ?_ henter _
    exact fun scope name value h => forall_tables_modify h (hassign name value)

end Forall

end Scope

end DefectScan
