import DefectScan.Proofs.CodeView
import DefectScan.Proofs.Tables

/-!
# Coherent symbol tables

Declarations, parameters and assignments write four fields of a variable that depend on each
other: whether it is a pointer, whether it has a value, of which kind the value is, and since which
row it may be null. The main statement says which combinations occur in the scopes that the check
reaches, by default and with `flow`, and that each table has one variable for each name.
-/

namespace DefectScan

/-- What the fields of a variable say together after the row `last` was read. -/
structure Variable.Coherent (flow : Bool) (last : Nat) (v : Variable) : Prop where
  /-- Only pointers have values of a particular kind. -/
  initKind_of_not_isPointer : v.isPointer = false → v.initKind = .none
  /-- Only pointers may be null. -/
  nullSince_of_not_isPointer : v.isPointer = false → v.nullSince = none
  /-- A value of a particular kind is a value. -/
  isInitialized_of_initKind : v.initKind ≠ .none → v.isInitialized = true
  /-- What may be null has a value. -/
  isInitialized_of_nullSince : v.nullSince ≠ none → v.isInitialized = true
  /-- A null pointer is null since some row. -/
  nullSince_of_null : v.initKind = .null → v.nullSince ≠ none
  /-- That row was read. -/
  le_last : ∀ row, v.nullSince = some row → row ≤ last
  /-- With `flow` only null pointers may be null. -/
  null_iff_of_flow : flow = true → (v.nullSince ≠ none ↔ v.initKind = .null)

namespace Variable

section

variable {flow : Bool} {last row : Nat} {v : Variable}

theorem Coherent.mono (h : v.Coherent flow last) (hle : last ≤ row) : v.Coherent flow row :=
  { h with le_last := fun r hr => Nat.le_trans (h.le_last r hr) hle }

/-- A variable of which nothing is known but whether it has a value. -/
private theorem coherent_of_plain (hkind : v.initKind = .none) (hnull : v.nullSince = none) :
    v.Coherent flow last where
  initKind_of_not_isPointer _ := hkind
  nullSince_of_not_isPointer _ := hnull
  isInitialized_of_initKind h := absurd hkind h
  isInitialized_of_nullSince h := absurd hnull h
  nullSince_of_null h := by simp [hkind] at h
  le_last r hr := by simp [hnull] at hr
  null_iff_of_flow _ := by simp [hkind, hnull]

/-- A variable whose kind of value was just set: null since this row or not at all. -/
private theorem coherent_of_kind (hpointer : v.isPointer = true) (hvalue : v.isInitialized = true)
    (hnull : v.initKind = .null → v.nullSince = some row)
    (hother : v.initKind ≠ .null → ∀ r, v.nullSince = some r → flow = false ∧ r ≤ row) :
    v.Coherent flow row where
  initKind_of_not_isPointer h := by simp [hpointer] at h
  nullSince_of_not_isPointer h := by simp [hpointer] at h
  isInitialized_of_initKind _ := hvalue
  isInitialized_of_nullSince _ := hvalue
  nullSince_of_null h := by simp [hnull h]
  le_last r hr := by
    by_cases h : v.initKind = .null
    · rw [hnull h] at hr
      cases hr
      exact Nat.le_refl row
    · exact (hother h r hr).2
  null_iff_of_flow hflow := by
    refine ⟨fun hsome => ?_, fun h => by simp [hnull h]⟩
    obtain ⟨r, hr⟩ := Option.ne_none_iff_exists'.1 hsome
    by_contra h
    exact absurd (hother h r hr).1 (by simp [hflow])

/-- Parameters are coherent. -/
theorem coherent_of_mem_openedParameters {code : List Char}
    (h : v ∈ Scope.openedParameters code) : v.Coherent flow last := by
  obtain ⟨_, _, _, _, rfl⟩ := exists_eq_of_mem_openedParameters h
  exact coherent_of_plain rfl rfl

/-- Declared variables are coherent on the row that declares them. -/
theorem coherent_sinceRow_of_mem_parseDeclaration {code : List Char}
    (h : v ∈ parseDeclaration code) : (v.sinceRow row).Coherent flow row := by
  obtain ⟨typeName, name, isPointer, isArray, init, rfl⟩ :=
    exists_declared_of_mem_parseDeclaration h
  cases init with
  | none => exact coherent_of_plain rfl rfl
  | some value =>
    cases isPointer with
    | false => exact coherent_of_plain rfl rfl
    | true =>
      unfold sinceRow
      split
      · next hnull =>
        exact coherent_of_kind rfl rfl (fun _ => rfl) fun hother => absurd hnull hother
      · next hother =>
        exact coherent_of_kind rfl rfl (fun hnull => absurd hnull hother) fun _ _ hr => by cases hr

/-- Assigned variables are coherent on the row that assigns them. -/
theorem Coherent.assigned (h : v.Coherent flow last) (hle : last ≤ row) (value : List Char) :
    (v.assigned flow row value).Coherent flow row := by
  unfold Variable.assigned
  split
  · next hpointer =>
    refine coherent_of_kind hpointer rfl ?_ ?_
    · intro hnull
      exact if_pos hnull
    · intro hother r hr
      dsimp only at hother hr
      rw [if_neg hother] at hr
      split at hr
      · cases hr
      · next hflow => exact ⟨by simpa using hflow, Nat.le_trans (h.le_last r hr) hle⟩
  · next hpointer =>
    have hpointer : v.isPointer = false := by simpa using hpointer
    exact coherent_of_plain (h.initKind_of_not_isPointer hpointer)
      (h.nullSince_of_not_isPointer hpointer)

end

end Variable

/-- A table of coherent variables, each stored under its own name and no two under one. -/
structure SymbolTable.Coherent (flow : Bool) (last : Nat) (table : SymbolTable) : Prop where
  /-- No two variables have one name. -/
  nodup : table.names.Nodup
  /-- A variable is stored under its name. -/
  name_eq : ∀ key v, table.get? key = some v → v.name = key
  /-- The variables are coherent. -/
  entries : ∀ v ∈ table.values, v.Coherent flow last

namespace SymbolTable

variable {flow : Bool} {last row : Nat} {table : SymbolTable}

theorem coherent_nil : Coherent flow last [] where
  nodup := List.nodup_nil
  name_eq _ _ h := by cases h
  entries _ h := by cases h

theorem Coherent.mono (h : table.Coherent flow last) (hle : last ≤ row) :
    table.Coherent flow row :=
  { h with entries := fun v hv => (h.entries v hv).mono hle }

/-- Declarations and parameters store each variable under its own name. -/
theorem Coherent.store (h : table.Coherent flow last) {v : Variable} (hv : v.Coherent flow last) :
    (table.store v.name v).Coherent flow last where
  nodup := nodup_names_store h.nodup v.name v
  name_eq key w hw := by
    rw [get?_store] at hw
    split at hw
    · next hkey => exact Option.some.inj hw ▸ hkey
    · exact h.name_eq key w hw
  entries w hw := by
    rcases eq_or_mem_of_mem_values_store hw with rfl | hw
    · exact hv
    · exact h.entries w hw

/-- An assignment changes a variable where it is stored and keeps its name. -/
theorem Coherent.assigned (h : table.Coherent flow last) (hle : last ≤ row)
    (name value : List Char) :
    (table.modify name (Variable.assigned flow row value)).Coherent flow row where
  nodup := by
    rw [names_modify]
    exact h.nodup
  name_eq key w hw := by
    rw [get?_modify] at hw
    split at hw
    · obtain ⟨v, hv, rfl⟩ := Option.map_eq_some_iff.1 hw
      rw [Variable.name_assigned]
      exact h.name_eq key v hv
    · exact h.name_eq key w hw
  entries w hw := by
    obtain ⟨v, hv, rfl | rfl⟩ := mem_values_modify _ hw
    · exact (h.entries w hv).mono hle
    · exact (h.entries v hv).assigned hle value

end SymbolTable

/-- What each line keeps holds after every step of the scope check: a property of the scope and of
the last row read. -/
theorem scopeSteps_induction {P : Nat → Scope → Prop} {flow : Bool} (hempty : P 0 {})
    (hline : ∀ last scope (line : CodeLine), P last scope → last ≤ line.row →
      P line.row (scope.afterLine flow line))
    (lines : List (List Char)) : ∀ step ∈ scopeSteps flow lines, P step.row step.scope := by
  have hfrom : ∀ (lines : List CodeLine) (last : Nat) (scope : Scope), P last scope →
      (∀ line ∈ lines, last ≤ line.row) → lines.Pairwise (fun a b => a.row < b.row) →
      ∀ step ∈ scopeStepsFrom flow scope lines, P step.row step.scope := by
    intro lines
    induction lines with
    | nil => exact fun _ _ _ _ _ step hstep => by cases hstep
    | cons line lines ih =>
      intro last scope h hrows hpairs
      obtain ⟨hbelow, hpairs⟩ := List.pairwise_cons.1 hpairs
      have hnext := hline last scope line h (hrows line List.mem_cons_self)
      rw [scopeStepsFrom]
      refine List.forall_mem_cons.2 ⟨hnext, ?_⟩
      exact ih line.row _ hnext (fun line' hl => Nat.le_of_lt (hbelow line' hl)) hpairs
  exact hfrom _ 0 {} hempty (fun _ _ => Nat.zero_le _)
    ((pairwise_row_scanLines lines).filter CodeLine.isChecked)

/-- A line keeps the tables of a scope coherent. -/
theorem Scope.coherent_afterLine {flow : Bool} {last : Nat} {scope : Scope}
    (h : ∀ table ∈ scope.tables, table.Coherent flow last) {line : CodeLine}
    (hle : last ≤ line.row) :
    ∀ table ∈ (scope.afterLine flow line).tables, table.Coherent flow line.row := by
  have hrow : ∀ table ∈ scope.tables, table.Coherent flow line.row :=
    fun table ht => (h table ht).mono hle
  refine forall_tables_afterLine hrow SymbolTable.coherent_nil ?_ ?_
  · intro v hv table ht
    refine ht.store ?_
    rcases List.mem_append.1 hv with hv | hv
    · exact Variable.coherent_of_mem_openedParameters hv
    · obtain ⟨u, hu, rfl⟩ := List.mem_map.1 hv
      exact Variable.coherent_sinceRow_of_mem_parseDeclaration hu
  · exact fun name value table ht => ht.assigned (Nat.le_refl _) name value

/-- All tables are coherent after every step of the scope check, and at the checks of whatever line
comes next. -/
theorem coherent_scopeSteps (flow : Bool) (lines : List (List Char)) {step : ScopeStep}
    (hstep : step ∈ scopeSteps flow lines) :
    (∀ table ∈ step.scope.tables, table.Coherent flow step.row) ∧
      ∀ line : CodeLine, ∀ table ∈ (step.scope.enterLine line).tables,
        table.Coherent flow step.row := by
  have hempty : ∀ table ∈ ({} : Scope).tables, table.Coherent flow 0 := by
    intro table ht
    cases List.mem_singleton.1 ht
    exact SymbolTable.coherent_nil
  have hafter := scopeSteps_induction
    (P := fun last scope => ∀ table ∈ scope.tables, table.Coherent flow last) hempty
    (fun last scope line h hle => Scope.coherent_afterLine h hle) lines step hstep
  refine ⟨hafter, fun line => ?_⟩
  refine Scope.forall_tables_enterLine hafter SymbolTable.coherent_nil fun v hv table ht => ?_
  exact ht.store (Variable.coherent_of_mem_openedParameters hv)

/-- By default a pointer that was null once stays so in the tables when it is given an address. -/
theorem coherent_scopeSteps_readdressed :
    let lines := ["int x, *p = 0;", "p = &x;"].map String.toList
    let number : Variable := { name := ['x'], typeName := "int".toList }
    let pointer : Variable :=
      { name := ['p'], typeName := "int".toList, isPointer := true, isInitialized := true,
        initKind := .address, nullSince := some 0 }
    let step : ScopeStep :=
      { row := 1
        defects := [.unsetUse ['x']]
        scope := { globals := [(['x'], number), (['p'], pointer)] } }
    step ∈ scopeSteps false lines ∧ ∀ table ∈ step.scope.tables, table.Coherent false 1 := by
  intro lines number pointer step
  have hstep : step ∈ scopeSteps false lines := by decide +kernel
  exact ⟨hstep, (coherent_scopeSteps false lines hstep).1⟩

end DefectScan
