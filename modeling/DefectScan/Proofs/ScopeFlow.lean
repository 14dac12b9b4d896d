import DefectScan.Proofs.Braces
import DefectScan.Proofs.Tables
import Mathlib.Data.List.Forall2

/-!
# The scope check with and without flow

With `flow` an assignment of a value other than the null pointer ends the time in which a pointer
may be null; by default it never ends. The two runs over a file keep the same tables but for that
one field, and whenever the field is set with `flow` it is set to the same row by default. So the
reports with `flow` are those of the default check without some of the null pointers.
-/

namespace DefectScan

/-! ### Lists without some of their elements -/

/-- A list is another one without some of the elements that satisfy `p`. -/
structure Drops {α : Type} (p : α → Bool) (l m : List α) : Prop where
  /-- What is left stands in its order. -/
  sublist : l.Sublist m
  /-- The other elements are all left. -/
  filter_eq : l.filter (fun a => !p a) = m.filter (fun a => !p a)

namespace Drops

variable {α β : Type} {p : α → Bool} {q : β → Bool} {l l' m m' : List α}

theorem refl (p : α → Bool) (l : List α) : Drops p l l := ⟨.refl l, rfl⟩

theorem append (h : Drops p l m) (h' : Drops p l' m') : Drops p (l ++ l') (m ++ m') where
  sublist := h.sublist.append h'.sublist
  filter_eq := by rw [List.filter_append, List.filter_append, h.filter_eq, h'.filter_eq]

theorem map {f : α → β} (hf : ∀ a, q (f a) = p a) (h : Drops p l m) :
    Drops q (l.map f) (m.map f) where
  sublist := h.sublist.map f
  filter_eq := by
    have hcomp : (fun b => !q b) ∘ f = fun a => !p a := funext fun a => congrArg (!·) (hf a)
    rw [List.filter_map, List.filter_map, hcomp, h.filter_eq]

/-- Two searches at each element of a list, one of which may miss what satisfies `p`. -/
theorem filterMap {f g : β → Option α} (h : ∀ b, f b = g b ∨ f b = (g b).filter fun a => !p a)
    (l : List β) : Drops p (l.filterMap f) (l.filterMap g) := by
  induction l with
  | nil => exact refl p []
  | cons b l ih =>
    cases hg : g b with
    | none =>
      have hf : f b = none := by simpa [hg] using h b
      rw [List.filterMap_cons_none hf, List.filterMap_cons_none hg]
      exact ih
    | some a =>
      have hfb : f b = some a ∨ (f b = none ∧ p a = true) := by
        rcases h b with he | he
        · exact .inl (he.trans hg)
        · cases ha : p a <;> simp [he, hg, ha, Option.filter]
      rw [List.filterMap_cons_some hg]
      rcases hfb with hf | ⟨hf, ha⟩
      · rw [List.filterMap_cons_some hf]
        exact (refl p [a]).append ih
      · rw [List.filterMap_cons_none hf]
        exact ⟨ih.sublist.cons a, by rw [List.filter_cons_of_neg (by simp [ha]), ih.filter_eq]⟩

end Drops

/-! ### Variables -/

namespace Variable

/-- The variable, with the row forgotten since which it may be null. -/
def forgetNull (v : Variable) : Variable := { v with nullSince := none }

/-- A variable as known with `flow` is the one known by default, or that one without the row since
which it may be null. -/
def Sharpens (v w : Variable) : Prop := v = w ∨ v = w.forgetNull

variable {v w : Variable}

theorem Sharpens.refl (v : Variable) : v.Sharpens v := .inl rfl

theorem Sharpens.typeName_eq (h : v.Sharpens w) : v.typeName = w.typeName := by
  rcases h with rfl | rfl <;> rfl

/-- A value that is not null makes the two differ, a null pointer makes them agree. -/
theorem Sharpens.assigned (h : v.Sharpens w) (row : Nat) (value : List Char) :
    (v.assigned true row value).Sharpens (w.assigned false row value) := by
  by_cases hpointer : w.isPointer = true
  · by_cases hnull : pointerInitKind value = .null
    · left
      rcases h with rfl | rfl <;> simp [Variable.assigned, forgetNull, hpointer, hnull]
    · right
      rcases h with rfl | rfl <;> simp [Variable.assigned, forgetNull, hpointer, hnull]
  · rcases h with rfl | rfl
    · left
      simp [Variable.assigned, hpointer]
    · right
      simp [Variable.assigned, forgetNull, hpointer]

/-- A use is judged alike, or alike but for a null pointer. -/
theorem Sharpens.useDefect?_eq_or (h : v.Sharpens w) (row : Nat) (code name : List Char) :
    v.useDefect? row code name = w.useDefect? row code name ∨
      v.useDefect? row code name =
        (w.useDefect? row code name).filter fun d => !(d.category == .nullPointer) := by
  rcases h with rfl | rfl
  · exact .inl rfl
  · right
    unfold useDefect? forgetNull
    cases w.isArray <;> cases w.isInitialized <;> cases w.isPointer <;>
      cases dereferences name code <;> cases w.nullSince.any (· < row) <;> rfl

end Variable

/-! ### Tables -/

namespace SymbolTable

/-- Tables of the same variables in the same order, as they are known with `flow` and by
default. -/
def Sharpens (table table' : SymbolTable) : Prop :=
  List.Forall₂ (fun e e' => e.1 = e'.1 ∧ e.2.Sharpens e'.2) table table'

variable {table table' : SymbolTable}

theorem Sharpens.names_eq (h : table.Sharpens table') : table.names = table'.names := by
  induction h with
  | nil => rfl
  | cons he _ ih => exact congrArg₂ List.cons he.1 ih

theorem Sharpens.get? (h : table.Sharpens table') (name : List Char) :
    Option.Rel Variable.Sharpens (table.get? name) (table'.get? name) := by
  induction h with
  | nil => exact .none
  | cons he _ ih =>
    rw [get?_cons, get?_cons, he.1]
    split
    · exact .some he.2
    · exact ih

theorem Sharpens.store (h : table.Sharpens table') (name : List Char) (v : Variable) :
    (table.store name v).Sharpens (table'.store name v) := by
  induction h with
  | nil => exact .cons ⟨rfl, .refl v⟩ .nil
  | cons he htable ih =>
    rw [SymbolTable.store, SymbolTable.store, he.1]
    split
    · exact .cons ⟨rfl, .refl v⟩ htable
    · exact .cons he ih

theorem Sharpens.storeAll (h : table.Sharpens table') (vs : List Variable) :
    (table.storeAll vs).Sharpens (table'.storeAll vs) := by
  induction vs generalizing table table' with
  | nil => exact h
  | cons v vs ih => exact ih (h.store v.name v)

theorem Sharpens.assigned (h : table.Sharpens table') (name : List Char) (row : Nat)
    (value : List Char) :
    (table.modify name (Variable.assigned true row value)).Sharpens
      (table'.modify name (Variable.assigned false row value)) := by
  induction h with
  | nil => exact .nil
  | cons he _ ih =>
    refine .cons ?_ ih
    dsimp only
    rw [he.1]
    split
    · exact ⟨rfl, he.2.assigned row value⟩
    · exact he

variable {tables tables' : List SymbolTable} (h : List.Forall₂ Sharpens tables tables')
include h

theorem map_names_eq_of_sharpens : tables.map names = tables'.map names := by
  induction h with
  | nil => rfl
  | cons htable _ ih => exact congrArg₂ List.cons htable.names_eq ih

theorem findSome?_get?_of_sharpens (name : List Char) :
    Option.Rel Variable.Sharpens (tables.findSome? fun table => table.get? name)
      (tables'.findSome? fun table => table.get? name) := by
  induction h with
  | nil => exact .none
  | @cons table table' _ _ htable _ ih =>
    have hget := htable.get? name
    rw [List.findSome?_cons, List.findSome?_cons]
    generalize table.get? name = found at hget
    generalize table'.get? name = found' at hget
    cases hget with
    | none => exact ih
    | some hv => exact .some hv

theorem modifyFirst_of_sharpens (name : List Char) (row : Nat) (value : List Char) :
    List.Forall₂ Sharpens (modifyFirst name (Variable.assigned true row value) tables)
      (modifyFirst name (Variable.assigned false row value) tables') := by
  induction h with
  | nil => exact .nil
  | @cons table table' _ _ htable hrest ih =>
    have hsome : (table'.get? name).isSome = (table.get? name).isSome := by
      rw [Bool.eq_iff_iff, isSome_get?, isSome_get?, htable.names_eq]
    rw [modifyFirst, modifyFirst, hsome]
    split
    · exact .cons (htable.assigned name row value) hrest
    · exact .cons htable ih

end SymbolTable

/-! ### Scopes -/

namespace Scope

/-- Scopes of the same blocks and variables, as they are known with `flow` and by default. -/
structure Sharpens (scope scope' : Scope) : Prop where
  /-- The blocks agree. -/
  blocks : scope.SameBlocks scope'
  /-- The tables agree but for forgotten rows. -/
  tables : List.Forall₂ SymbolTable.Sharpens scope.tables scope'.tables

variable {scope scope' : Scope}

theorem Sharpens.push (h : scope.Sharpens scope') (isStruct : Bool) :
    (scope.push isStruct).Sharpens (scope'.push isStruct) where
  blocks := ⟨congrArg (isStruct :: ·) h.blocks.flags, h.blocks.pending⟩
  tables := .cons .nil h.tables

theorem Sharpens.pop (h : scope.Sharpens scope') : scope.pop.Sharpens scope'.pop where
  blocks := by
    refine ⟨?_, h.blocks.pending⟩
    rw [Scope.pop, Scope.pop, List.map_tail, List.map_tail, h.blocks.flags]
  tables := by
    rw [tables_pop, tables_pop, h.blocks.depth_eq]
    split
    · exact h.tables
    · rw [← List.drop_one, ← List.drop_one]
      exact List.forall₂_drop 1 h.tables

theorem Sharpens.braces (h : scope.Sharpens scope') (isStruct : Bool) (text : List Char) :
    (scope.braces isStruct text).Sharpens (scope'.braces isStruct text) := by
  induction text generalizing scope scope' isStruct with
  | nil => exact h
  | cons c text ih =>
    rw [Scope.braces, Scope.braces]
    split
    · exact ih (h.push isStruct) false
    · split
      · exact ih h.pop isStruct
      · exact ih h isStruct

theorem Sharpens.trackBraces (h : scope.Sharpens scope') (code : List Char) :
    (scope.trackBraces code).Sharpens (scope'.trackBraces code) := by
  have hbraces := h.braces (scope.pendingStruct || opensStruct code) code
  unfold Scope.trackBraces
  rw [h.blocks.pending]
  exact ⟨⟨hbraces.blocks.flags, rfl⟩, hbraces.tables⟩

theorem Sharpens.declare (h : scope.Sharpens scope') (vs : List Variable) :
    (scope.declare vs).Sharpens (scope'.declare vs) where
  blocks := ((sameBlocks_declare scope vs).symm.trans h.blocks).trans (sameBlocks_declare scope' vs)
  tables := by
    have htables := h.tables
    rw [tables_eq_cons scope, tables_eq_cons scope', List.forall₂_cons] at htables
    rw [tables_declare, tables_declare]
    exact .cons (htables.1.storeAll vs) htables.2

/-- What a name means is the same variable. -/
theorem Sharpens.lookup (h : scope.Sharpens scope') (name : List Char) :
    Option.Rel Variable.Sharpens (scope.lookup name) (scope'.lookup name) := by
  rw [lookup_eq_findSome?, lookup_eq_findSome?]
  exact SymbolTable.findSome?_get?_of_sharpens h.tables name

theorem Sharpens.assigned (h : scope.Sharpens scope') (name : List Char) (row : Nat)
    (value : List Char) :
    (scope.modify name (Variable.assigned true row value)).Sharpens
      (scope'.modify name (Variable.assigned false row value)) where
  blocks := ((sameBlocks_modify scope name _).symm.trans h.blocks).trans
    (sameBlocks_modify scope' name _)
  tables := by
    rw [tables_modify, tables_modify]
    exact SymbolTable.modifyFirst_of_sharpens h.tables name row value

theorem Sharpens.assign (h : scope.Sharpens scope') (row : Nat) (code : List Char)
    (names : List (List Char)) :
    (scope.assign true row code names).Sharpens (scope'.assign false row code names) := by
  unfold Scope.assign
  induction names generalizing scope scope' with
  | nil => exact h
  | cons name names ih =>
    rw [List.foldl_cons, List.foldl_cons]
    apply ih
    split
    · split
      · exact h.assigned name row _
      · exact h
    · exact h

theorem Sharpens.visibleNames_eq (h : scope.Sharpens scope') :
    scope.visibleNames = scope'.visibleNames := by
  rw [Scope.visibleNames_eq, Scope.visibleNames_eq, List.map_reverse, List.map_reverse,
    SymbolTable.map_names_eq_of_sharpens h.tables]

theorem Sharpens.isCharBuffer_eq (h : scope.Sharpens scope') :
    scope.isCharBuffer = scope'.isCharBuffer := by
  funext name
  have hlookup := h.lookup name
  unfold isCharBuffer
  generalize scope.lookup name = found at hlookup
  generalize scope'.lookup name = found' at hlookup
  cases hlookup with
  | none => rfl
  | some hv => exact congrArg isCharType hv.typeName_eq

/-- The scopes at the checks of a line stay in step. -/
theorem Sharpens.enterLine (h : scope.Sharpens scope') (line : CodeLine) :
    (scope.enterLine line).Sharpens (scope'.enterLine line) := by
  have hbraces := h.trackBraces line.code
  unfold Scope.enterLine seedParameters
  rw [hbraces.blocks.isEmpty_eq]
  split
  · exact hbraces
  · exact hbraces.declare _

/-- The scopes after a line stay in step. -/
theorem Sharpens.afterLine (h : scope.Sharpens scope') (line : CodeLine) :
    (scope.afterLine true line).Sharpens (scope'.afterLine false line) := by
  have henter := h.enterLine line
  unfold Scope.afterLine declareLine
  dsimp only
  rw [henter.blocks.inStruct_eq, henter.visibleNames_eq]
  split
  · split
    · exact henter
    · exact henter.declare _
  · exact henter.assign line.row line.code _

/-! ### Reports -/

/-- Of the uses on a row only those of null pointers are judged differently. -/
theorem Sharpens.useDefects (h : scope.Sharpens scope') (row : Nat) (code : List Char)
    (names : List (List Char)) :
    Drops (fun d => d.category == .nullPointer) (scope.useDefects row code names)
      (scope'.useDefects row code names) := by
  refine Drops.filterMap (fun name => ?_) names
  split
  · have hlookup := h.lookup name
    generalize scope.lookup name = found at hlookup
    generalize scope'.lookup name = found' at hlookup
    cases hlookup with
    | none => exact .inl rfl
    | some hv => exact hv.useDefect?_eq_or row code _
  · exact .inl rfl

theorem Sharpens.lineDefects (h : scope.Sharpens scope') (line : CodeLine) :
    Drops (fun d => d.category == .nullPointer) (scope.lineDefects true line)
      (scope'.lineDefects false line) := by
  have hafter := h.afterLine line
  unfold Scope.lineDefects
  split
  · exact .refl _ []
  · dsimp only
    rw [(h.enterLine line).visibleNames_eq, hafter.isCharBuffer_eq]
    exact ((Drops.refl _ _).append (hafter.useDefects line.row line.code _)).append (.refl _ _)

end Scope

/-- Two runs whose scopes are in step report alike but for null pointers. -/
theorem drops_scopeStepsFrom {scope scope' : Scope} (h : scope.Sharpens scope')
    (lines : List CodeLine) :
    Drops (fun s => s.defect.category == .nullPointer)
      ((scopeStepsFrom true scope lines).flatMap ScopeStep.sightings)
      ((scopeStepsFrom false scope' lines).flatMap ScopeStep.sightings) := by
  induction lines generalizing scope scope' with
  | nil => exact .refl _ []
  | cons line lines ih =>
    rw [scopeStepsFrom, scopeStepsFrom, List.flatMap_cons, List.flatMap_cons]
    refine Drops.append ?_ (ih (h.afterLine line))
    exact (h.lineDefects line).map fun d => rfl

/-- With `flow` the scope check reports what it reports by default, in order, but for some of the
null pointers. -/
theorem flow_only_drops_nullPointers (path : String) (lines : List (List Char)) :
    let issues (flow : Bool) := (scopeCheck flow lines).map (Sighting.issue path)
    (issues true).Sublist (issues false) ∧
      (issues true).filter (fun issue => issue.category != .nullPointer) =
        (issues false).filter fun issue => issue.category != .nullPointer := by
  intro issues
  have hempty : ({} : Scope).Sharpens {} := ⟨.refl _, .cons .nil .nil⟩
  have hsteps := drops_scopeStepsFrom hempty ((scanLines lines).filter CodeLine.isChecked)
  have hcheck : Drops (fun s => s.defect.category == .nullPointer) (scopeCheck true lines)
      (scopeCheck false lines) :=
    hsteps.append (.refl _ _)
  have hissues : Drops (fun issue => issue.category == .nullPointer) (issues true)
      (issues false) :=
    hcheck.map fun s => rfl
  exact ⟨hissues.sublist, hissues.filter_eq⟩

end DefectScan
