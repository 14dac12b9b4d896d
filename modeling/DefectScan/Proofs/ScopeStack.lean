import DefectScan.Proofs.Tables
import Mathlib.Data.List.Infix

/-!
# Scopes as a stack

A scope answers two questions about names: what a name means, by a search from the innermost block
outwards that stops at the first hit, and which names mean anything, by collecting the names of all
tables from the globals inwards. The two agree under any shadowing. A block that is opened and
closed again leaves no trace, whatever is opened, closed and declared in between, as long as no
block from before is closed: all that was declared went into blocks that are gone.
-/

namespace DefectScan

/-- A step of a scope: a block is opened or closed, or variables are declared. -/
inductive ScopeMove where
  | push (isStruct : Bool)
  | pop
  | declare (vs : List Variable)
  deriving DecidableEq, Repr

namespace ScopeMove

/-- Whether a step opens a block. -/
def isPush : ScopeMove → Bool
  | push _ => true
  | _ => false

/-- Whether a step closes a block. -/
def isPop : ScopeMove → Bool
  | pop => true
  | _ => false

/-- Steps that close the blocks they open and no others: at no point were more blocks closed than
opened, and in the end as many. -/
structure IsNested (steps : List ScopeMove) : Prop where
  /-- No block from before the steps is closed. -/
  never_below : ∀ front ∈ steps.inits, front.countP isPop ≤ front.countP isPush
  /-- No block that the steps open is left. -/
  closes_all : steps.countP isPop = steps.countP isPush

end ScopeMove

namespace Scope

open ScopeMove

/-- The scope after a step. -/
def move (scope : Scope) : ScopeMove → Scope
  | .push isStruct => scope.push isStruct
  | .pop => scope.pop
  | .declare vs => scope.declare vs

/-- The scope after some steps. -/
def run (scope : Scope) (steps : List ScopeMove) : Scope := steps.foldl move scope

/-! ### Names -/

private theorem nodup_eraseDups {α : Type} [BEq α] [LawfulBEq α] (l : List α) :
    l.eraseDups.Nodup := by
  cases l with
  | nil => exact List.nodup_nil
  | cons a l =>
    rw [List.eraseDups_cons]
    refine List.nodup_cons.2 ⟨fun ha => ?_, nodup_eraseDups _⟩
    simpa using (List.mem_filter.1 (List.mem_eraseDups.1 ha)).2
  termination_by l.length
  decreasing_by exact Nat.lt_succ_of_le (List.length_filter_le _ _)

/-- Every visible name is listed once. -/
theorem nodup_visibleNames (scope : Scope) : scope.visibleNames.Nodup := nodup_eraseDups _

section Lookup

variable {scope : Scope} {name : List Char}

private theorem findSome?_get?_eq_none {blocks : List Block}
    (h : ∀ b ∈ blocks, name ∉ b.symbols.names) :
    blocks.findSome? (fun b => b.symbols.get? name) = none := by
  refine List.findSome?_eq_none_iff.2 fun b hb => ?_
  rw [← Option.not_isSome_iff_eq_none, SymbolTable.isSome_get?]
  exact h b hb

/-- A name means the entry of the innermost block that holds it. -/
theorem lookup_of_innermost {inner outer : List Block} {block : Block}
    (hblocks : scope.blocks = inner ++ block :: outer)
    (hinner : ∀ b ∈ inner, name ∉ b.symbols.names) (hblock : name ∈ block.symbols.names) :
    ∃ v, (name, v) ∈ block.symbols ∧ block.symbols.get? name = some v ∧
      scope.lookup name = some v := by
  obtain ⟨v, hv⟩ := Option.isSome_iff_exists.1 ((SymbolTable.isSome_get? _ _).2 hblock)
  refine ⟨v, SymbolTable.mem_of_get? hv, hv, ?_⟩
  rw [lookup, hblocks, List.findSome?_append, findSome?_get?_eq_none hinner, Option.none_or,
    List.findSome?_cons, hv]
  rfl

/-- A name that no block holds means the global entry, if there is one. -/
theorem lookup_of_global (hblocks : ∀ b ∈ scope.blocks, name ∉ b.symbols.names) :
    scope.lookup name = scope.globals.get? name := by
  rw [lookup, findSome?_get?_eq_none hblocks, Option.none_or]

end Lookup

/-! ### Steps above a scope -/

/-- A scope with `height` blocks opened above those of `base`, and nothing else changed. -/
structure IsAbove (base : Scope) (height : Nat) (scope : Scope) : Prop where
  /-- The blocks of `base` are below. -/
  blocks : ∃ opened, scope.blocks = opened ++ base.blocks ∧ opened.length = height
  /-- The globals are those of `base`. -/
  globals : scope.globals = base.globals
  /-- The pending flag is that of `base`. -/
  pending : scope.pendingStruct = base.pendingStruct

namespace IsAbove

variable {base scope : Scope} {height : Nat}

theorem self (base : Scope) : base.IsAbove 0 base := ⟨⟨[], rfl, rfl⟩, rfl, rfl⟩

theorem push (h : base.IsAbove height scope) (isStruct : Bool) :
    base.IsAbove (height + 1) (scope.push isStruct) where
  blocks := by
    obtain ⟨opened, hblocks, hlength⟩ := h.blocks
    refine ⟨{ isStruct } :: opened, ?_, by rw [List.length_cons, hlength]⟩
    rw [Scope.push, hblocks, List.cons_append]
  globals := h.globals
  pending := h.pending

theorem pop (h : base.IsAbove (height + 1) scope) : base.IsAbove height scope.pop where
  blocks := by
    obtain ⟨opened, hblocks, hlength⟩ := h.blocks
    obtain ⟨block, opened, rfl⟩ := List.exists_cons_of_length_eq_add_one hlength
    refine ⟨opened, ?_, by simpa using hlength⟩
    rw [Scope.pop, hblocks]
    rfl
  globals := h.globals
  pending := h.pending

/-- Variables are declared in the uppermost of the opened blocks. -/
theorem declare (h : base.IsAbove (height + 1) scope) (vs : List Variable) :
    base.IsAbove (height + 1) (scope.declare vs) := by
  obtain ⟨opened, hblocks, hlength⟩ := h.blocks
  obtain ⟨block, opened, rfl⟩ := List.exists_cons_of_length_eq_add_one hlength
  have hdeclare : scope.declare vs =
      { scope with
        blocks := { block with symbols := block.symbols.storeAll vs } ::
          (opened ++ base.blocks) } := by
    simp [Scope.declare, setCurrent, current, hblocks]
  rw [hdeclare]
  exact ⟨⟨_ :: opened, rfl, hlength⟩, h.globals, h.pending⟩

/-- Steps that at no point close the lowest of the opened blocks leave the scope below as it is. -/
theorem run (h : base.IsAbove (height + 1) scope) {steps : List ScopeMove}
    (hsteps : ∀ front, front <+: steps → front.countP isPop ≤ front.countP isPush + height)
    {final : Nat} (hfinal : final + steps.countP isPop = height + 1 + steps.countP isPush) :
    base.IsAbove final (scope.run steps) := by
  induction steps generalizing height scope with
  | nil =>
    obtain rfl : final = height + 1 := by simpa using hfinal
    exact h
  | cons step steps ih =>
    have hrest : ∀ front, front <+: steps →
        (step :: front).countP isPop ≤ (step :: front).countP isPush + height :=
      fun front hfront => hsteps _ (List.cons_prefix_cons.2 ⟨rfl, hfront⟩)
    rw [Scope.run, List.foldl_cons, ← Scope.run]
    cases step with
    | push isStruct =>
      simp only [List.countP_cons, isPop, isPush, Bool.false_eq_true, if_false, if_true]
        at hrest hfinal
      refine ih (h.push isStruct) (fun front hfront => ?_) (by omega)
      have := hrest front hfront
      omega
    | pop =>
      simp only [List.countP_cons, isPop, isPush, Bool.false_eq_true, if_false, if_true]
        at hrest hfinal
      have hlowest : 0 + 1 ≤ 0 + 0 + height := hrest [] List.nil_prefix
      obtain ⟨lower, rfl⟩ : ∃ lower, height = lower + 1 := ⟨height - 1, by omega⟩
      refine ih h.pop (fun front hfront => ?_) (by omega)
      have := hrest front hfront
      omega
    | declare vs =>
      simp only [List.countP_cons, isPop, isPush, Bool.false_eq_true, if_false] at hrest hfinal
      exact ih (h.declare vs) hrest hfinal

/-- Nothing is left of a block that is opened and closed again. -/
theorem run_bracket (base : Scope) (isStruct : Bool) {steps : List ScopeMove}
    (hsteps : IsNested steps) :
    base.IsAbove 0 (base.run (.push isStruct :: (steps ++ [.pop]))) := by
  have hopened : base.IsAbove 1 (base.push isStruct) := (self base).push isStruct
  have hinside : base.IsAbove 1 ((base.push isStruct).run steps) := by
    refine hopened.run (fun front hfront => ?_) ?_
    · exact hsteps.never_below front ((List.mem_inits _ _).2 hfront)
    · rw [hsteps.closes_all]
  have hrun : base.run (.push isStruct :: (steps ++ [.pop])) =
      ((base.push isStruct).run steps).pop := by
    rw [Scope.run, List.foldl_cons, List.foldl_append]
    rfl
  rw [hrun]
  exact hinside.pop

/-- With no block opened the scope is the one below. -/
theorem eq_base (h : base.IsAbove 0 scope) : scope = base := by
  obtain ⟨opened, hblocks, hlength⟩ := h.blocks
  rw [List.length_eq_zero_iff.1 hlength, List.nil_append] at hblocks
  cases scope
  cases base
  exact Scope.mk.injEq .. ▸ ⟨h.globals, hblocks, h.pending⟩

end IsAbove

end Scope

/-- A name means its innermost visible entry, and blocks that are opened and closed again leave all
answers as they were. -/
theorem scope_answers_and_brackets (scope : Scope) :
    scope.visibleNames.Nodup ∧
      (∀ name, name ∈ scope.visibleNames ↔ scope.lookup name ≠ none) ∧
      (∀ name inner block outer, scope.blocks = inner ++ block :: outer →
        (∀ b ∈ inner, name ∉ b.symbols.names) → name ∈ block.symbols.names →
        ∃ v, (name, v) ∈ block.symbols ∧ block.symbols.get? name = some v ∧
          scope.lookup name = some v) ∧
      (∀ name, (∀ b ∈ scope.blocks, name ∉ b.symbols.names) →
        scope.lookup name = scope.globals.get? name) ∧
      ∀ isStruct steps, ScopeMove.IsNested steps →
        let after := scope.run (.push isStruct :: (steps ++ [.pop]))
        after.globals = scope.globals ∧ after.blocks = scope.blocks ∧
          (∀ name, after.lookup name = scope.lookup name) ∧
          after.visibleNames = scope.visibleNames := by
  refine ⟨scope.nodup_visibleNames, fun name => ?_, fun name inner block outer => ?_,
    fun name => Scope.lookup_of_global, fun isStruct steps hsteps => ?_⟩
  · rw [Scope.mem_visibleNames, Option.isSome_iff_ne_none]
  · exact Scope.lookup_of_innermost
  · have hsame := (Scope.IsAbove.run_bracket scope isStruct hsteps).eq_base
    dsimp only
    rw [hsame]
    exact ⟨rfl, rfl, fun _ => rfl, rfl⟩

/-- A local `x` hides the global one, and a block with another `x` in a struct is gone once it is
closed. -/
theorem scope_answers_and_brackets_shadowed :
    let number : Variable := { name := ['x'], typeName := "int".toList }
    let character : Variable := { name := ['x'], typeName := "char".toList }
    let other : Variable := { name := ['y'], typeName := "int".toList }
    let block : Block := { symbols := [(['x'], character)] }
    let scope : Scope := { globals := [(['x'], number)], blocks := [block] }
    let steps := [.declare [other], .push true, .declare [number], .pop]
    ScopeMove.IsNested steps ∧
      (scope.run (.push false :: steps.take 3)).lookup ['x'] = some number ∧
      (scope.run (.push false :: steps)).visibleNames = [['x'], ['y']] ∧
      (scope.run (.push false :: (steps ++ [.pop]))).lookup ['x'] = some character ∧
      (scope.run (.push false :: (steps ++ [.pop]))).visibleNames = [['x']] := by
  intro number character other block scope steps
  have hnested : ScopeMove.IsNested steps := ⟨by decide, by decide⟩
  obtain ⟨-, -, hinnermost, -, hbracket⟩ := scope_answers_and_brackets scope
  obtain ⟨-, -, hlookup, hnames⟩ := hbracket false steps hnested
  obtain ⟨v, hv, -, hx⟩ :=
    hinnermost ['x'] [] block [] rfl (List.forall_mem_nil _) List.mem_cons_self
  obtain rfl : v = character := congrArg Prod.snd (List.mem_singleton.1 hv)
  exact ⟨hnested, by decide, by decide, (hlookup ['x']).trans hx, hnames.trans (by decide)⟩

end DefectScan
