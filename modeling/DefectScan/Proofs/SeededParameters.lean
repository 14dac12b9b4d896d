import DefectScan.Proofs.BraceDepth
import DefectScan.Proofs.FunctionHeaders
import DefectScan.Proofs.UnsetReads
import Mathlib.Data.List.Infix

/-!
# Parameters of functions

A function header opens a block and stores its parameters there, all of them with values. From then
on a parameter is guarded: its name has an entry in that block, and all its entries in that block
and in those above it have values. Lines keep this as long as they do not close the block and
declare no variable of that name, whatever the name means outside. So in all this time no use of
the name is reported for want of a value.
-/

namespace DefectScan

open Text

/-! ### Lines without equals signs -/

theorem equals_mem_of_afterAssignment? {s rest : List Char} (h : afterAssignment? s = some rest) :
    '=' ∈ s := by
  have hsub : trimStart s ⊆ s := (List.dropWhile_suffix isBlank).subset
  apply hsub
  simp only [afterAssignment?] at h
  split at h
  · next heq => rw [heq]; exact List.mem_cons_self
  · next heq => rw [heq]; exact List.mem_cons_of_mem _ List.mem_cons_self
  · cases h

/-- Nothing is assigned where there is no equals sign. -/
theorem assignmentTo?_eq_none {code : List Char} (h : '=' ∉ code) (name : List Char) :
    assignmentTo? code name = none := by
  refine List.findSome?_eq_none_iff.2 fun place hplace => ?_
  split
  · rfl
  · rw [Option.bind_eq_none_iff]
    intro rest hrest
    rw [after?_eq_some_iff] at hrest
    have hsuffix : place.after <:+ code := Place.suffix_of_mem_placesFrom hplace
    have hsub : rest ⊆ code := by
      intro c hc
      exact hsuffix.subset (hrest ▸ List.mem_append_right name hc)
    cases hvalue : afterAssignment? rest with
    | none => rfl
    | some value => exact absurd (hsub (equals_mem_of_afterAssignment? hvalue)) h

theorem Scope.assign_eq_self {code : List Char} (h : '=' ∉ code) (flow : Bool) (row : Nat)
    (scope : Scope) (names : List (List Char)) : scope.assign flow row code names = scope := by
  rw [assign_eq_foldl]
  induction names with
  | nil => rfl
  | cons name names ih => rw [List.foldl_cons, assignName, assignmentTo?_eq_none h, ih]

/-! ### The line of a header -/

/-- Among variables of different names each is the last one of its name. -/
theorem lastNamed?_of_nodup {vs : List Variable} (hnames : (vs.map Variable.name).Nodup)
    {v : Variable} (hv : v ∈ vs) : lastNamed? v.name vs = some v := by
  have hsome : (lastNamed? v.name vs).isSome = true := by
    rw [lastNamed?, List.find?_isSome]
    exact ⟨v, List.mem_reverse.2 hv, beq_self_eq_true _⟩
  obtain ⟨w, hw⟩ := Option.isSome_iff_exists.1 hsome
  rw [hw, List.inj_on_of_nodup_map hnames (mem_of_lastNamed? hw) hv (name_of_lastNamed? hw)]

namespace Scope

/-- Only braces open and close blocks. -/
theorem braces_append_of_not_mem {s : List Char} (hopen : '{' ∉ s) (hclose : '}' ∉ s)
    (scope : Scope) (isStruct : Bool) (t : List Char) :
    scope.braces isStruct (s ++ t) = scope.braces isStruct t := by
  induction s with
  | nil => rfl
  | cons c s ih =>
    simp only [List.mem_cons, not_or] at hopen hclose
    rw [List.cons_append, braces, if_neg (Ne.symm hopen.1), if_neg (Ne.symm hclose.1),
      ih hopen.2 hclose.2]

variable (flow : Bool) {header : FunctionHeader} {line : CodeLine}

/-- A header opens one block, and its parameters are all that is stored there. -/
theorem blocks_afterLine_header (hline : line.code = header.text) (scope : Scope) :
    (scope.afterLine flow line).blocks =
      { isStruct := scope.pendingStruct || opensStruct header.text
        symbols := SymbolTable.storeAll [] (header.parameters.map Parameter.entry) } ::
        scope.blocks := by
  have hequals : '=' ∉ line.code := hline ▸ header.not_mem_text (by decide) (by decide)
  have hafter : scope.afterLine flow line = scope.enterLine line := by
    rw [afterLine, if_neg (by simp [hline, header.isLikelyDeclaration_text]),
      assign_eq_self hequals]
  have hpush : ∀ isStruct, scope.braces isStruct header.text = scope.push isStruct := by
    have hopen : '{' ∉ header.front := header.not_mem_front (by decide) (by decide)
    have hclose : '}' ∉ header.front := header.not_mem_front (by decide) (by decide)
    intro isStruct
    rw [FunctionHeader.text, braces_append_of_not_mem hopen hclose]
    rfl
  have hbraces : (scope.trackBraces header.text).blocks =
      { isStruct := scope.pendingStruct || opensStruct header.text } :: scope.blocks := by
    rw [trackBraces, hpush]
    rfl
  rw [hafter, enterLine, hline, seedParameters, hbraces, List.isEmpty_cons,
    if_neg Bool.false_ne_true, header.openedParameters_text, declare, setCurrent, current, hbraces]

theorem get?_afterLine_header (hline : line.code = header.text) (scope : Scope) :
    ∃ block, (scope.afterLine flow line).blocks = block :: scope.blocks ∧
      ∀ p ∈ header.parameters, block.symbols.get? p.name = some p.entry := by
  refine ⟨_, blocks_afterLine_header flow hline scope, fun p hp => ?_⟩
  have hnames : ((header.parameters.map Parameter.entry).map Variable.name).Nodup := by
    rw [List.map_map]
    exact header.nodup_names
  have hlast : lastNamed? p.name (header.parameters.map Parameter.entry) = some p.entry :=
    lastNamed?_of_nodup hnames (List.mem_map_of_mem hp)
  rw [SymbolTable.get?_storeAll, hlast, Option.some_or]

end Scope

/-! ### Blocks that stay open -/

/-- The brace depth starts at a depth and goes through a text without falling below a level. -/
def StaysOpen (level depth : Nat) (text : List Char) : Prop :=
  ∀ front ∈ text.inits, level ≤ front.foldl stepDepth depth

instance (level depth : Nat) (text : List Char) : Decidable (StaysOpen level depth text) :=
  inferInstanceAs (Decidable (∀ front ∈ text.inits, _))

theorem StaysOpen.le {level depth : Nat} {text : List Char} (h : StaysOpen level depth text) :
    level ≤ depth :=
  h [] ((List.mem_inits _ _).2 List.nil_prefix)

theorem StaysOpen.tail {level depth : Nat} {c : Char} {text : List Char}
    (h : StaysOpen level depth (c :: text)) : StaysOpen level (stepDepth depth c) text := by
  intro front hfront
  refine h (c :: front) ((List.mem_inits _ _).2 ?_)
  exact List.cons_prefix_cons.2 ⟨rfl, (List.mem_inits _ _).1 hfront⟩

theorem StaysOpen.left {level depth : Nat} {s t : List Char} (h : StaysOpen level depth (s ++ t)) :
    StaysOpen level depth s := by
  intro front hfront
  refine h front ((List.mem_inits _ _).2 ?_)
  exact ((List.mem_inits _ _).1 hfront).trans (List.prefix_append s t)

theorem StaysOpen.right {level depth : Nat} {s t : List Char}
    (h : StaysOpen level depth (s ++ t)) : StaysOpen level (s.foldl stepDepth depth) t := by
  intro front hfront
  rw [← List.foldl_append]
  refine h (s ++ front) ((List.mem_inits _ _).2 ?_)
  exact (List.prefix_append_right_inj s).2 ((List.mem_inits _ _).1 hfront)

namespace Scope

variable {scope : Scope} {level : Nat} {name : List Char}

theorem depth_braces (scope : Scope) (isStruct : Bool) (text : List Char) :
    (scope.braces isStruct text).depth = text.foldl stepDepth scope.depth := by
  induction text generalizing scope isStruct with
  | nil => rfl
  | cons c text ih =>
    rw [braces, List.foldl_cons, stepDepth]
    by_cases hopen : c = '{'
    · rw [if_pos hopen, if_pos hopen, ih]
      rfl
    · rw [if_neg hopen, if_neg hopen]
      by_cases hclose : c = '}'
      · rw [if_pos hclose, if_pos hclose, ih, depth, pop, List.length_tail]
        rfl
      · rw [if_neg hclose, if_neg hclose, ih]

theorem depth_afterLine (flow : Bool) (scope : Scope) (line : CodeLine) :
    (scope.afterLine flow line).depth = line.code.foldl stepDepth scope.depth :=
  (sameBlocks_afterLine flow scope line).depth_eq.trans (depth_braces scope _ line.code)

/-- Braces leave the entries of blocks as they are that stay open. -/
theorem slot?_braces_of_staysOpen {text : List Char} (h : StaysOpen level scope.depth text)
    (isStruct : Bool) : (scope.braces isStruct text).slot? level name = scope.slot? level name := by
  induction text generalizing scope isStruct with
  | nil => rfl
  | cons c text ih =>
    have hle := h.le
    have htail := h.tail
    rw [stepDepth] at htail
    rw [braces]
    by_cases hopen : c = '{'
    · rw [if_pos hopen] at htail ⊢
      have hlt : level < scope.tables.length := by
        rw [length_tables]
        omega
      rw [@ih (scope.push isStruct) htail, slot?, tables_push]
      exact SymbolTable.slot?_cons_of_lt hlt []
    · rw [if_neg hopen] at htail ⊢
      by_cases hclose : c = '}'
      · rw [if_pos hclose] at htail ⊢
        have hdepth : scope.pop.depth = scope.depth - 1 := List.length_tail
        rw [ih (hdepth ▸ htail), slot?, tables_pop]
        split
        · rfl
        · have hbelow : level ≤ scope.depth - 1 := htail.le
          have hlt : level < scope.tables.tail.length := by
            rw [List.length_tail, length_tables]
            omega
          rw [slot?, tables_eq_cons scope, List.tail_cons, SymbolTable.slot?_cons_of_lt hlt]
      · rw [if_neg hclose] at htail ⊢
        exact ih htail isStruct

/-- Assignments take no entry away. -/
theorem isSome_slot?_assign {flow : Bool} {row : Nat} {code : List Char}
    (h : (scope.slot? level name).isSome = true) (names : List (List Char)) :
    ((scope.assign flow row code names).slot? level name).isSome = true := by
  refine assign_induction (P := fun scope => (scope.slot? level name).isSome = true) ?_ h names
  intro scope name' value h
  rw [slot?_modify]
  split
  · rw [Option.isSome_map]
    exact h
  · exact h

/-- No line takes away an entry of a block that stays open. -/
theorem isSome_slot?_afterLine {line : CodeLine} (hopen : StaysOpen level scope.depth line.code)
    (h : (scope.slot? level name).isSome = true) (flow : Bool) :
    ((scope.afterLine flow line).slot? level name).isSome = true := by
  have hbraced : ((scope.trackBraces line.code).slot? level name).isSome = true := by
    rw [slot?, tables_trackBraces]
    exact (congrArg Option.isSome (slot?_braces_of_staysOpen hopen _)).trans h
  have hentered : ((scope.enterLine line).slot? level name).isSome = true := by
    rw [enterLine, seedParameters_eq_declare, slot?_declare, Option.isSome_or, hbraced,
      Bool.or_true]
  unfold afterLine
  dsimp only
  split
  · rw [declareLine_eq_declare, slot?_declare, Option.isSome_or, hentered, Bool.or_true]
  · exact isSome_slot?_assign hentered _

/-! ### Guarded names -/

/-- The name has an entry at the level, and all its entries there and above have values. -/
structure Guards (level : Nat) (name : List Char) (scope : Scope) : Prop where
  /-- There is an entry at the level. -/
  present : (scope.slot? level name).isSome = true
  /-- No entry from there on is without a value. -/
  initialized : ∀ inner v, level ≤ inner → scope.slot? inner name = some v →
    v.isInitialized = true

/-- A line keeps a name guarded if it leaves the block open and declares no such variable. -/
theorem Guards.afterLine (h : scope.Guards level name) {line : CodeLine}
    (hopen : StaysOpen level scope.depth line.code)
    (hdeclared : ∀ v ∈ (scope.checkpoint line).declared, v.name ≠ name) (flow : Bool) :
    (scope.afterLine flow line).Guards level name where
  present := isSome_slot?_afterLine hopen h.present flow
  initialized := by
    intro inner v' hinner hslot
    obtain ⟨v, hsource, -, hvalue⟩ := exists_slot?_of_afterLine hslot
    refine hvalue.2 (.inl ?_)
    rcases hsource with ⟨-, hstored⟩ | ⟨-, hbefore⟩
    · by_contra hunset
      obtain ⟨w, hw, -⟩ :=
        Checkpoint.exists_declared_of_stored? hstored (Bool.eq_false_iff.2 hunset)
      exact hdeclared w (mem_of_lastNamed? hw) (name_of_lastNamed? hw)
    · exact h.initialized inner v hinner hbefore

theorem Guards.afterLines {flow : Bool} {lines : List CodeLine} (h : scope.Guards level name)
    (hopen : StaysOpen level scope.depth (lines.flatMap CodeLine.code))
    (hdeclared : ∀ c ∈ checkpointsFrom flow scope lines, ∀ v ∈ c.declared, v.name ≠ name) :
    (scope.afterLines flow lines).Guards level name := by
  induction lines generalizing scope with
  | nil => exact h
  | cons line lines ih =>
    rw [List.flatMap_cons] at hopen
    obtain ⟨hhere, hlater⟩ := List.forall_mem_cons.1 hdeclared
    refine ih (h.afterLine hopen.left hhere flow) ?_ hlater
    rw [depth_afterLine]
    exact hopen.right

end Scope

/-- A name that has an entry at a level means an entry at that level or above it. -/
theorem SymbolTable.le_of_level? {level inner : Nat} {name : List Char}
    {tables : List SymbolTable} (hslot : (slot? level name tables).isSome = true)
    (h : level? name tables = some inner) : level ≤ inner := by
  induction tables with
  | nil => cases h
  | cons table outer ih =>
    rw [level?] at h
    rw [slot?] at hslot
    by_cases hlevel : level = outer.length
    · rw [if_pos hlevel] at hslot
      rw [if_pos hslot] at h
      cases h
      exact Nat.le_of_eq hlevel
    · rw [if_neg hlevel] at hslot
      split at h
      · obtain ⟨v, hv⟩ := Option.isSome_iff_exists.1 hslot
        cases h
        exact Nat.le_of_lt (lt_of_slot? hv)
      · exact ih hslot h

/-- The use of a guarded name is not reported for want of a value. -/
theorem Scope.Guards.not_mem_lineDefects {flow : Bool} {scope : Scope} {line : CodeLine}
    {level : Nat} {name : List Char} (h : (scope.afterLine flow line).Guards level name)
    (deref : Bool) : unsetDefect name deref ∉ scope.lineDefects flow line := by
  intro hd
  obtain ⟨-, name', v, -, hlookup, -, hunset, heq⟩ :=
    (mem_lineDefects_iff_of_isUnset (isUnset_unsetDefect name deref)).1 hd
  obtain ⟨rfl, -⟩ := unsetDefect_inj (congrArg Defect.category heq) (congrArg Defect.message heq)
  obtain ⟨inner, hinner, hslot⟩ := exists_level?_of_lookup hlookup
  have hvalue := h.initialized inner v (SymbolTable.le_of_level? h.present hinner) hslot
  rw [hvalue] at hunset
  cases hunset

/-- The parameters of a header are guarded behind it. -/
theorem Scope.guards_afterLine_header {header : FunctionHeader} {line : CodeLine}
    (hline : line.code = header.text) (flow : Bool) (scope : Scope) {p : Parameter}
    (hp : p ∈ header.parameters) :
    (scope.afterLine flow line).Guards (scope.afterLine flow line).depth p.name := by
  obtain ⟨block, hblocks, hget⟩ := get?_afterLine_header flow hline scope
  set opened := scope.afterLine flow line
  have hdepth : opened.tables.tail.length = opened.depth := by simp
  have hcurrent : opened.current = block.symbols := by rw [current, hblocks]
  have hslot : opened.slot? opened.depth p.name = some p.entry := by
    rw [slot?, tables_eq_cons, SymbolTable.slot?, if_pos hdepth.symm, hcurrent, hget p hp]
  refine ⟨by rw [hslot]; rfl, fun inner v hinner hv => ?_⟩
  have hlt : inner < opened.depth + 1 := length_tables opened ▸ SymbolTable.lt_of_slot? hv
  obtain rfl : inner = opened.depth := by omega
  obtain rfl := Option.some.inj (hslot.symm.trans hv)
  rfl

/-- A parameter has a value from the header on and is not reported as unset until its block closes
or its name is declared again. -/
theorem parameters_initialized_until_closed (flow : Bool) {header : FunctionHeader}
    {line : CodeLine} (hline : line.code = header.text) (scope : Scope) :
    let opened := scope.afterLine flow line
    (∃ block, opened.blocks = block :: scope.blocks ∧
      ∀ p ∈ header.parameters, ∃ v, block.symbols.get? p.name = some v ∧
        v.isInitialized = true ∧ (v.isPointer = true ↔ 0 < p.stars) ∧
        (v.isArray = true ↔ p.dimensions ≠ [])) ∧
    ∀ p ∈ header.parameters, ∀ between later,
      StaysOpen opened.depth opened.depth ((between ++ [later]).flatMap CodeLine.code) →
      (∀ c ∈ checkpointsFrom flow opened (between ++ [later]), ∀ v ∈ c.declared,
        v.name ≠ p.name) →
      (∀ deref,
        unsetDefect p.name deref ∉ (opened.afterLines flow between).lineDefects flow later) ∧
      ∀ path lines before after,
        (scanLines lines).filter CodeLine.isChecked =
          before ++ line :: (between ++ later :: after) →
        scope = Scope.afterLines flow {} before →
        ∀ deref, Sighting.issue path ⟨later.row, unsetDefect p.name deref⟩ ∉
          (scopeCheck flow lines).map (Sighting.issue path) := by
  intro opened
  constructor
  · obtain ⟨block, hblocks, hget⟩ := Scope.get?_afterLine_header flow hline scope
    refine ⟨block, hblocks, fun p hp => ⟨p.entry, hget p hp, rfl, decide_eq_true_iff, ?_⟩⟩
    simp [Parameter.entry]
  · intro p hp between later hopen hdeclared
    have hguards := Scope.guards_afterLine_header hline flow scope hp
    have hlater := hguards.afterLines hopen hdeclared
    rw [Scope.afterLines_concat] at hlater
    refine ⟨hlater.not_mem_lineDefects, fun path lines before after hlines hscope deref => ?_⟩
    have hrows := (pairwise_row_scanLines lines).filter CodeLine.isChecked
    have hsplit : before ++ line :: (between ++ later :: after) =
        (before ++ line :: between) ++ later :: after := by simp
    have hreached : Scope.afterLines flow {} (before ++ line :: between) =
        opened.afterLines flow between := by
      subst hscope
      exact List.foldl_append
    rw [hlines, hsplit] at hrows
    rw [issue_mem_iff, scopeSteps, hlines, hsplit, mem_sightings_iff {} hrows, hreached]
    exact hlater.not_mem_lineDefects deref

/-- Parameters that hide globals without values are used unreported until the function is closed;
behind it both globals are reported. -/
theorem parameters_initialized_until_closed_shadowing :
    let x : Parameter :=
      { name := ['x'], base := ["const".toList, "int".toList], isIdentifier := by decide
        isDigit := by decide, isInitializer := by simp, base_ne_nil := by decide
        isIdentifier_base := by decide, init_eq := rfl }
    let p : Parameter :=
      { stars := 2, name := ['p'], dimensions := [['4']], base := ["char".toList]
        isIdentifier := by decide, isDigit := by decide, isInitializer := by simp
        base_ne_nil := by decide, isIdentifier_base := by decide, init_eq := rfl }
    let header : FunctionHeader :=
      { base := ["int".toList], name := ['f'], parameters := [x, p], base_ne_nil := by decide
        isIdentifier_base := by decide, no_control := by decide, isIdentifier_name := by decide
        parameters_ne_nil := nofun, nodup_names := by decide }
    let lines := ["int x, *p;", "int f(const int x, char **p[4]) \x7b", "if (x) \x7b",
      "**p = x;", "\x7d", "return x;", "\x7d", "*p = x;"].map String.toList
    let checked := (scanLines lines).filter CodeLine.isChecked
    let issues := (scopeCheck false lines).map (Sighting.issue "a.c")
    checked.map CodeLine.row = [0, 1, 2, 3, 4, 5, 6, 7] ∧
      checked[1]?.map CodeLine.code = some header.text ∧
      (∀ deref, Sighting.issue "a.c" ⟨3, unsetDefect ['p'] deref⟩ ∉ issues) ∧
      (∀ deref, Sighting.issue "a.c" ⟨5, unsetDefect ['x'] deref⟩ ∉ issues) ∧
      issues.map (fun issue => (issue.line, issue.category)) =
        [(8, .uninitialized), (8, .wildPointer)] := by
  intro x p header lines checked issues
  have hchecked : checked =
      [⟨0, lines[0], lines[0]⟩, ⟨1, lines[1], lines[1]⟩, ⟨2, lines[2], lines[2]⟩,
        ⟨3, lines[3], lines[3]⟩, ⟨4, lines[4], lines[4]⟩, ⟨5, lines[5], lines[5]⟩,
        ⟨6, lines[6], lines[6]⟩, ⟨7, lines[7], lines[7]⟩] := by
    decide +kernel
  have hheader : lines[1] = header.text := by decide +kernel
  obtain ⟨-, hlater⟩ := @parameters_initialized_until_closed false header
    ⟨1, lines[1], lines[1]⟩ hheader (Scope.afterLines false {} [⟨0, lines[0], lines[0]⟩])
  have hp := (hlater p (by simp [header]) [⟨2, lines[2], lines[2]⟩] ⟨3, lines[3], lines[3]⟩
    (by decide +kernel) (by decide +kernel)).2 "a.c" lines _ _ hchecked rfl
  have hx := (hlater x (by simp [header])
    [⟨2, lines[2], lines[2]⟩, ⟨3, lines[3], lines[3]⟩, ⟨4, lines[4], lines[4]⟩]
    ⟨5, lines[5], lines[5]⟩ (by decide +kernel) (by decide +kernel)).2 "a.c" lines _ _ hchecked rfl
  exact ⟨by decide +kernel, by decide +kernel, hp, hx, by decide +kernel⟩

end DefectScan
