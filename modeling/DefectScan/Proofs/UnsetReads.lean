import DefectScan.Proofs.CommentInfluence
import DefectScan.Proofs.Entries
import Mathlib.Data.List.Nodup

/-!
# Reads of variables without a value

The scope check keeps one flag for each variable that says whether it was given a value. The flag
is read off the history of the file: a name has no value on a line if the declarator that stored
its entry has no initializer and no line since then, the line itself included, assigned the name
while it meant this entry. The main statement says that the uses reported on a line are exactly
the uses of such names, and which of them are reported as dereferences.
-/

namespace DefectScan

open Text

/-! ### The lines of a run -/

/-- The checkpoint of a line comes after the lines before it. -/
theorem exists_split_of_mem_checkpointsFrom {flow : Bool} {scope : Scope} {lines : List CodeLine}
    {c : Checkpoint} (h : c ∈ checkpointsFrom flow scope lines) :
    ∃ pre post, lines = pre ++ c.line :: post ∧
      c = (scope.afterLines flow pre).checkpoint c.line := by
  induction lines generalizing scope with
  | nil => cases h
  | cons line lines ih =>
    rcases List.mem_cons.1 h with rfl | h
    · exact ⟨[], lines, rfl, rfl⟩
    · obtain ⟨pre, post, rfl, hc⟩ := ih h
      exact ⟨line :: pre, post, rfl, hc⟩

theorem line_mem_of_mem_checkpointsFrom {flow : Bool} {scope : Scope} {lines : List CodeLine}
    {c : Checkpoint} (h : c ∈ checkpointsFrom flow scope lines) : c.line ∈ lines := by
  rw [← map_line_checkpointsFrom flow scope lines]
  exact List.mem_map_of_mem h

/-- What is sighted on a line is one of its defects, in some scope. -/
theorem exists_line_of_mem_sightings {flow : Bool} {scope : Scope} {lines : List CodeLine}
    {s : Sighting} (h : s ∈ (scopeStepsFrom flow scope lines).flatMap ScopeStep.sightings) :
    ∃ line ∈ lines, s.row = line.row ∧ ∃ start : Scope, s.defect ∈ start.lineDefects flow line := by
  obtain ⟨step, hstep, hs⟩ := List.mem_flatMap.1 h
  obtain ⟨line, hline, start, rfl⟩ := exists_line_of_mem_scopeStepsFrom hstep
  obtain ⟨d, hd, rfl⟩ := List.mem_map.1 hs
  exact ⟨line, hline, rfl, start, hd⟩

section Rows

variable {flow : Bool} {pre post : List CodeLine} {line : CodeLine}

/-- The lines up to a line are those with no greater row. -/
theorem checkpointsFrom_eq_filter (scope : Scope)
    (hrows : (pre ++ line :: post).Pairwise fun a b => a.row < b.row) :
    checkpointsFrom flow scope (pre ++ [line]) =
      (checkpointsFrom flow scope (pre ++ line :: post)).filter
        fun e => e.line.row ≤ line.row := by
  have hsplit : pre ++ line :: post = (pre ++ [line]) ++ post := by simp
  obtain ⟨-, hpost, hpre⟩ := List.pairwise_append.1 hrows
  rw [hsplit, checkpointsFrom_append flow scope (pre ++ [line]) post, List.filter_append,
    List.filter_eq_self.2, List.filter_eq_nil_iff.2, List.append_nil]
  · intro e he
    have hlt := List.rel_of_pairwise_cons hpost (line_mem_of_mem_checkpointsFrom he)
    simpa using hlt
  · intro e he
    rw [decide_eq_true_iff]
    rcases List.mem_append.1 (line_mem_of_mem_checkpointsFrom he) with he | he
    · exact Nat.le_of_lt (hpre _ he line List.mem_cons_self)
    · exact Nat.le_of_eq (congrArg CodeLine.row (List.mem_singleton.1 he))

/-- The sightings on the row of a line are its defects after the lines before it. -/
theorem mem_sightings_iff (scope : Scope)
    (hrows : (pre ++ line :: post).Pairwise fun a b => a.row < b.row) (d : Defect) :
    ⟨line.row, d⟩ ∈ (scopeStepsFrom flow scope (pre ++ line :: post)).flatMap
        ScopeStep.sightings ↔
      d ∈ (scope.afterLines flow pre).lineDefects flow line := by
  induction pre generalizing scope with
  | nil =>
    have hlater : (⟨line.row, d⟩ : Sighting) ∉
        (scopeStepsFrom flow (scope.afterLine flow line) post).flatMap ScopeStep.sightings := by
      intro h
      obtain ⟨later, hlater, hrow, -⟩ := exists_line_of_mem_sightings h
      exact Nat.ne_of_lt (List.rel_of_pairwise_cons hrows hlater) hrow
    rw [List.nil_append, scopeStepsFrom, List.flatMap_cons, List.mem_append, or_iff_left hlater]
    simp [ScopeStep.sightings, Scope.afterLines]
  | cons first pre ih =>
    obtain ⟨hfirst, hrest⟩ := List.pairwise_cons.1 hrows
    have hne : first.row ≠ line.row := Nat.ne_of_lt (hfirst line (by simp))
    rw [List.cons_append, scopeStepsFrom, List.flatMap_cons, List.mem_append, or_iff_right]
    · exact ih (scope.afterLine flow first) hrest
    · intro h
      obtain ⟨_, -, hs⟩ := List.mem_map.1 h
      exact hne (congrArg Sighting.row hs)

end Rows

/-- An issue tells the row of what was sighted, its category and its wording. -/
theorem Sighting.eq_of_issue_eq {path : String} {s s' : Sighting}
    (h : s.issue path = s'.issue path) :
    s.row = s'.row ∧ s.defect.category = s'.defect.category ∧
      s.defect.message = s'.defect.message := by
  have hline := congrArg Issue.line h
  simp only [Sighting.issue, Issue.atRow] at hline
  exact ⟨by omega, congrArg Issue.category h, congrArg Issue.message h⟩

/-- A defect that category and wording tell from all other defects of lines is reported where it
is sighted. -/
theorem issue_mem_scopeCheck_iff {flow : Bool} (path : String) (lines : List (List Char))
    (row : Nat) {d : Defect} (hheader : d.category ≠ .header)
    (hunique : ∀ (start : Scope) (line : CodeLine), ∀ d' ∈ start.lineDefects flow line,
      d'.category = d.category → d'.message = d.message → d' = d) :
    Sighting.issue path ⟨row, d⟩ ∈ (scopeCheck flow lines).map (Sighting.issue path) ↔
      ⟨row, d⟩ ∈ (scopeSteps flow lines).flatMap ScopeStep.sightings := by
  constructor
  · intro h
    obtain ⟨⟨row', d'⟩, hs, hissue⟩ := List.mem_map.1 h
    obtain ⟨rfl, hcategory, hmessage⟩ := Sighting.eq_of_issue_eq hissue
    rcases List.mem_append.1 hs with hs | hs
    · obtain ⟨line, -, -, start, hd⟩ := exists_line_of_mem_sightings hs
      obtain rfl := hunique start line d' hd hcategory hmessage
      exact hs
    · have hmissing : d'.category = .header :=
        category_of_mem_headerIssues (List.mem_map_of_mem (f := Sighting.issue path) hs)
      exact absurd (hcategory.symm.trans hmissing) hheader
  · intro h
    exact List.mem_map_of_mem (List.mem_append_left _ h)

/-! ### Defects of unset names -/

/-- What is reported when a name without a value is used: a wild pointer if it is dereferenced. -/
def unsetDefect (name : List Char) (deref : Bool) : Defect :=
  if deref then .wildPointer name .notInitialized else .unsetUse name

/-- Whether a defect is about a variable without a value. -/
def Defect.isUnset (d : Defect) : Bool :=
  d.category == .uninitialized || d.category == .wildPointer

theorem isUnset_unsetDefect (name : List Char) (deref : Bool) :
    (unsetDefect name deref).isUnset = true := by
  cases deref <;> rfl

/-- Category and wording tell the name and whether it is dereferenced. -/
theorem unsetDefect_inj {name name' : List Char} {deref deref' : Bool}
    (hcategory : (unsetDefect name deref).category = (unsetDefect name' deref').category)
    (hmessage : (unsetDefect name deref).message = (unsetDefect name' deref').message) :
    name = name' ∧ deref = deref' := by
  have hderef : deref = deref' := by
    cases deref <;> cases deref' <;> first | rfl | cases hcategory
  subst hderef
  refine ⟨?_, rfl⟩
  cases deref with
  | false =>
    have hname := (String.append_left_inj _).1 hmessage
    exact String.ofList_inj.1 ((String.append_right_inj _).1 hname)
  | true =>
    have hname := (String.append_left_inj _).1 ((String.append_left_inj _).1 hmessage)
    exact String.ofList_inj.1 ((String.append_right_inj _).1 hname)

/-- A use is at fault for want of a value if the variable is no array and has none. -/
theorem Variable.useDefect?_eq_some_iff {row : Nat} {code name : List Char} {v : Variable}
    {d : Defect} (hd : d.isUnset = true) :
    v.useDefect? row code name = some d ↔
      v.isArray = false ∧ v.isInitialized = false ∧
        d = unsetDefect name (v.isPointer && dereferences name code) := by
  have hnull : d ≠ .nullPointer name := by
    rintro rfl
    cases hd
  unfold useDefect? unsetDefect
  cases v.isArray <;> cases v.isInitialized <;>
    cases (v.isPointer && dereferences name code) <;>
    cases v.nullSince.any (· < row) <;> simp [hnull, eq_comm]

namespace Scope

/-- A name that means a variable after the assignments of a line is visible at its checks. -/
theorem mem_visibleNames_enterLine {flow : Bool} {scope : Scope} {line : CodeLine}
    {name : List Char} {w : Variable} (hline : isLikelyDeclaration line.code = false)
    (h : (scope.afterLine flow line).lookup name = some w) :
    name ∈ (scope.enterLine line).visibleNames := by
  have hsome : ((scope.afterLine flow line).lookup name).isSome = true := by rw [h]; rfl
  rw [isSome_lookup, afterLine, if_neg (by simp [hline]), level?_assign] at hsome
  rwa [mem_visibleNames, isSome_lookup]

/-- The defects of a line that are about variables without a value. -/
theorem mem_lineDefects_iff_of_isUnset {flow : Bool} {scope : Scope} {line : CodeLine}
    {d : Defect} (hd : d.isUnset = true) :
    d ∈ scope.lineDefects flow line ↔
      isLikelyDeclaration line.code = false ∧ ∃ name w, occursIn name line.code = true ∧
        (scope.afterLine flow line).lookup name = some w ∧ w.isArray = false ∧
        w.isInitialized = false ∧
        d = unsetDefect name (w.isPointer && dereferences name line.code) := by
  cases hline : isLikelyDeclaration line.code with
  | true => simp [lineDefects, hline]
  | false =>
    have hloop : d ∉ if line.isEndlessLoop then [Defect.endlessLoop] else [] := by
      intro h
      split at h
      · cases List.mem_singleton.1 h
        cases hd
      · cases h
    have hformat : d ∉ line.formatDefects (scope.afterLine flow line) := by
      intro h
      rw [Defect.isUnset, CodeLine.category_of_mem_formatDefects h] at hd
      cases hd
    rw [lineDefects_eq_append, List.mem_append, or_iff_left hformat, codeDefects,
      if_neg (by simp [hline]), List.mem_append, or_iff_right hloop, useDefects,
      List.mem_filterMap]
    simp only [Option.ite_none_right_eq_some, Option.bind_eq_some_iff,
      Variable.useDefect?_eq_some_iff hd, true_and]
    constructor
    · rintro ⟨name, -, hoccurs, w, hw, harray, hvalue, rfl⟩
      exact ⟨name, w, hoccurs, hw, harray, hvalue, rfl⟩
    · rintro ⟨name, w, hoccurs, hw, harray, hvalue, rfl⟩
      exact ⟨name, mem_visibleNames_enterLine hline hw, hoccurs, w, hw, harray, hvalue, rfl⟩

end Scope

/-- The reports of uses without a value are told apart by row and name. -/
theorem issue_mem_iff (flow : Bool) (path : String) (lines : List (List Char)) (row : Nat)
    (name : List Char) (deref : Bool) :
    Sighting.issue path ⟨row, unsetDefect name deref⟩ ∈
        (scopeCheck flow lines).map (Sighting.issue path) ↔
      ⟨row, unsetDefect name deref⟩ ∈ (scopeSteps flow lines).flatMap ScopeStep.sightings := by
  have hunset := isUnset_unsetDefect name deref
  refine issue_mem_scopeCheck_iff path lines row ?_ fun start line d hd hcategory hmessage => ?_
  · intro hheader
    rw [Defect.isUnset, hheader] at hunset
    cases hunset
  · have hd' : d.isUnset = true := by
      rw [Defect.isUnset, hcategory]
      exact hunset
    obtain ⟨-, name', w, -, -, -, -, rfl⟩ := (Scope.mem_lineDefects_iff_of_isUnset hd').1 hd
    obtain ⟨rfl, hderef⟩ := unsetDefect_inj hcategory hmessage
    rw [hderef]

/-! ### What a name means -/

namespace Checkpoint

/-- On the line `c` the name means the entry that `d` stored: at its level, with no line in between
storing it again. -/
structure Means (cs : List Checkpoint) (name : List Char) (d c : Checkpoint) : Prop where
  /-- The line `d` stores the name. -/
  stores : (d.stored? name).isSome = true
  /-- It is not below `c`. -/
  row_le : d.line.row ≤ c.line.row
  /-- The innermost table with the name is at the level into which `d` stores. -/
  level : c.scope.level? name = some d.scope.depth
  /-- No line between them stored the name into that table. -/
  last : ∀ e ∈ cs, d.line.row < e.line.row → e.line.row ≤ c.line.row →
    e.scope.depth = d.scope.depth → e.stored? name = none

/-- The scope in which the uses of a line that is no declaration are judged: after its
assignments. -/
def assigned (flow : Bool) (c : Checkpoint) : Scope :=
  c.scope.assign flow c.line.row c.line.code c.scope.visibleNames

/-- The name is read on the line `c` although its entry `v`, stored by the declaration line `d`,
has no value. -/
structure ReadsUnset (cs : List Checkpoint) (name : List Char) (c d : Checkpoint)
    (v : Variable) : Prop where
  /-- The name stands on the line. -/
  occurs : occursIn name c.line.code = true
  /-- It means the entry. -/
  lookup : c.scope.lookup name = some v
  /-- The entry is no array. -/
  isArray : v.isArray = false
  /-- The line `d` is one of the lines. -/
  mem : d ∈ cs
  /-- It stands above. -/
  row_lt : d.line.row < c.line.row
  /-- It is a declaration line. -/
  isDeclaration : d.isDeclaration = true
  /-- The declarator of the name has no initializer. -/
  declared : ∃ typeName isPointer isArray,
    lastNamed? name d.declared = some (.declared typeName name isPointer isArray none)
  /-- The entry is the one that it stored. -/
  means : Means cs name d c
  /-- No line since then assigned the name while it meant this entry. -/
  unassigned : ∀ e ∈ cs, d.line.row < e.line.row → e.line.row ≤ c.line.row →
    e.isDeclaration = false → Means cs name d e → assignmentTo? e.line.code name = none

section Run

variable {flow : Bool} {lines : List CodeLine} {name : List Char} {c d d' : Checkpoint}
  {v w : Variable}

/-- The checkpoints of a run are told apart by their rows. -/
theorem eq_of_row_eq (hrows : lines.Pairwise fun a b => a.row < b.row)
    (hc : c ∈ checkpointsFrom flow {} lines) (hd : d ∈ checkpointsFrom flow {} lines)
    (hrow : c.line.row = d.line.row) : c = d := by
  have hnodup : ((checkpointsFrom flow {} lines).map fun e => e.line.row).Nodup := by
    rw [← map_line_checkpointsFrom flow {} lines, List.pairwise_map] at hrows
    rw [List.Nodup, List.pairwise_map]
    exact hrows.imp Nat.ne_of_lt
  exact List.inj_on_of_nodup_map hnodup hc hd hrow

/-- A line that stored the entry which a name means is not below another such line. -/
theorem Means.row_le_row {cs : List Checkpoint} (h : Means cs name d c) (h' : Means cs name d' c)
    (hd' : d' ∈ cs) : d'.line.row ≤ d.line.row := by
  have hdepth : d'.scope.depth = d.scope.depth := Option.some.inj (h'.level.symm.trans h.level)
  by_contra hlt
  have hnone := h.last d' hd' (Nat.lt_of_not_le hlt) h'.row_le hdepth
  have hsome := h'.stores
  rw [hnone] at hsome
  cases hsome

/-- The entry that a name means was stored by one line only. -/
theorem Means.unique (hrows : lines.Pairwise fun a b => a.row < b.row)
    (h : Means (checkpointsFrom flow {} lines) name d c)
    (h' : Means (checkpointsFrom flow {} lines) name d' c)
    (hd : d ∈ checkpointsFrom flow {} lines) (hd' : d' ∈ checkpointsFrom flow {} lines) :
    d = d' :=
  eq_of_row_eq hrows hd hd' (Nat.le_antisymm (h'.row_le_row h hd) (h.row_le_row h' hd'))

theorem afterLine_eq_assigned {scope : Scope} (hc : c = scope.checkpoint c.line)
    (hline : c.isDeclaration = false) : scope.afterLine flow c.line = c.assigned flow := by
  have hscope : c.scope = scope.enterLine c.line := congrArg Checkpoint.scope hc
  rw [Scope.afterLine, assigned, hscope]
  exact if_neg (Bool.eq_false_iff.1 hline)

/-- After the assignments of a line the name means an entry at the level it has at the checks. -/
theorem level?_assigned (flow : Bool) (c : Checkpoint) (name : List Char) :
    (c.assigned flow).level? name = c.scope.level? name :=
  Scope.level?_assign c.scope c.scope.visibleNames name

/-- The line that stored the entry which a name means explains it. -/
theorem exists_explains_of_lookup (hrows : lines.Pairwise fun a b => a.row < b.row)
    (hc : c ∈ checkpointsFrom flow {} lines) (hline : c.isDeclaration = false)
    (h : (c.assigned flow).lookup name = some w) :
    ∃ d, c.scope.level? name = some d.scope.depth ∧
      Explains ((checkpointsFrom flow {} lines).filter fun e => e.line.row ≤ c.line.row)
        d.scope.depth name w d := by
  obtain ⟨pre, post, rfl, hcheckpoint⟩ := exists_split_of_mem_checkpointsFrom hc
  have hafter : Scope.afterLines flow {} (pre ++ [c.line]) = c.assigned flow := by
    rw [Scope.afterLines_concat, afterLine_eq_assigned hcheckpoint hline]
  obtain ⟨level, hlevel, hslot⟩ := Scope.exists_level?_of_lookup h
  rw [← hafter] at hslot
  have hpast : (pre ++ [c.line]).Pairwise fun a b => a.row < b.row :=
    hrows.sublist (by simp)
  obtain ⟨d, hd⟩ := exists_explains flow hpast hslot
  rw [checkpointsFrom_eq_filter {} hrows] at hd
  obtain rfl := hd.depth_eq
  exact ⟨d, (level?_assigned flow c name).symm.trans hlevel, hd⟩

/-- A declarator that leaves its name without a value has no initializer. -/
theorem exists_declared_of_lastNamed? (h : lastNamed? name c.declared = some v)
    (hv : v.isInitialized = false) :
    ∃ typeName isPointer isArray, v = .declared typeName name isPointer isArray none := by
  have hmem := mem_of_lastNamed? h
  unfold declared Scope.declaredOn at hmem
  split at hmem
  · split at hmem
    · cases hmem
    · obtain ⟨typeName, name', isPointer, isArray, init, rfl⟩ :=
        exists_declared_of_mem_parseDeclaration hmem
      obtain rfl : init = none := by
        cases init with
        | none => rfl
        | some value => cases hv
      obtain rfl : name' = name := name_of_lastNamed? h
      exact ⟨typeName, isPointer, isArray, rfl⟩
  · cases hmem

end Run

end Checkpoint

namespace Explains

variable {cs : List Checkpoint} {name : List Char} {c d : Checkpoint} {w : Variable}
  (h : Explains (cs.filter fun e => e.line.row ≤ c.line.row) d.scope.depth name w d)
include h

/-- The line that explains the entry which a name means is the one that stored it. -/
theorem means (hlevel : c.scope.level? name = some d.scope.depth) :
    Checkpoint.Means cs name d c where
  stores := by
    obtain ⟨u, hu, -⟩ := h.stored
    rw [hu]
    rfl
  row_le := by simpa using (List.mem_filter.1 h.mem).2
  level := hlevel
  last e he hlt hle hdepth := h.last e (List.mem_filter.2 ⟨he, decide_eq_true hle⟩) hlt hdepth

/-- An entry has no value if its declarator has no initializer and the name was not assigned since
then while it meant the entry. -/
theorem isInitialized_eq_false_iff (hmeans : Checkpoint.Means cs name d c) :
    w.isInitialized = false ↔
      (∃ typeName isPointer isArray,
        lastNamed? name d.declared = some (.declared typeName name isPointer isArray none)) ∧
      ∀ e ∈ cs, d.line.row < e.line.row → e.line.row ≤ c.line.row → e.isDeclaration = false →
        Checkpoint.Means cs name d e → assignmentTo? e.line.code name = none := by
  obtain ⟨u, hu, -, hvalue⟩ := h.stored
  rw [← Bool.not_eq_true, hvalue, not_or]
  refine and_congr ?_ ?_
  · constructor
    · intro hvalue
      obtain ⟨v, hv, rfl⟩ := Checkpoint.exists_declared_of_stored? hu (by simpa using hvalue)
      obtain ⟨typeName, isPointer, isArray, rfl⟩ :=
        Checkpoint.exists_declared_of_lastNamed? hv (by simpa using hvalue)
      exact ⟨typeName, isPointer, isArray, hv⟩
    · rintro ⟨typeName, isPointer, isArray, hdeclared⟩
      rw [Checkpoint.stored?_of_declared hdeclared] at hu
      cases hu
      simp [Variable.declared]
  · constructor
    · intro hassigned e he hlt hle hline hmeant
      by_contra hne
      exact hassigned ⟨e, List.mem_filter.2 ⟨he, decide_eq_true hle⟩, hlt, hline, hmeant.level,
        Option.isSome_iff_ne_none.2 hne⟩
    · rintro hnone ⟨e, he, hlt, hline, hlevel, hsome⟩
      obtain ⟨he, hle⟩ := List.mem_filter.1 he
      have hle : e.line.row ≤ c.line.row := of_decide_eq_true hle
      have hmeant : Checkpoint.Means cs name d e :=
        ⟨hmeans.stores, Nat.le_of_lt hlt, hlevel,
          fun e' he' hlt' hle' => hmeans.last e' he' hlt' (Nat.le_trans hle' hle)⟩
      rw [hnone e he hlt hle hline hmeant] at hsome
      cases hsome

end Explains

/-! ### Reports -/

namespace Checkpoint

variable {flow : Bool} {lines : List CodeLine} {c : Checkpoint}

/-- The assignments of a line leave what a name means as it was stored. -/
theorem map_fixed_lookup_assigned (flow : Bool) (c : Checkpoint) (name : List Char) :
    ((c.assigned flow).lookup name).map Variable.fixed =
      (c.scope.lookup name).map Variable.fixed := by
  have hsome : ((c.assigned flow).lookup name).isSome = (c.scope.lookup name).isSome := by
    rw [Scope.isSome_lookup, Scope.isSome_lookup, level?_assigned]
  cases hw : (c.assigned flow).lookup name with
  | none =>
    rw [hw] at hsome
    rw [Option.not_isSome_iff_eq_none.1 (Bool.eq_false_iff.1 hsome.symm)]
  | some w =>
    obtain ⟨level, hlevel, hslot⟩ := Scope.exists_level?_of_lookup hw
    rw [level?_assigned] at hlevel
    obtain ⟨v, hv, hfixed, -⟩ := Scope.exists_slot?_of_assign hslot
    rw [Scope.lookup_eq_slot? hlevel, hv, Option.map_some, Option.map_some, hfixed]

/-- A use is reported if the name is read although its entry has no value. -/
theorem exists_readsUnset_iff (hrows : lines.Pairwise fun a b => a.row < b.row)
    (hc : c ∈ checkpointsFrom flow {} lines) (hline : c.isDeclaration = false)
    (name : List Char) (P : Bool → Prop) :
    (∃ d v, ReadsUnset (checkpointsFrom flow {} lines) name c d v ∧ P v.isPointer) ↔
      occursIn name c.line.code = true ∧ ∃ w, (c.assigned flow).lookup name = some w ∧
        w.isArray = false ∧ w.isInitialized = false ∧ P w.isPointer := by
  have hfixed := map_fixed_lookup_assigned flow c name
  constructor
  · rintro ⟨d, v, h, hP⟩
    rw [h.lookup] at hfixed
    obtain ⟨w, hw, hfixed⟩ := Option.map_eq_some_iff.1 hfixed
    have harray := Variable.isArray_eq_of_fixed hfixed
    have hpointer := Variable.isPointer_eq_of_fixed hfixed
    obtain ⟨d', hlevel, hexplains⟩ := exists_explains_of_lookup hrows hc hline hw
    have hmeans := hexplains.means hlevel
    have hmem := (List.mem_filter.1 hexplains.mem).1
    obtain rfl : d' = d := hmeans.unique hrows h.means hmem h.mem
    refine ⟨h.occurs, w, hw, harray.trans h.isArray, ?_, hpointer ▸ hP⟩
    exact (hexplains.isInitialized_eq_false_iff hmeans).2 ⟨h.declared, h.unassigned⟩
  · rintro ⟨hoccurs, w, hw, harray, hvalue, hP⟩
    rw [hw] at hfixed
    obtain ⟨v, hv, hfixed⟩ := Option.map_eq_some_iff.1 hfixed.symm
    have hpointer := Variable.isPointer_eq_of_fixed hfixed
    obtain ⟨d, hlevel, hexplains⟩ := exists_explains_of_lookup hrows hc hline hw
    have hmeans := hexplains.means hlevel
    have hmem := (List.mem_filter.1 hexplains.mem).1
    obtain ⟨hdeclared, hunassigned⟩ := (hexplains.isInitialized_eq_false_iff hmeans).1 hvalue
    have hdeclaration : d.isDeclaration = true := by
      by_contra hd
      obtain ⟨_, _, _, hdeclared⟩ := hdeclared
      simp [declared, hd] at hdeclared
    refine ⟨d, v, ⟨hoccurs, hv, (Variable.isArray_eq_of_fixed hfixed).trans harray, hmem, ?_,
      hdeclaration, hdeclared, hmeans, hunassigned⟩, hpointer ▸ hP⟩
    refine Nat.lt_of_le_of_ne hmeans.row_le fun hrow => ?_
    rw [eq_of_row_eq hrows hmem hc hrow, hline] at hdeclaration
    cases hdeclaration

/-- A report on a line that is no declaration. -/
theorem issue_mem_iff_exists_readsUnset {lines : List (List Char)} (path : String)
    (hc : c ∈ checkpoints flow lines) (hline : c.isDeclaration = false) (name : List Char)
    (deref : Bool) :
    Sighting.issue path ⟨c.line.row, unsetDefect name deref⟩ ∈
        (scopeCheck flow lines).map (Sighting.issue path) ↔
      ∃ d v, ReadsUnset (checkpoints flow lines) name c d v ∧
        (v.isPointer && dereferences name c.line.code) = deref := by
  have hrows := (pairwise_row_scanLines lines).filter CodeLine.isChecked
  obtain ⟨pre, post, hsplit, hcheckpoint⟩ := exists_split_of_mem_checkpointsFrom hc
  rw [checkpoints, exists_readsUnset_iff hrows hc hline name
    fun isPointer => (isPointer && dereferences name c.line.code) = deref]
  rw [issue_mem_iff, scopeSteps, hsplit, mem_sightings_iff {} (hsplit ▸ hrows),
    Scope.mem_lineDefects_iff_of_isUnset (isUnset_unsetDefect name deref),
    afterLine_eq_assigned hcheckpoint hline]
  constructor
  · rintro ⟨-, name', w, hoccurs, hw, harray, hvalue, hdefect⟩
    obtain ⟨rfl, rfl⟩ := unsetDefect_inj (congrArg Defect.category hdefect)
      (congrArg Defect.message hdefect)
    exact ⟨hoccurs, w, hw, harray, hvalue, rfl⟩
  · rintro ⟨hoccurs, w, hw, harray, hvalue, rfl⟩
    exact ⟨hline, name, w, hoccurs, hw, harray, hvalue, rfl⟩

end Checkpoint

/-- A name is reported without a value if and only if the line reads an entry stored without an
initializer and not assigned since. -/
theorem unset_reported_iff_readsUnset (flow : Bool) (path : String) (lines : List (List Char)) :
    let cs := checkpoints flow lines
    cs.map Checkpoint.line = (scanLines lines).filter CodeLine.isChecked ∧
      ∀ c ∈ cs, c.isDeclaration = false → ∀ name : List Char,
        let reported (d : Defect) : Prop :=
          Sighting.issue path ⟨c.line.row, d⟩ ∈ (scopeCheck flow lines).map (Sighting.issue path)
        let unset := reported (.unsetUse name)
        let wild := reported (.wildPointer name .notInitialized)
        (unset ∨ wild ↔ ∃ d v, Checkpoint.ReadsUnset cs name c d v) ∧
          ∀ d v, Checkpoint.ReadsUnset cs name c d v →
            (wild ↔ v.isPointer = true ∧ dereferences name c.line.code = true) ∧
              (unset ↔ ¬(v.isPointer = true ∧ dereferences name c.line.code = true)) := by
  intro cs
  refine ⟨map_line_checkpointsFrom flow {} _, fun c hc hline name => ?_⟩
  intro reported unset wild
  have hunset : unset ↔ _ :=
    Checkpoint.issue_mem_iff_exists_readsUnset path hc hline name false
  have hwild : wild ↔ _ :=
    Checkpoint.issue_mem_iff_exists_readsUnset path hc hline name true
  rw [hunset, hwild]
  constructor
  · constructor
    · rintro (⟨d, v, h, -⟩ | ⟨d, v, h, -⟩)
      · exact ⟨d, v, h⟩
      · exact ⟨d, v, h⟩
    · rintro ⟨d, v, h⟩
      cases hderef : v.isPointer && dereferences name c.line.code with
      | false => exact .inl ⟨d, v, h, hderef⟩
      | true => exact .inr ⟨d, v, h, hderef⟩
  · intro d v h
    have hsame : ∀ deref : Bool,
        (∃ d' v', Checkpoint.ReadsUnset cs name c d' v' ∧
          (v'.isPointer && dereferences name c.line.code) = deref) ↔
        (v.isPointer && dereferences name c.line.code) = deref := by
      intro deref
      constructor
      · rintro ⟨d', v', h', hderef⟩
        obtain rfl : v' = v := Option.some.inj (h'.lookup.symm.trans h.lookup)
        exact hderef
      · exact fun hderef => ⟨d, v, h, hderef⟩
    rw [hsame, hsame, ← Bool.and_eq_true, Bool.not_eq_true]
    exact ⟨Iff.rfl, Iff.rfl⟩

/-- The last line reads two unset names of the file; the assignments are to a parameter and a local
variable of these names. -/
theorem unset_reported_iff_readsUnset_shadowed :
    let lines := ["int x, *p;", "void f(int *p) \x7b", "int x = 1;", "x = *p; p = &x;", "\x7d",
      "*p = x;"].map String.toList
    let number : Variable := { name := ['x'], typeName := "int".toList }
    let pointer : Variable := { name := ['p'], typeName := "int".toList, isPointer := true }
    let c : Checkpoint :=
      { line := ⟨5, "*p = x;".toList, "*p = x;".toList⟩
        scope := { globals := [(['x'], number), (['p'], pointer)] } }
    c ∈ checkpoints false lines ∧ c.isDeclaration = false ∧
      (∃ d v, Checkpoint.ReadsUnset (checkpoints false lines) ['p'] c d v ∧
        v.isPointer = true ∧ dereferences ['p'] c.line.code = true) ∧
      ∃ d v, Checkpoint.ReadsUnset (checkpoints false lines) ['x'] c d v ∧
        ¬(v.isPointer = true ∧ dereferences ['x'] c.line.code = true) := by
  intro lines number pointer c
  have hc : c ∈ checkpoints false lines := by decide +kernel
  have hline : c.isDeclaration = false := by decide +kernel
  have hreads := (unset_reported_iff_readsUnset false "a.c" lines).2 c hc hline
  have hwild : Sighting.issue "a.c" ⟨5, .wildPointer ['p'] .notInitialized⟩ ∈
      (scopeCheck false lines).map (Sighting.issue "a.c") := by decide +kernel
  have hunset : Sighting.issue "a.c" ⟨5, .unsetUse ['x']⟩ ∈
      (scopeCheck false lines).map (Sighting.issue "a.c") := by decide +kernel
  obtain ⟨d, v, hp⟩ := (hreads ['p']).1.1 (.inr hwild)
  obtain ⟨d', v', hx⟩ := (hreads ['x']).1.1 (.inl hunset)
  exact ⟨hc, hline, ⟨d, v, hp, ((hreads ['p']).2 d v hp).1.1 hwild⟩,
    d', v', hx, ((hreads ['x']).2 d' v' hx).2.1 hunset⟩

end DefectScan
