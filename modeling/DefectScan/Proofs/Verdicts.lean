import DefectScan.Proofs.ScopeStack
import DefectScan.Proofs.UnsetReads
import Mathlib.Data.List.Pairwise
import Mathlib.Data.Prod.Basic

/-!
# Verdicts on the uses of variables

For a line that is no declaration the scope check collects the visible names once and then goes
through them twice, to record assignments and to judge uses. Each time it relies on what a name
means. The check is restated with every such search as one that can fail, and it never does: an
assignment changes entries but takes no name away. Since each visible name is listed once, a line
gives at most one verdict on a name. The reports come in the order of the lines, with the missing
headers of the whole file behind them.
-/

namespace DefectScan

open Text

/-! ### Searches that can fail -/

namespace Scope

/-- The variable that a name means, or the name itself if it means none. -/
def resolve (scope : Scope) (name : List Char) : Except (List Char) Variable :=
  match scope.lookup name with
  | some v => .ok v
  | none => .error name

/-- Record the assignment of a row of code to a name, which is resolved if it is assigned. -/
def assignNameResolved (flow : Bool) (row : Nat) (code : List Char) (scope : Scope)
    (name : List Char) : Except (List Char) Scope :=
  if occursIn name code then
    match assignmentTo? code name with
    | some value => do
      let _ ← scope.resolve name
      pure (scope.modify name (Variable.assigned flow row value))
    | none => pure scope
  else pure scope

/-- Record the assignments of a row of code to the given names. -/
def assignResolved (flow : Bool) (row : Nat) (code : List Char) (scope : Scope)
    (names : List (List Char)) : Except (List Char) Scope :=
  names.foldlM (assignNameResolved flow row code) scope

/-- What is wrong with the uses of the given names on a row of code. Each name on it is resolved. -/
def useDefectsResolved (row : Nat) (code : List Char) (scope : Scope) :
    List (List Char) → Except (List Char) (List Defect)
  | [] => pure []
  | name :: names =>
    if occursIn name code then do
      let v ← scope.resolve name
      let rest ← useDefectsResolved row code scope names
      pure ((v.useDefect? row code name).toList ++ rest)
    else useDefectsResolved row code scope names

/-- The defects of a line that starts in the given scope, and the scope after it. -/
def lineResolved (flow : Bool) (scope : Scope) (line : CodeLine) :
    Except (List Char) (List Defect × Scope) :=
  let entered := scope.enterLine line
  if isLikelyDeclaration line.code then pure ([], entered.declareLine line.row line.code)
  else do
    let names := entered.visibleNames
    let assigned ← entered.assignResolved flow line.row line.code names
    let uses ← assigned.useDefectsResolved line.row line.code names
    pure
      ((if line.isEndlessLoop then [.endlessLoop] else []) ++ uses ++
        line.formatCalls.flatMap (FormatCall.defects assigned.isCharBuffer), assigned)

end Scope

/-- Check lines one after another, starting in the given scope, until a name means nothing. -/
def scopeStepsResolved (flow : Bool) (scope : Scope) :
    List CodeLine → Except (List Char) (List ScopeStep)
  | [] => pure []
  | line :: lines => do
    let (defects, next) ← scope.lineResolved flow line
    let steps ← scopeStepsResolved flow next lines
    pure (⟨line.row, defects, next⟩ :: steps)

/-- What the scope check finds in the lines of a file, unless a name means nothing. -/
def scopeCheckResolved (flow : Bool) (lines : List (List Char)) :
    Except (List Char) (List Sighting) := do
  let scanned := scanLines lines
  let steps ← scopeStepsResolved flow {} (scanned.filter CodeLine.isChecked)
  pure (steps.flatMap ScopeStep.sightings ++
    missingHeaders standardTable
      ((scanned.filter CodeLine.isChecked).flatMap CodeLine.calls) (includesIn scanned))

namespace Scope

theorem exists_resolve_eq {scope : Scope} {name : List Char} (h : name ∈ scope.visibleNames) :
    ∃ v, scope.lookup name = some v ∧ scope.resolve name = .ok v := by
  obtain ⟨v, hv⟩ := Option.isSome_iff_exists.1 ((mem_visibleNames scope name).1 h)
  exact ⟨v, hv, by rw [resolve, hv]⟩

theorem lookup_ne_none_of_mem_visibleNames {scope : Scope} {name : List Char}
    (h : name ∈ scope.visibleNames) : scope.lookup name ≠ none :=
  Option.isSome_iff_ne_none.1 ((mem_visibleNames scope name).1 h)

section Line

variable {flow : Bool} {row : Nat} {code : List Char} {scope : Scope} {names : List (List Char)}

/-- An assignment takes no name away. -/
theorem mem_visibleNames_assignName {name other : List Char} :
    other ∈ (assignName flow row code scope name).visibleNames ↔ other ∈ scope.visibleNames := by
  rw [mem_visibleNames, mem_visibleNames, isSome_lookup, isSome_lookup, level?_assignName]

theorem mem_visibleNames_assign {name : List Char} :
    name ∈ (scope.assign flow row code names).visibleNames ↔ name ∈ scope.visibleNames := by
  rw [mem_visibleNames, mem_visibleNames, isSome_lookup, isSome_lookup, level?_assign]

theorem assignNameResolved_eq {name : List Char} (h : name ∈ scope.visibleNames) :
    assignNameResolved flow row code scope name = .ok (assignName flow row code scope name) := by
  obtain ⟨v, -, hresolve⟩ := exists_resolve_eq h
  unfold assignNameResolved assignName
  cases hvalue : assignmentTo? code name with
  | none => exact ite_self _
  | some value =>
    rw [if_pos (occursIn_of_assignmentTo? hvalue), hresolve]
    rfl

theorem assignResolved_eq (h : ∀ name ∈ names, name ∈ scope.visibleNames) :
    scope.assignResolved flow row code names = .ok (scope.assign flow row code names) := by
  rw [assign_eq_foldl, assignResolved]
  induction names generalizing scope with
  | nil => rfl
  | cons name names ih =>
    obtain ⟨hname, hnames⟩ := List.forall_mem_cons.1 h
    rw [List.foldlM_cons, assignNameResolved_eq hname, List.foldl_cons]
    exact ih fun other hother => mem_visibleNames_assignName.2 (hnames other hother)

theorem useDefects_cons (name : List Char) (names : List (List Char)) :
    scope.useDefects row code (name :: names) =
      (if occursIn name code then (scope.lookup name).bind (Variable.useDefect? row code name)
        else none).toList ++ scope.useDefects row code names := by
  rw [useDefects, List.filterMap_cons]
  split
  · next hnone => rw [hnone]; rfl
  · next hsome => rw [hsome]; rfl

theorem useDefectsResolved_eq (h : ∀ name ∈ names, name ∈ scope.visibleNames) :
    scope.useDefectsResolved row code names = .ok (scope.useDefects row code names) := by
  induction names with
  | nil => rfl
  | cons name names ih =>
    obtain ⟨hname, hnames⟩ := List.forall_mem_cons.1 h
    obtain ⟨v, hlookup, hresolve⟩ := exists_resolve_eq hname
    rw [useDefectsResolved, ih hnames, hresolve, useDefects_cons, hlookup]
    split <;> rfl

end Line

/-- On a line every search finds an entry. -/
theorem lineResolved_eq (flow : Bool) (scope : Scope) (line : CodeLine) :
    scope.lineResolved flow line =
      .ok (scope.lineDefects flow line, scope.afterLine flow line) := by
  unfold lineResolved lineDefects afterLine
  dsimp only
  split
  · rfl
  · rw [assignResolved_eq fun _ h => h]
    simp only [bind, Except.bind]
    rw [useDefectsResolved_eq fun _ h => mem_visibleNames_assign.2 h]
    rfl

end Scope

theorem scopeStepsResolved_eq (flow : Bool) (scope : Scope) (lines : List CodeLine) :
    scopeStepsResolved flow scope lines = .ok (scopeStepsFrom flow scope lines) := by
  induction lines generalizing scope with
  | nil => rfl
  | cons line lines ih =>
    rw [scopeStepsResolved, scope.lineResolved_eq]
    simp only [bind, Except.bind, ih]
    rfl

theorem scopeCheckResolved_eq (flow : Bool) (lines : List (List Char)) :
    scopeCheckResolved flow lines = .ok (scopeCheck flow lines) := by
  rw [scopeCheckResolved, scopeStepsResolved_eq]
  rfl

/-! ### Verdicts -/

/-- What can be said of a name's use: without a value, dereferenced without one, or dereferenced
while it may be null. -/
def verdictsOn (name : List Char) : List Defect :=
  [.unsetUse name, .wildPointer name .notInitialized, .nullPointer name]

/-- Whether the issues of a category are verdicts on uses of variables. -/
def Category.judgesUse : Category → Bool
  | uninitialized | wildPointer | nullPointer => true
  | _ => false

/-- The name that a defect is a verdict on. -/
def Defect.judged? : Defect → Option (List Char)
  | .unsetUse name | .wildPointer name _ | .nullPointer name => some name
  | _ => none

/-- The row and the name that a sighting is a verdict on. -/
def Sighting.judged? (s : Sighting) : Option (Nat × List Char) :=
  s.defect.judged?.map fun name => (s.row, name)

theorem judged?_of_mem_verdictsOn {name : List Char} {d : Defect} (h : d ∈ verdictsOn name) :
    d.judged? = some name := by
  simp only [verdictsOn, List.mem_cons, List.not_mem_nil, or_false] at h
  rcases h with rfl | rfl | rfl <;> rfl

theorem judgesUse_of_judged? {d : Defect} {name : List Char} (h : d.judged? = some name) :
    d.category.judgesUse = true := by
  cases d <;> first | rfl | cases h

/-- Category and wording of a verdict tell the name. -/
theorem name_eq_of_mem_verdictsOn {name name' : List Char} {d d' : Defect}
    (h : d ∈ verdictsOn name) (h' : d' ∈ verdictsOn name') (hcategory : d.category = d'.category)
    (hmessage : d.message = d'.message) : name = name' := by
  simp only [verdictsOn, List.mem_cons, List.not_mem_nil, or_false] at h h'
  rcases h with rfl | rfl | rfl <;> rcases h' with rfl | rfl | rfl <;> try cases hcategory
  · exact (@unsetDefect_inj name name' false false rfl hmessage).1
  · exact (@unsetDefect_inj name name' true true rfl hmessage).1
  · have hname := (String.append_left_inj _).1 hmessage
    exact String.ofList_inj.1 ((String.append_right_inj _).1 hname)

/-- A use is judged by its name, and not if it is that of an array. -/
theorem Variable.mem_verdictsOn_of_useDefect? {row : Nat} {code name : List Char} {v : Variable}
    {d : Defect} (h : v.useDefect? row code name = some d) :
    d ∈ verdictsOn name ∧ v.isArray = false := by
  unfold useDefect? at h
  split at h
  · cases h
  · next harray =>
    refine ⟨?_, Bool.eq_false_iff.2 harray⟩
    dsimp only at h
    split at h
    · split at h <;> cases h <;> simp [verdictsOn]
    · split at h
      · cases h
        simp [verdictsOn]
      · cases h

namespace Scope

variable {flow : Bool} {row : Nat} {code : List Char} {scope : Scope} {line : CodeLine}

/-- The names that are judged are some of the given ones, in their order. -/
theorem judged_useDefects_sublist (names : List (List Char)) :
    ((scope.useDefects row code names).filterMap Defect.judged?).Sublist names := by
  induction names with
  | nil => exact .slnil
  | cons name names ih =>
    rw [useDefects_cons, List.filterMap_append]
    set found := if occursIn name code then
      (scope.lookup name).bind (Variable.useDefect? row code name) else none with hfound
    cases hd : found with
    | none => exact ih.cons name
    | some d =>
      rw [hfound, Option.ite_none_right_eq_some, Option.bind_eq_some_iff] at hd
      obtain ⟨-, v, hlookup, hdefect⟩ := hd
      have hjudged := judged?_of_mem_verdictsOn (Variable.mem_verdictsOn_of_useDefect? hdefect).1
      rw [Option.toList_some, List.filterMap_cons_some hjudged]
      exact ih.cons_cons name

/-- Every use that is found at fault is judged by the name that is looked up, which is that of no
array. -/
theorem exists_of_mem_useDefects {names : List (List Char)} {d : Defect}
    (h : d ∈ scope.useDefects row code names) :
    ∃ name v, scope.lookup name = some v ∧ v.isArray = false ∧ d ∈ verdictsOn name := by
  obtain ⟨name, -, hname⟩ := List.mem_filterMap.1 h
  rw [Option.ite_none_right_eq_some, Option.bind_eq_some_iff] at hname
  obtain ⟨-, v, hlookup, hdefect⟩ := hname
  obtain ⟨hd, harray⟩ := Variable.mem_verdictsOn_of_useDefect? hdefect
  exact ⟨name, v, hlookup, harray, hd⟩

/-- The verdicts of a line are those on the uses of the visible names. -/
theorem filter_judgesUse_lineDefects (flow : Bool) (scope : Scope) (line : CodeLine) :
    (scope.lineDefects flow line).filter (fun d => d.category.judgesUse) =
      if isLikelyDeclaration line.code then []
      else (scope.afterLine flow line).useDefects line.row line.code
        (scope.enterLine line).visibleNames := by
  have hformat : (line.formatDefects (scope.afterLine flow line)).filter
      (fun d => d.category.judgesUse) = [] := by
    rw [List.filter_eq_nil_iff]
    intro d hd
    rw [CodeLine.category_of_mem_formatDefects hd]
    exact Bool.false_ne_true
  rw [lineDefects_eq_append, List.filter_append, hformat, List.append_nil, codeDefects]
  split
  · rfl
  · have hloop : (if line.isEndlessLoop then [Defect.endlessLoop] else []).filter
        (fun d => d.category.judgesUse) = [] := by
      split <;> rfl
    rw [List.filter_append, hloop, List.nil_append, List.filter_eq_self]
    intro d hd
    obtain ⟨name, v, -, -, hd⟩ := exists_of_mem_useDefects hd
    exact judgesUse_of_judged? (judged?_of_mem_verdictsOn hd)

/-- A line judges a name at most once. -/
theorem nodup_judged_lineDefects (flow : Bool) (scope : Scope) (line : CodeLine) :
    ((scope.lineDefects flow line).filterMap Defect.judged?).Nodup := by
  have hfilter : (scope.lineDefects flow line).filterMap Defect.judged? =
      ((scope.lineDefects flow line).filter fun d => d.category.judgesUse).filterMap
        Defect.judged? := by
    rw [List.filterMap_filter]
    congr 1
    funext d
    cases d <;> rfl
  rw [hfilter, filter_judgesUse_lineDefects]
  split
  · exact List.nodup_nil
  · exact (judged_useDefects_sublist _).nodup (nodup_visibleNames _)

/-- A verdict of a line is one on a name that means no array at its checks. -/
theorem exists_lookup_of_judgesUse {d : Defect} (hd : d ∈ scope.lineDefects flow line)
    (hcategory : d.category.judgesUse = true) :
    ∃ name v, (scope.enterLine line).lookup name = some v ∧ v.isArray = false ∧
      d ∈ verdictsOn name := by
  have hmem : d ∈ (scope.lineDefects flow line).filter (fun d => d.category.judgesUse) :=
    List.mem_filter.2 ⟨hd, hcategory⟩
  rw [filter_judgesUse_lineDefects] at hmem
  split at hmem
  · cases hmem
  · next hline =>
    obtain ⟨name, w, hlookup, harray, hname⟩ := exists_of_mem_useDefects hmem
    have hfixed := Checkpoint.map_fixed_lookup_assigned flow (scope.checkpoint line) name
    have hafter : scope.afterLine flow line = (scope.checkpoint line).assigned flow :=
      Checkpoint.afterLine_eq_assigned (c := scope.checkpoint line) rfl (Bool.eq_false_iff.2 hline)
    rw [← hafter, hlookup] at hfixed
    obtain ⟨v, hv, hshape⟩ := Option.map_eq_some_iff.1 hfixed.symm
    exact ⟨name, v, hv, (Variable.isArray_eq_of_fixed hshape).trans harray, hname⟩

end Scope

/-! ### Verdicts of a file -/

section File

variable {flow : Bool} {scope : Scope} {lines : List CodeLine}

/-- The rows and names that lines with increasing rows judge are all different. -/
theorem nodup_judged_scopeStepsFrom (hrows : lines.Pairwise fun a b => a.row < b.row) :
    (((scopeStepsFrom flow scope lines).flatMap ScopeStep.sightings).filterMap
      Sighting.judged?).Nodup := by
  induction lines generalizing scope with
  | nil => exact List.nodup_nil
  | cons line lines ih =>
    obtain ⟨hline, hlines⟩ := List.pairwise_cons.1 hrows
    have hhere : (ScopeStep.sightings ⟨line.row, scope.lineDefects flow line,
        scope.afterLine flow line⟩).filterMap Sighting.judged? =
        ((scope.lineDefects flow line).filterMap Defect.judged?).map fun name =>
          (line.row, name) := by
      rw [ScopeStep.sightings, List.filterMap_map, List.map_filterMap]
      rfl
    rw [scopeStepsFrom, List.flatMap_cons, List.filterMap_append, hhere]
    refine List.nodup_append.2 ⟨?_, ih hlines, ?_⟩
    · exact (scope.nodup_judged_lineDefects flow line).map (Prod.mk_right_injective line.row)
    · rintro _ hkey key hlater rfl
      obtain ⟨name, -, rfl⟩ := List.mem_map.1 hkey
      obtain ⟨s, hs, hjudged⟩ := List.mem_filterMap.1 hlater
      obtain ⟨later, hlater, hrow, -⟩ := exists_line_of_mem_sightings hs
      obtain ⟨_, -, hpair⟩ := Option.map_eq_some_iff.1 hjudged
      have hsame : s.row = line.row := congrArg Prod.fst hpair
      have hlt : line.row < later.row := hline later hlater
      omega

/-- What is sighted is a defect of the line of some checkpoint. -/
theorem exists_checkpoint_of_mem_sightings {s : Sighting}
    (h : s ∈ (scopeStepsFrom flow scope lines).flatMap ScopeStep.sightings) :
    ∃ c ∈ checkpointsFrom flow scope lines, ∃ start : Scope,
      c = start.checkpoint c.line ∧ s.row = c.line.row ∧
        s.defect ∈ start.lineDefects flow c.line := by
  obtain ⟨step, hstep, hs⟩ := List.mem_flatMap.1 h
  obtain ⟨pre, line, post, rfl, rfl⟩ := exists_split_of_mem_scopeStepsFrom hstep
  obtain ⟨d, hd, rfl⟩ := List.mem_map.1 hs
  refine ⟨(scope.afterLines flow pre).checkpoint line, ?_, _, rfl, rfl, hd⟩
  rw [checkpointsFrom_append]
  exact List.mem_append_right _ List.mem_cons_self

end File

section Reports

variable {flow : Bool} {lines : List (List Char)}

theorem nodup_judged_scopeCheck (flow : Bool) (lines : List (List Char)) :
    ((scopeCheck flow lines).filterMap Sighting.judged?).Nodup := by
  have hheaders : ∀ s ∈ missingHeaders standardTable
      (((scanLines lines).filter CodeLine.isChecked).flatMap CodeLine.calls)
      (includesIn (scanLines lines)), s.judged? = none := by
    intro s hs
    have hcategory := category_of_mem_missingHeaders hs
    obtain ⟨row, d⟩ := s
    cases d <;> first | rfl | cases hcategory
  rw [scopeCheck, List.filterMap_append, List.filterMap_eq_nil_iff.2 hheaders, List.append_nil]
  exact nodup_judged_scopeStepsFrom ((pairwise_row_scanLines lines).filter _)

/-- The issues that are verdicts on a name on a row. -/
def verdictIssues (path : String) (row : Nat) (name : List Char) : List Issue :=
  (verdictsOn name).map fun d => Sighting.issue path ⟨row, d⟩

/-- A sighting with the category of a verdict is one on a name that means no array on its line. -/
theorem exists_checkpoint_of_judgesUse {s : Sighting} (hs : s ∈ scopeCheck flow lines)
    (hcategory : s.defect.category.judgesUse = true) :
    ∃ c ∈ checkpoints flow lines, s.row = c.line.row ∧ ∃ name v,
      c.scope.lookup name = some v ∧ v.isArray = false ∧ s.defect ∈ verdictsOn name := by
  rcases List.mem_append.1 hs with hs | hs
  · obtain ⟨c, hc, start, hcheckpoint, hrow, hd⟩ := exists_checkpoint_of_mem_sightings hs
    obtain ⟨name, v, hlookup, harray, hname⟩ := Scope.exists_lookup_of_judgesUse hd hcategory
    have hscope : c.scope = start.enterLine c.line := congrArg Checkpoint.scope hcheckpoint
    exact ⟨c, hc, hrow, name, v, hscope ▸ hlookup, harray, hname⟩
  · rw [category_of_mem_missingHeaders hs] at hcategory
    cases hcategory

/-- An issue that is a verdict on a name on a row comes from a sighting that is. -/
theorem judged?_of_issue_mem_verdictIssues {path : String} {row : Nat} {name : List Char}
    {s : Sighting} (hs : s ∈ scopeCheck flow lines)
    (h : s.issue path ∈ verdictIssues path row name) :
    s.judged? = some (row, name) := by
  obtain ⟨d, hd, hissue⟩ := List.mem_map.1 h
  obtain ⟨hrow, hcategory, hmessage⟩ := Sighting.eq_of_issue_eq hissue
  have hjudges : s.defect.category.judgesUse = true :=
    hcategory ▸ judgesUse_of_judged? (judged?_of_mem_verdictsOn hd)
  obtain ⟨-, -, -, other, -, -, -, hother⟩ := exists_checkpoint_of_judgesUse hs hjudges
  obtain rfl := name_eq_of_mem_verdictsOn hd hother hcategory hmessage
  rw [Sighting.judged?, judged?_of_mem_verdictsOn hother, ← hrow]
  rfl

/-- A name is judged at most once on a row. -/
theorem countP_verdictIssues_le_one (flow : Bool) (path : String) (lines : List (List Char))
    (row : Nat) (name : List Char) :
    ((scopeCheck flow lines).map (Sighting.issue path)).countP
      (· ∈ verdictIssues path row name) ≤ 1 := by
  calc
    _ = (scopeCheck flow lines).countP
        fun s => decide (s.issue path ∈ verdictIssues path row name) := List.countP_map
    _ ≤ (scopeCheck flow lines).countP fun s => s.judged? == some (row, name) :=
      List.countP_mono_left fun s hs h =>
        beq_iff_eq.2 (judged?_of_issue_mem_verdictIssues hs (of_decide_eq_true h))
    _ = ((scopeCheck flow lines).filterMap Sighting.judged?).count (row, name) :=
      List.count_filterMap.symm
    _ ≤ 1 := List.nodup_iff_count_le_one.1 (nodup_judged_scopeCheck flow lines) _

/-- An issue with the category of a verdict is one on a name that means no array on its line. -/
theorem exists_mem_verdictIssues_of_judgesUse {path : String} {issue : Issue}
    (h : issue ∈ (scopeCheck flow lines).map (Sighting.issue path))
    (hcategory : issue.category.judgesUse = true) :
    ∃ c ∈ checkpoints flow lines, ∃ name v, c.scope.lookup name = some v ∧ v.isArray = false ∧
      issue ∈ verdictIssues path c.line.row name := by
  obtain ⟨s, hs, rfl⟩ := List.mem_map.1 h
  obtain ⟨c, hc, hrow, name, v, hlookup, harray, hname⟩ :=
    exists_checkpoint_of_judgesUse hs hcategory
  exact ⟨c, hc, name, v, hlookup, harray, List.mem_map.2 ⟨s.defect, hname, by rw [← hrow]⟩⟩

/-- No array is judged. -/
theorem not_mem_verdictIssues_of_isArray {path : String} {c : Checkpoint} {name : List Char}
    {v : Variable} (hc : c ∈ checkpoints flow lines) (hlookup : c.scope.lookup name = some v)
    (harray : v.isArray = true) {issue : Issue}
    (h : issue ∈ (scopeCheck flow lines).map (Sighting.issue path)) :
    issue ∉ verdictIssues path c.line.row name := by
  intro hissue
  obtain ⟨s, hs, rfl⟩ := List.mem_map.1 h
  have hjudged := judged?_of_issue_mem_verdictIssues hs hissue
  obtain ⟨_, hname, hkey⟩ := Option.map_eq_some_iff.1 hjudged
  obtain ⟨hrow, rfl⟩ := Prod.mk.inj hkey
  obtain ⟨c', hc', hrow', other, w, hother, hw, hmem⟩ :=
    exists_checkpoint_of_judgesUse hs (judgesUse_of_judged? hname)
  obtain rfl := Checkpoint.eq_of_row_eq ((pairwise_row_scanLines lines).filter _) hc hc'
    (hrow.symm.trans hrow')
  obtain rfl := Option.some.inj ((judged?_of_mem_verdictsOn hmem).symm.trans hname)
  rw [Option.some.inj (hother.symm.trans hlookup), harray] at hw
  cases hw

end Reports

/-! ### The order of the reports -/

/-- Sightings that are collected from rows in their order are reported in the order of the
lines. -/
theorem pairwise_line_flatMap {α : Type} (path : String) {rows : List α} {row : α → Nat}
    {sightings : α → List Sighting} (hrows : rows.Pairwise fun a b => row a < row b)
    (hrow : ∀ a, ∀ s ∈ sightings a, s.row = row a) :
    ((rows.flatMap sightings).map (Sighting.issue path)).Pairwise fun i j => i.line ≤ j.line := by
  have hline : ∀ s t : Sighting, s.row ≤ t.row → (s.issue path).line ≤ (t.issue path).line :=
    fun s t hle => Int.add_le_add_right (Int.ofNat_le.2 hle) 1
  rw [List.pairwise_map, List.pairwise_flatMap]
  constructor
  · exact fun a _ => List.pairwise_of_forall_mem_list fun s hs t ht =>
      hline s t (Nat.le_of_eq ((hrow a s hs).trans (hrow a t ht).symm))
  · refine hrows.imp fun {a b} hlt s hs t ht => hline s t ?_
    rw [hrow a s hs, hrow b t ht]
    exact Nat.le_of_lt hlt

theorem map_row_scopeStepsFrom (flow : Bool) (scope : Scope) (lines : List CodeLine) :
    (scopeStepsFrom flow scope lines).map ScopeStep.row = lines.map CodeLine.row := by
  induction lines generalizing scope with
  | nil => rfl
  | cons line lines ih => rw [scopeStepsFrom, List.map_cons, List.map_cons, ih]

/-- The defects of the lines are reported in the order of the lines. -/
theorem pairwise_line_steps (flow : Bool) (path : String) {scope : Scope} {lines : List CodeLine}
    (hrows : lines.Pairwise fun a b => a.row < b.row) :
    (((scopeStepsFrom flow scope lines).flatMap ScopeStep.sightings).map
      (Sighting.issue path)).Pairwise fun i j => i.line ≤ j.line := by
  refine @pairwise_line_flatMap ScopeStep path _ ScopeStep.row ScopeStep.sightings ?_ ?_
  · rw [← List.pairwise_map, map_row_scopeStepsFrom, List.pairwise_map]
    exact hrows
  · intro step s hs
    obtain ⟨d, -, rfl⟩ := List.mem_map.1 hs
    rfl

/-- The missing headers of the calls on lines are reported in the order of the lines. -/
theorem pairwise_line_missingHeaders (path : String) (table : HeaderTable)
    (includes : List Include) {lines : List CodeLine}
    (hrows : lines.Pairwise fun a b => a.row < b.row) :
    ((missingHeaders table (lines.flatMap CodeLine.calls) includes).map
      (Sighting.issue path)).Pairwise fun i j => i.line ≤ j.line := by
  have hlines : missingHeaders table (lines.flatMap CodeLine.calls) includes =
      lines.flatMap fun line => missingHeaders table line.calls includes := List.filterMap_flatMap
  rw [hlines]
  refine pairwise_line_flatMap path hrows fun line s hs => ?_
  obtain ⟨call, hcall, hs⟩ := List.mem_filterMap.1 hs
  rw [← CodeLine.row_of_mem_calls hcall]
  dsimp only at hs
  split at hs
  · cases hs
  · cases hs
    rfl

/-- Every search of the check finds an entry, it judges a name once a row at most, and missing
headers come last. -/
theorem scopeCheck_resolves_and_judges_once (flow : Bool) (path : String)
    (lines : List (List Char)) :
    let issues := (scopeCheck flow lines).map (Sighting.issue path)
    (∀ c ∈ checkpoints flow lines, ∀ done name rest, c.scope.visibleNames = done ++ name :: rest →
      (c.scope.assign flow c.line.row c.line.code done).lookup name ≠ none ∧
        (c.assigned flow).lookup name ≠ none) ∧
      scopeCheckResolved flow lines = .ok (scopeCheck flow lines) ∧
      (∀ row name, issues.countP (· ∈ verdictIssues path row name) ≤ 1) ∧
      (∀ issue ∈ issues, issue.category.judgesUse = true → ∃ c ∈ checkpoints flow lines,
        ∃ name v, c.scope.lookup name = some v ∧ v.isArray = false ∧
          issue ∈ verdictIssues path c.line.row name) ∧
      (∀ c ∈ checkpoints flow lines, ∀ name v, c.scope.lookup name = some v → v.isArray = true →
        ∀ issue ∈ issues, issue ∉ verdictIssues path c.line.row name) ∧
      ∃ found missing, issues = found ++ missing ∧
        (∀ issue ∈ found, issue.category ≠ .header) ∧
        found.Pairwise (fun i j => i.line ≤ j.line) ∧
        (∀ issue ∈ missing, issue.category = .header) ∧
        missing.Pairwise (fun i j => i.line ≤ j.line) := by
  intro issues
  have hrows := (pairwise_row_scanLines lines).filter CodeLine.isChecked
  refine ⟨fun c _ done name rest hnames => ?_, scopeCheckResolved_eq flow lines,
    countP_verdictIssues_le_one flow path lines,
    fun issue hissue => exists_mem_verdictIssues_of_judgesUse hissue,
    fun c hc name v hlookup harray issue hissue =>
      not_mem_verdictIssues_of_isArray hc hlookup harray hissue,
    _, _, List.map_append, fun issue hissue => category_ne_of_mem_stepIssues hissue,
    pairwise_line_steps flow path hrows, fun issue hissue => category_of_mem_headerIssues hissue,
    pairwise_line_missingHeaders path standardTable _ hrows⟩
  have hvisible : name ∈ c.scope.visibleNames := by simp [hnames]
  constructor
  · exact Scope.lookup_ne_none_of_mem_visibleNames (Scope.mem_visibleNames_assign.2 hvisible)
  · exact Scope.lookup_ne_none_of_mem_visibleNames (Scope.mem_visibleNames_assign.2 hvisible)

/-- Only the wild pointer of the last line is judged, not the array, hidden before, nor the assigned
name; the header comes last. -/
theorem scopeCheck_resolves_and_judges_once_shadowed :
    let lines := ["int a[2], x, *p;", "void f(int *a) \x7b", "int *q = NULL;",
      "x = *q + *a; free(q);", "\x7d", "a[0] = x + *p;"].map String.toList
    let issues := (scopeCheck false lines).map (Sighting.issue "a.c")
    let code := "a[0] = x + *p;".toList
    let array : Variable := { name := ['a'], typeName := "int".toList, isArray := true }
    let wild := Sighting.issue "a.c" ⟨5, .wildPointer ['p'] .notInitialized⟩
    let number : Variable := { name := ['x'], typeName := "int".toList, isInitialized := true }
    let pointer : Variable := { name := ['p'], typeName := "int".toList, isPointer := true }
    let c : Checkpoint :=
      { line := ⟨5, code, code⟩
        scope := { globals := [(['a'], array), (['x'], number), (['p'], pointer)] } }
    c ∈ checkpoints false lines ∧ c.scope.visibleNames = [['a']] ++ ['x'] :: [['p']] ∧
      (c.scope.assign false 5 code [['a']]).lookup ['x'] ≠ none ∧
      c.scope.lookup ['a'] = some array ∧ (∀ issue ∈ issues, issue ∉ verdictIssues "a.c" 5 ['a']) ∧
      wild ∈ issues ∧ wild.category.judgesUse = true ∧
      (∃ c ∈ checkpoints false lines, ∃ name v, c.scope.lookup name = some v ∧
        v.isArray = false ∧ wild ∈ verdictIssues "a.c" c.line.row name) ∧
      issues.map (fun issue => (issue.line, issue.category)) =
        [(4, .nullPointer), (6, .wildPointer), (4, .header)] := by
  intro lines issues code array wild number pointer c
  obtain ⟨hfound, -, -, hjudged, harrays, -⟩ :=
    scopeCheck_resolves_and_judges_once false "a.c" lines
  have hc : c ∈ checkpoints false lines := by decide +kernel
  have hnames : c.scope.visibleNames = [['a']] ++ ['x'] :: [['p']] := by decide +kernel
  have harray : c.scope.lookup ['a'] = some array := by decide +kernel
  have hwild : wild ∈ issues := by decide +kernel
  exact ⟨hc, hnames, (hfound c hc _ _ _ hnames).1, harray, harrays c hc _ _ harray rfl, hwild, rfl,
    hjudged wild hwild rfl, by decide +kernel⟩

end DefectScan
