import DefectScan.Analysis
import Mathlib.Data.List.Basic

/-!
# Faults of checks stay contained

The checks over a syntax tree run one after another on the same declarations. The variable check
marks the declarations that it saw being written, and a check that breaks down halfway may leave
any marks behind. No check after the first reads the marks, so each check finds what it would
find alone in the sites as they were read, a check that breaks down costs only its own findings,
and a file without usable sites goes to the bare check.
-/

namespace DefectScan

/-! ### Marks -/

/-- A declaration without its mark. -/
def Declaration.unmarked (d : Declaration) : Declaration := { d with isInitialized := false }

/-- Sites whose declarations have lost their marks. -/
def FileSites.unmarked (sites : FileSites) : FileSites :=
  { sites with declarations := sites.declarations.map Declaration.unmarked }

/-- Declarations with new marks, given by their place in the list. -/
def remark (marks : Nat → Bool) (ds : List Declaration) : List Declaration :=
  ds.mapIdx fun i d => { d with isInitialized := marks i }

/-- Sites whose declarations have new marks. -/
def FileSites.remarked (marks : Nat → Bool) (sites : FileSites) : FileSites :=
  { sites with declarations := remark marks sites.declarations }

/-- New marks are lost with the marks. -/
theorem map_unmarked_remark (marks : Nat → Bool) (ds : List Declaration) :
    (remark marks ds).map Declaration.unmarked = ds.map Declaration.unmarked := by
  refine List.ext_getElem? fun i => ?_
  simp only [remark, List.getElem?_map, List.getElem?_mapIdx, Option.map_map]
  rfl

/-- The variable check changes only marks. -/
theorem unmarked_afterCheck (tree : SyntaxTree) (d : Declaration) :
    (tree.afterCheck d).unmarked = d.unmarked := by
  rw [SyntaxTree.afterCheck]
  split <;> rfl

/-- Which declaration of a name is closest does not depend on the marks. -/
theorem closestDeclaration?_unmarked (name : List Char) (row : Nat) (ds : List Declaration) :
    closestDeclaration? name row (ds.map Declaration.unmarked) =
      (closestDeclaration? name row ds).map Declaration.unmarked := by
  rw [closestDeclaration?, List.filter_map, List.foldl_map, closestDeclaration?]
  change List.foldl _ (Option.map Declaration.unmarked none) _ = _
  refine List.foldl_hom (Option.map Declaration.unmarked) fun best d => ?_
  cases best with
  | none => rfl
  | some b =>
    by_cases hle : b.position.row ≤ d.position.row <;> simp [Declaration.unmarked, hle]

/-- Which names mean character buffers does not depend on the marks. -/
theorem isCharBufferAt_unmarked (ds : List Declaration) (row : Nat) :
    isCharBufferAt (ds.map Declaration.unmarked) row = isCharBufferAt ds row := by
  funext name
  rw [isCharBufferAt, closestDeclaration?_unmarked, Option.any_map, isCharBufferAt]
  rfl

/-- The loop and format check does not read the marks. -/
theorem loopAndFormatCheck_unmarked (ds : List Declaration) (loops : List Loop)
    (formats : List FormatCall) :
    loopAndFormatCheck (ds.map Declaration.unmarked) loops formats =
      loopAndFormatCheck ds loops formats := by
  simp only [loopAndFormatCheck, isCharBufferAt_unmarked]

/-! ### Runs of checks -/

namespace Check

/-- What a check finds in sites; nothing if it fails. -/
def foundIn (check : Check) (path : String) (sites : FileSites) : List Sighting :=
  match (check.run path sites).found with
  | .ok found => found
  | .error _ => []

/-- A check whose findings do not depend on the marks. -/
def IgnoresMarks (check : Check) : Prop :=
  ∀ path sites, check.foundIn path sites.unmarked = check.foundIn path sites

/-- A check that changes nothing but marks. -/
def KeepsSites (check : Check) : Prop :=
  ∀ path sites, (check.run path sites).declarations.map Declaration.unmarked =
    sites.declarations.map Declaration.unmarked

/-- A check that does not read the marks finds the same in sites that differ only in marks. -/
theorem IgnoresMarks.foundIn_eq {check : Check} (h : check.IgnoresMarks) (path : String)
    {sites sites' : FileSites} (hsites : sites.unmarked = sites'.unmarked) :
    check.foundIn path sites = check.foundIn path sites' := by
  rw [← h path sites, hsites, h path sites']

/-- The sites that a check leaves to the next one differ only in marks. -/
theorem KeepsSites.unmarked_eq {check : Check} (h : check.KeepsSites) (path : String)
    (sites : FileSites) :
    ({ sites with declarations := (check.run path sites).declarations } : FileSites).unmarked =
      sites.unmarked := by
  simp only [FileSites.unmarked, h path sites]

end Check

/-- A contained failure finds nothing. -/
theorem value_contain_run (check : Check) (path : String) (sites : FileSites) :
    (contain check.name path (check.run path sites).found).value = check.foundIn path sites := by
  rw [Check.foundIn]
  rcases (check.run path sites).found with (_ | _) | found <;> rfl

/-- The first check runs on the sites it is given, the others on what it leaves. -/
theorem value_runChecks_cons (path : String) (check : Check) (checks : List Check)
    (sites : FileSites) :
    (runChecks path (check :: checks) sites).value =
      check.foundIn path sites ++ (runChecks path checks
        { sites with declarations := (check.run path sites).declarations }).value := by
  rw [← value_contain_run]
  rfl

/-- Checks that neither read the marks nor change anything else find, one after another, what
each of them finds alone. -/
theorem value_runChecks_of_ignoresMarks {checks : List Check}
    (hignore : ∀ check ∈ checks, check.IgnoresMarks)
    (hkeep : ∀ check ∈ checks, check.KeepsSites) (path : String) {sites fresh : FileSites}
    (hfresh : sites.unmarked = fresh.unmarked) :
    (runChecks path checks sites).value = checks.flatMap (·.foundIn path fresh) := by
  induction checks generalizing sites with
  | nil => rfl
  | cons check checks ih =>
    rw [List.forall_mem_cons] at hignore hkeep
    rw [value_runChecks_cons, List.flatMap_cons, hignore.1.foundIn_eq path hfresh,
      ih hignore.2 hkeep.2 ((hkeep.1.unmarked_eq path sites).trans hfresh)]

/-- The first check may read the marks: nothing has run before it. -/
theorem value_runChecks_of_tail {first : Check} {checks : List Check} (hfirst : first.KeepsSites)
    (hignore : ∀ check ∈ checks, check.IgnoresMarks)
    (hkeep : ∀ check ∈ checks, check.KeepsSites) (path : String) (sites : FileSites) :
    (runChecks path (first :: checks) sites).value =
      (first :: checks).flatMap (·.foundIn path sites) := by
  rw [value_runChecks_cons, List.flatMap_cons,
    value_runChecks_of_ignoresMarks hignore hkeep path (hfirst.unmarked_eq path sites)]

/-! ### Checks that break down -/

/-- How a check breaks down: with a fault, and leaving marks behind. -/
structure Breakdown where
  /-- The fault. -/
  fault : CheckFault
  /-- The marks of the declarations by then. -/
  marks : Nat → Bool

/-- A check that breaks down, if it is told to. -/
def Check.breakingDown (check : Check) : Option Breakdown → Check
  | none => check
  | some breakdown =>
    { check with
      run := fun _ sites => ⟨.error breakdown.fault, remark breakdown.marks sites.declarations⟩ }

/-- A check that breaks down finds nothing. -/
theorem Check.foundIn_breakingDown (check : Check) (breakdown : Option Breakdown) (path : String)
    (sites : FileSites) :
    (check.breakingDown breakdown).foundIn path sites =
      if breakdown.isNone then check.foundIn path sites else [] := by
  cases breakdown <;> rfl

/-- Whether a check reads the marks does not change by breaking down. -/
theorem Check.IgnoresMarks.breakingDown {check : Check} (h : check.IgnoresMarks)
    (breakdown : Option Breakdown) : (check.breakingDown breakdown).IgnoresMarks := by
  intro path sites
  simp only [Check.foundIn_breakingDown, h path sites]

/-- A check that breaks down has changed nothing but marks. -/
theorem Check.KeepsSites.breakingDown {check : Check} (h : check.KeepsSites)
    (breakdown : Option Breakdown) : (check.breakingDown breakdown).KeepsSites := by
  intro path sites
  cases breakdown with
  | none => exact h path sites
  | some breakdown => exact map_unmarked_remark breakdown.marks sites.declarations

/-- The findings of checks of which some break down are those of the others. -/
theorem flatMap_foundIn_breakingDown (checks : List Check)
    (breakdown? : String → Option Breakdown) (path : String) (sites : FileSites) :
    (checks.map fun check => check.breakingDown (breakdown? check.name)).flatMap
        (·.foundIn path sites) =
      (checks.filter fun check => (breakdown? check.name).isNone).flatMap
        (·.foundIn path sites) := by
  induction checks with
  | nil => rfl
  | cons check checks ih =>
    rw [List.map_cons, List.flatMap_cons, ih, Check.foundIn_breakingDown, List.filter_cons]
    split <;> rfl

/-- The variable check changes nothing but marks. -/
theorem keepsSites_variableCheck (flow : Bool) : (variableCheck flow).KeepsSites := by
  intro path sites
  simp only [variableCheck]
  cases sites.tree with
  | none => rfl
  | some tree =>
    rw [List.map_map]
    exact List.map_congr_left fun d _ => unmarked_afterCheck tree d

/-- The checks after the variable check do not read the marks and change nothing. -/
theorem ignoresMarks_of_mem {check : Check}
    (h : check ∈ [libraryCheck, spellingCheck, advancedCheck]) :
    check.IgnoresMarks ∧ check.KeepsSites := by
  simp only [List.mem_cons, List.not_mem_nil, or_false] at h
  rcases h with rfl | rfl | rfl
  · exact ⟨fun _ _ => rfl, fun _ _ => rfl⟩
  · exact ⟨fun _ _ => rfl, fun _ _ => rfl⟩
  · exact ⟨fun _ sites => loopAndFormatCheck_unmarked sites.declarations _ _, fun _ _ => rfl⟩

/-- The findings of the checks that do not break down, in the order of the report, each in the
sites as they were read. -/
def survivingFindings (flow : Bool) (breakdown? : String → Option Breakdown) (path : String)
    (sites : FileSites) : List Sighting :=
  ((treeChecks flow).filter fun check => (breakdown? check.name).isNone).flatMap
    (·.foundIn path sites)

/-- The tree checks, some of them broken, find what the others find alone. -/
theorem value_runChecks_treeChecks (flow : Bool) (breakdown? : String → Option Breakdown)
    (path : String) (sites : FileSites) :
    (runChecks path ((treeChecks flow).map fun check =>
        check.breakingDown (breakdown? check.name)) sites).value =
      survivingFindings flow breakdown? path sites := by
  rw [survivingFindings, ← flatMap_foundIn_breakingDown]
  refine value_runChecks_of_tail ((keepsSites_variableCheck flow).breakingDown _) ?_ ?_ path sites
  · intro check hcheck
    obtain ⟨original, horiginal, rfl⟩ := List.mem_map.1 hcheck
    exact (ignoresMarks_of_mem horiginal).1.breakingDown _
  · intro check hcheck
    obtain ⟨original, horiginal, rfl⟩ := List.mem_map.1 hcheck
    exact (ignoresMarks_of_mem horiginal).2.breakingDown _

/-! ### The analysis -/

/-- An analysis over syntax trees whose checks cannot be set up, or of which some break down. -/
def faultyAnalyzer (flow : Bool) (parser : Parser) (rules : List Suppression)
    (readSites : Parser → List Char → Logged (Except ReadFault FileSites))
    (setupFault : Option String) (breakdown? : String → Option Breakdown) : Analyzer where
  mode := .auto
  flow := flow
  availability := .available parser
  rules := rules
  readSites := readSites
  checks :=
    match setupFault with
    | some message => .error message
    | none => .ok ((treeChecks flow).map fun check => check.breakingDown (breakdown? check.name))

/-- The report is that of the checks that do not break down, or of the bare check if there are no
sites or no checks. -/
theorem analyze_contains_faults (source : SourceFile) (flow : Bool) (parser : Parser)
    (rules : List Suppression)
    (readSites : Parser → List Char → Logged (Except ReadFault FileSites))
    (setupFault : Option String) (breakdown? : String → Option Breakdown) :
    let analyzer := faultyAnalyzer flow parser rules readSites setupFault breakdown?
    let found :=
      match setupFault, (readSites parser source.text).value with
      | none, .ok sites => survivingFindings flow breakdown? source.path sites
      | _, _ => bareCheck source.text source.lines
    (analyzer.findings source).value = found ∧
      (analyzer.analyze source).value =
        finish rules source (found.map (Sighting.issue source.path)) ∧
      ∀ check ∈ [libraryCheck, spellingCheck, advancedCheck], ∀ path sites marks,
        check.foundIn path (sites.remarked marks) = check.foundIn path sites := by
  intro analyzer found
  have hfound : (analyzer.findings source).value = found := by
    cases setupFault with
    | some message => rfl
    | none =>
      simp only [analyzer, found, faultyAnalyzer, Analyzer.findings, Analyzer.treeFindings,
        Logged.andThen]
      rcases (readSites parser source.text).value with (failure | message) | sites
      · rfl
      · rfl
      · exact value_runChecks_treeChecks flow breakdown? source.path sites
  refine ⟨hfound, ?_, ?_⟩
  · rw [← hfound]
    rfl
  · intro check hcheck path sites marks
    apply (ignoresMarks_of_mem hcheck).1.foundIn_eq
    simp only [FileSites.unmarked, FileSites.remarked, map_unmarked_remark]

/-- A file whose second line reads into `n` without end. -/
private def scanfSource : SourceFile :=
  .ofText "n.c" "int n;\nwhile (1) scanf(\"%d\", n);".toList

/-- The sites of that file. -/
private def scanfSites : FileSites where
  declarations := [{ name := ['n'], declaredType := "int".toList, position := ⟨0, 4⟩ }]
  calls := [⟨"scanf".toList, ⟨1, 10⟩⟩]
  loops := [{ kind := .whileLoop, position := ⟨1, 0⟩ }]
  formatCalls := [⟨"scanf".toList, ⟨1, 10⟩, some "%d".toList, ["\"%d\"".toList, ['n']]⟩]

/-- The variable check crashes after it has marked every declaration. -/
private def variableCrash (name : String) : Option Breakdown :=
  if name = "variable" then some ⟨.crashed, fun _ => true⟩ else none

/-- When the variable check crashes with `n` marked, the other checks still find the missing header,
the loop and the missing address. -/
theorem analyze_contains_faults_scanf :
    ((faultyAnalyzer true ⟨none, true⟩ [] (fun _ _ => .silent (.ok scanfSites)) none
        variableCrash).findings scanfSource).value =
        [⟨1, .missingHeader "scanf".toList ["stdio.h".toList]⟩, ⟨1, .endlessLoop⟩,
          ⟨1, .notByAddress ['n'] ['n']⟩] ∧
      (scanfSites.remarked fun _ => true).declarations ≠ scanfSites.declarations ∧
      advancedCheck ∈ [libraryCheck, spellingCheck, advancedCheck] ∧
      advancedCheck.foundIn "n.c" (scanfSites.remarked fun _ => true) =
        [⟨1, .endlessLoop⟩, ⟨1, .notByAddress ['n'] ['n']⟩] := by
  have hall := analyze_contains_faults scanfSource true ⟨none, true⟩ []
    (fun _ _ => .silent (.ok scanfSites)) none variableCrash
  have hmem : advancedCheck ∈ [libraryCheck, spellingCheck, advancedCheck] := by simp
  refine ⟨hall.1.trans ?_, by decide, hmem, (hall.2.2 _ hmem "n.c" _ _).trans ?_⟩
  · decide +kernel
  · decide +kernel

end DefectScan
