import DefectScan.Proofs.Rows
import Mathlib.Data.List.Basic

/-!
# The report of a file

Every engine reports on lines that the file has, under the path it was given and with the severity
of the category. Finishing a report therefore drops nothing for its line: the report is the list of
the engine in charge, in its order, with the trimmed source lines attached and without the
suppressed issues.
-/

namespace DefectScan

open Text

/-- An issue on a line of a file, under the path of the file and with the severity of its
category. -/
structure Issue.LiesIn (source : SourceFile) (issue : Issue) : Prop where
  /-- The path is that of the file. -/
  file : issue.file = source.path
  /-- Lines count from one. -/
  one_le_line : 1 ≤ issue.line
  /-- The file has the line. -/
  line_le : issue.line ≤ source.lines.length
  /-- The severity is that of the category. -/
  severity : issue.severity = issue.category.severity

/-- A sighting on a row of a file becomes an issue in the file. -/
theorem Sighting.liesIn_issue {source : SourceFile} {s : Sighting}
    (h : s.row < source.lines.length) : (s.issue source.path).LiesIn source where
  file := rfl
  one_le_line := by
    change (1 : Int) ≤ s.row + 1
    omega
  line_le := by
    change (s.row + 1 : Int) ≤ source.lines.length
    omega
  severity := rfl

/-- The issue of a sighting with the source line it is about. -/
def Sighting.reported (source : SourceFile) (s : Sighting) : Issue :=
  (s.issue source.path).withCodeLine (String.ofList (trim ((source.lines[s.row]?).getD [])))

/-- Whether no rule takes out an issue. -/
def isKept (rules : List Suppression) (issue : Issue) : Bool :=
  rules.all fun rule => !rule.matchesIssue issue

/-- Finishing a report of sightings in the file drops only suppressed issues. -/
theorem finish_eq_filter_reported {source : SourceFile} {found : List Sighting}
    (h : ∀ s ∈ found, s.row < source.lines.length) (rules : List Suppression) :
    finish rules source (found.map (Sighting.issue source.path)) =
      (found.map (Sighting.reported source)).filter (isKept rules) := by
  have hattached : ((found.map (Sighting.issue source.path)).filterMap fun issue =>
      if 1 ≤ issue.line ∧ issue.line ≤ (source.lines.length : Int) then
        some (issue.withCodeLine
          (String.ofList (trim ((source.lines[(issue.line - 1).toNat]?).getD []))))
      else none) = found.map (Sighting.reported source) := by
    rw [List.filterMap_map, ← List.filterMap_eq_map]
    apply List.filterMap_congr
    intro s hs
    have hin := Sighting.liesIn_issue (h s hs)
    have hrow : ((s.issue source.path).line - 1).toNat = s.row := by
      change ((s.row : Int) + 1 - 1).toNat = s.row
      omega
    simp only [Function.comp_apply, hin.one_le_line, hin.line_le, and_self, if_true, hrow]
    rfl
  rw [finish, hattached, applySuppressions]
  congr 1
  funext issue
  rw [isKept, List.not_any_eq_all_not]

/-- What the checks over a syntax tree find in its sites, in the order of the report. -/
def SyntaxTree.treeFindings (tree : SyntaxTree) (flow : Bool) (sites : FileSites) : List Sighting :=
  tree.variableCheck flow sites.declarations ++
    missingHeaders standardTable sites.calls sites.includes ++
    misspelledHeaders sites.includes ++
    loopAndFormatCheck (sites.declarations.map tree.afterCheck) sites.loops sites.formatCalls

/-- What the engine in charge finds: the scope check, the tree checks, or the bare check without a
tree or over damaged names. -/
def engineFindings (mode : Mode) (flow : Bool) (availability : Availability)
    (source : SourceFile) : List Sighting :=
  match mode, availability with
  | .heuristic, _ => scopeCheck flow source.lines
  | .auto, .unavailable _ => bareCheck source.text source.lines
  | .auto, .available parser =>
    match parser.parse source.text with
    | .ok tree =>
      match tree.sites with
      | .ok sites => tree.treeFindings flow sites
      | .error _ => bareCheck source.text source.lines
    | .error _ => bareCheck source.text source.lines

/-- Sites that are read come with their tree. -/
theorem SyntaxTree.tree_of_sites {tree : SyntaxTree} {sites : FileSites}
    (h : tree.sites = .ok sites) : sites.tree = some tree := by
  obtain ⟨_, -, h⟩ := bind_eq_ok_iff.1 h
  obtain ⟨_, -, h⟩ := bind_eq_ok_iff.1 h
  obtain ⟨_, -, h⟩ := bind_eq_ok_iff.1 h
  cases h
  rfl

/-- The analysis finds what the engine in charge finds. -/
theorem value_findings (mode : Mode) (flow : Bool) (availability : Availability)
    (rules : List Suppression) (source : SourceFile) :
    (({ mode, flow, availability, rules } : Analyzer).findings source).value =
      engineFindings mode flow availability source := by
  cases mode with
  | heuristic => cases availability <;> rfl
  | auto =>
    cases availability with
    | unavailable reason => rfl
    | available parser =>
      simp only [Analyzer.findings, Analyzer.treeFindings, Parser.readSites, engineFindings]
      cases parser.parse source.text with
      | error failure => rfl
      | ok tree =>
        cases hsites : tree.sites with
        | error damage =>
          simp [hsites, Logged.andThen, Logged.note, Logged.silent, Analyzer.bareFindings, contain]
        | ok sites =>
          simp [hsites, tree.tree_of_sites hsites, Logged.andThen, Logged.map, Logged.silent,
            runChecks, treeChecks, contain, variableCheck, libraryCheck, spellingCheck,
            advancedCheck, SyntaxTree.treeFindings]

/-- A tree check reports something, given any declarations and those calls and includes that can be
read. -/
def SyntaxTree.ChecksFind (tree : SyntaxTree) (flow : Bool) (ds : List Declaration)
    (s : Sighting) : Prop :=
  s ∈ tree.variableCheck flow ds ∨
    (∃ calls includes, tree.calls = .ok calls ∧ s ∈ missingHeaders standardTable calls includes) ∨
    (∃ includes, tree.includes = .ok includes ∧ s ∈ misspelledHeaders includes) ∨
    s ∈ loopAndFormatCheck ds tree.loops tree.formatCalls

/-- What the checks over a tree find in its sites is found by one of them. -/
theorem SyntaxTree.exists_checksFind_of_mem_treeFindings {tree : SyntaxTree} {flow : Bool}
    {sites : FileSites} (hsites : tree.sites = .ok sites) {s : Sighting}
    (h : s ∈ tree.treeFindings flow sites) : ∃ ds, tree.ChecksFind flow ds s := by
  obtain ⟨declarations, -, hsites⟩ := bind_eq_ok_iff.1 hsites
  obtain ⟨calls, hcalls, hsites⟩ := bind_eq_ok_iff.1 hsites
  obtain ⟨includes, hincludes, hsites⟩ := bind_eq_ok_iff.1 hsites
  cases hsites
  simp only [treeFindings, List.mem_append] at h
  rcases h with ((h | h) | h) | h
  · exact ⟨_, .inl h⟩
  · exact ⟨[], .inr (.inl ⟨calls, includes, hcalls, h⟩)⟩
  · exact ⟨[], .inr (.inr (.inl ⟨includes, hincludes, h⟩))⟩
  · exact ⟨_, .inr (.inr (.inr h))⟩

/-- The checks over a syntax tree report on lines of the text of the tree, whatever declarations
they are given. -/
theorem SyntaxTree.IsOver.row_lt_of_checksFind {tree : SyntaxTree} {text : List Char}
    (h : tree.IsOver text) {flow : Bool} {ds : List Declaration} {s : Sighting}
    (hs : tree.ChecksFind flow ds s) : s.row < (splitLines text).length := by
  rcases hs with hs | ⟨calls, includes, hcalls, hs⟩ | ⟨includes, hincludes, hs⟩ | hs
  · obtain ⟨n, hn⟩ := exists_node_of_mem_variableCheck hs
    rw [hn]
    exact h.row_lt n
  · obtain ⟨call, hc, hr⟩ := exists_call_of_mem_missingHeaders hs
    rw [hr]
    exact h.row_lt_of_mem_calls hcalls hc
  · obtain ⟨i, hi, hr⟩ := exists_include_of_mem_misspelledHeaders hs
    rw [hr]
    exact h.row_lt_of_mem_includes hincludes hi
  · exact row_lt_of_mem_loopAndFormatCheck (fun _ => h.row_lt_of_mem_loops)
      (fun _ => h.row_lt_of_mem_formatCalls) hs

/-- The engine in charge of a file reports on lines of the file. -/
theorem row_lt_of_mem_engineFindings {mode : Mode} {flow : Bool} {availability : Availability}
    {path : String} {text : List Char} {s : Sighting}
    (hs : s ∈ engineFindings mode flow availability (.ofText path text)) :
    s.row < (splitLines text).length := by
  cases mode with
  | heuristic => exact row_lt_of_mem_scopeCheck hs
  | auto =>
    cases availability with
    | unavailable reason => exact row_lt_of_mem_bareCheck hs
    | available parser =>
      simp only [engineFindings, SourceFile.ofText] at hs
      cases hparse : parser.parse text with
      | error failure =>
        rw [hparse] at hs
        exact row_lt_of_mem_bareCheck hs
      | ok tree =>
        simp only [hparse] at hs
        cases hsites : tree.sites with
        | error damage =>
          rw [hsites] at hs
          exact row_lt_of_mem_bareCheck hs
        | ok sites =>
          rw [hsites] at hs
          obtain ⟨ds, hs⟩ := SyntaxTree.exists_checksFind_of_mem_treeFindings hsites hs
          exact (Parser.isOver_of_parse hparse).row_lt_of_checksFind hs

/-- Every engine reports on lines of the file, and the report is the engine's list with source lines
but without suppressed issues. -/
theorem report_eq_engineFindings (path : String) (text : List Char) (mode : Mode) (flow : Bool)
    (availability : Availability) (rules : List Suppression) :
    let source := SourceFile.ofText path text
    (∀ s, s ∈ scopeCheck flow source.lines ∨ s ∈ bodyCheck source.lines ∨
        s ∈ bareCheck text source.lines → (s.issue path).LiesIn source) ∧
      (∀ (tree : SyntaxTree) (ds : List Declaration), tree.IsOver text →
        (∀ s, tree.ChecksFind flow ds s → (s.issue path).LiesIn source) ∧
        ∀ name, ∀ p ∈ tree.usages name, ∃ line, tree.lines[p.row]? = some line) ∧
      finish rules source ((bodyCheck source.lines).map (Sighting.issue path)) =
        ((bodyCheck source.lines).map (Sighting.reported source)).filter (isKept rules) ∧
      (({ mode, flow, availability, rules } : Analyzer).analyze source).value =
        ((engineFindings mode flow availability source).map
          (Sighting.reported source)).filter (isKept rules) := by
  intro source
  refine ⟨?_, ?_, ?_, ?_⟩
  · intro s hs
    have hrow : s.row < source.lines.length := by
      rcases hs with hs | hs | hs
      · exact row_lt_of_mem_scopeCheck hs
      · exact row_lt_of_mem_bodyCheck hs
      · exact row_lt_of_mem_bareCheck hs
    exact Sighting.liesIn_issue hrow
  · intro tree ds hover
    refine ⟨fun s hs => Sighting.liesIn_issue (hover.row_lt_of_checksFind hs), ?_⟩
    intro name p hp
    obtain ⟨n, rfl⟩ := SyntaxTree.exists_node_of_mem_usages hp
    have hrow : tree.row n < tree.lines.length := by
      rw [hover.lines]
      exact hover.row_lt n
    exact ⟨_, List.getElem?_eq_getElem hrow⟩
  · exact finish_eq_filter_reported (fun s => row_lt_of_mem_bodyCheck) rules
  · have hvalue := value_findings mode flow availability rules source
    simp only [Analyzer.analyze, Logged.map]
    rw [hvalue]
    exact finish_eq_filter_reported (fun s => row_lt_of_mem_engineFindings) rules

/-- A tree over `int *p = 0;` and `*p = 1` on the next line. -/
private def nullStoreTree : SyntaxTree where
  root :=
    .mk ⟨"translation_unit", none, 0, 18, true, false, false⟩
      [.mk ⟨"declaration", none, 0, 11, true, false, false⟩
        [.mk ⟨"init_declarator", some "declarator", 4, 10, true, false, false⟩
          [.mk ⟨"pointer_declarator", some "declarator", 4, 6, true, false, false⟩
            [.mk ⟨"identifier", some "declarator", 5, 6, true, false, false⟩ []],
          .mk ⟨"number_literal", some "value", 9, 10, true, false, false⟩ []]],
      .mk ⟨"pointer_expression", none, 12, 14, true, false, false⟩
        [.mk ⟨"*", some "operator", 12, 13, false, false, false⟩ [],
        .mk ⟨"identifier", some "argument", 13, 14, true, false, false⟩ []]]
  bytes := (utf8 "int *p = 0;\n*p = 1".toList).toArray
  lines := splitLines "int *p = 0;\n*p = 1".toList

/-- The null pointer of `int *p = 0;` that the next line writes through is reported on that line,
which the file has. -/
theorem report_eq_engineFindings_nullStore :
    nullStoreTree.IsOver "int *p = 0;\n*p = 1".toList ∧
      ∃ ds, nullStoreTree.declarations = .ok ds ∧
        ⟨1, .nullPointer ['p']⟩ ∈ nullStoreTree.variableCheck true ds ∧
        ((⟨1, .nullPointer ['p']⟩ : Sighting).issue "a.c").LiesIn
          (.ofText "a.c" "int *p = 0;\n*p = 1".toList) := by
  have hover : nullStoreTree.IsOver "int *p = 0;\n*p = 1".toList := ⟨rfl, rfl⟩
  let p : Declaration :=
    { name := ['p'], declaredType := "int".toList, position := ⟨0, 5⟩, isPointer := true,
      isInitialized := true, initializer := some ['0'] }
  have hds : nullStoreTree.declarations = .ok [p] := by decide +kernel
  have hfound : ⟨1, .nullPointer ['p']⟩ ∈ nullStoreTree.variableCheck true [p] := by
    decide +kernel
  have hall := report_eq_engineFindings "a.c" "int *p = 0;\n*p = 1".toList .auto true
    (.unavailable "") []
  exact ⟨hover, _, hds, hfound, (hall.2.1 nullStoreTree [p] hover).1 _ (.inl hfound)⟩

/-- A declared name that begins within a character sends a file to the bare check. -/
example :
    let text := "é;\nint x;\n".toList
    let root : Node :=
      .mk ⟨"declaration", none, 0, 10, true, false, false⟩
        [.mk ⟨"identifier", some "declarator", 1, 2, true, false, false⟩ []]
    let parser : Parser := { grammar := some fun _ => .tree root }
    engineFindings .auto false (.available parser) (.ofText "a.c" text) =
      bareCheck text (splitLines text) := by
  decide +kernel

end DefectScan
