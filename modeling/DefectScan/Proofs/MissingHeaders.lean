import DefectScan.Proofs.CommentInfluence
import DefectScan.Proofs.FaultContainment
import DefectScan.Proofs.TreeFlow
import DefectScan.Proofs.Utf8
import Mathlib.Data.List.Basic
import Mathlib.Data.Option.Basic

/-!
# Which calls are reported to lack a header

A call lacks its header when the table has headers for the called function and none of them is
included. Two statements rest on this form of the reports. The body check, whose table knows the
common functions only, reports exactly those missing headers of the scope check that concern a
common function. And no call of `printf` or `scanf` has its arguments checked without its header
being checked too: both readers of sites, of lines and of trees, find it as a call.
-/

namespace DefectScan

open Text

/-! ### Calls without a header -/

namespace HeaderTable

/-- Whether a function has headers of which none is included. -/
def lacks (table : HeaderTable) (includes : List Include) (callee : List Char) : Bool :=
  !(table callee).isEmpty && !table.isIncluded includes callee

/-- The report that a call lacks its header. -/
def sighting (table : HeaderTable) (call : Call) : Sighting :=
  ⟨call.position.row, .missingHeader call.callee (table call.callee)⟩

end HeaderTable

/-- The missing headers are reported call by call. -/
theorem missingHeaders_eq (table : HeaderTable) (calls : List Call) (includes : List Include) :
    missingHeaders table calls includes =
      (calls.filter fun call => table.lacks includes call.callee).map table.sighting := by
  induction calls with
  | nil => rfl
  | cons call calls ih =>
    have hlacks : table.lacks includes call.callee =
        !((table call.callee).isEmpty ||
          (table call.callee).any fun h => includes.any fun i => i.header == h) :=
      (Bool.not_or _ _).symm
    rw [missingHeaders] at ih ⊢
    rw [List.filterMap_cons, List.filter_cons, hlacks, ih]
    dsimp only
    cases (table call.callee).isEmpty ||
      (table call.callee).any fun h => includes.any fun i => i.header == h <;> rfl

/-! ### The common functions -/

/-- Whether an issue says that a function lacks its header. -/
def Issue.isMissingHeaderOf (function : String) (issue : Issue) : Bool :=
  issue.category == .header &&
    issue.message ==
      (Defect.missingHeader function.toList (standardTable function.toList)).message

/-- Whether an issue says that a common function lacks its header. -/
def Issue.isCommonHeader (issue : Issue) : Bool :=
  commonFunctions.any fun function => issue.isMissingHeaderOf function

/-- Every common function has a standard header. -/
theorem standardTable_ne_nil_of_common {function : String} (h : function ∈ commonFunctions) :
    standardTable function.toList ≠ [] := by
  have hall : ∀ function ∈ commonFunctions, standardTable function.toList ≠ [] := by
    decide +kernel
  exact hall function h

/-- The common functions lack the headers that they lack by the standard. -/
theorem lacks_commonTable (includes : List Include) (callee : List Char) :
    commonTable.lacks includes callee =
      (isCommonFunction callee && standardTable.lacks includes callee) := by
  unfold HeaderTable.lacks HeaderTable.isIncluded commonTable
  cases isCommonFunction callee <;> simp

/-- The issue of a call that lacks its header tells whether the function is a common one. -/
theorem isCommonHeader_sighting {includes : List Include} {call : Call}
    (h : standardTable.lacks includes call.callee = true) (path : String) :
    ((standardTable.sighting call).issue path).isCommonHeader = isCommonFunction call.callee := by
  have hheaders : standardTable call.callee ≠ [] := by
    intro hnil
    simp [HeaderTable.lacks, hnil] at h
  have hquote := HeaderTable.isQuoteFree_standardTable call.callee hheaders
  have hfunction : ∀ function ∈ commonFunctions,
      ((standardTable.sighting call).issue path).isMissingHeaderOf function = true ↔
        (String.ofList call.callee == function) = true := by
    intro function hcommon
    rw [beq_iff_eq]
    constructor
    · intro hsame
      have hquote' := HeaderTable.isQuoteFree_standardTable _
        (standardTable_ne_nil_of_common hcommon)
      have hmessage := beq_iff_eq.1 (Bool.and_eq_true_iff.1 hsame).2
      rw [callee_inj_of_missingHeader hquote hquote' hmessage, String.ofList_toList]
    · rintro rfl
      simp [Issue.isMissingHeaderOf, HeaderTable.sighting, Sighting.issue, Issue.atRow,
        Defect.category]
  rw [Issue.isCommonHeader, isCommonFunction, List.contains_eq_any_beq, Bool.eq_iff_iff,
    List.any_eq_true, List.any_eq_true]
  exact exists_congr fun function => and_congr_right (hfunction function)

/-- By the table of common functions, exactly the calls of these that lack their header by the
standard are reported. -/
theorem missingHeaders_commonTable (calls : List Call) (includes : List Include) :
    missingHeaders commonTable calls includes =
      (calls.filter fun call =>
        isCommonFunction call.callee && standardTable.lacks includes call.callee).map
        standardTable.sighting := by
  rw [missingHeaders_eq]
  simp only [lacks_commonTable]
  refine List.map_congr_left fun call hcall => ?_
  have hcommon : isCommonFunction call.callee = true :=
    (Bool.and_eq_true_iff.1 (List.mem_filter.1 hcall).2).1
  simp [HeaderTable.sighting, commonTable, hcommon]

/-- Those are the missing headers by the standard that concern a common function. -/
theorem map_issue_missingHeaders_commonTable (path : String) (calls : List Call)
    (includes : List Include) :
    (missingHeaders commonTable calls includes).map (Sighting.issue path) =
      ((missingHeaders standardTable calls includes).map (Sighting.issue path)).filter
        Issue.isCommonHeader := by
  rw [missingHeaders_commonTable, missingHeaders_eq, List.map_map, List.map_map, List.filter_map,
    List.filter_filter]
  congr 1
  refine List.filter_congr fun call _ => ?_
  cases hlacks : standardTable.lacks includes call.callee with
  | false => simp
  | true => simp [isCommonHeader_sighting hlacks path]

/-- A declaration is never reported to lack a header. -/
theorem category_of_mem_bodySightings {bodies : Bodies} {lines : List CodeLine} {s : Sighting}
    (h : s ∈ bodySightings bodies lines) : s.defect.category = .uninitialized := by
  obtain ⟨above, line, below, -, -, hdefect⟩ := exists_split_of_mem_bodySightings h
  generalize s.defect = d at hdefect
  unfold Bodies.lineDefect? at hdefect
  split at hdefect
  · split at hdefect
    · cases hdefect
    · cases hdefect
      rfl
  · cases hdefect

/-- Of the issues of the body check, those about headers are its missing headers. -/
theorem filter_header_bodyCheck (path : String) (lines : List (List Char)) :
    (((bodyCheck lines).map (Sighting.issue path)).filter fun issue =>
        issue.category == .header) =
      (missingHeaders commonTable ((scanLines lines).flatMap CodeLine.calls)
        (includesIn (scanLines lines))).map (Sighting.issue path) := by
  have hbodies : (((bodySightings {} (scanLines lines)).map (Sighting.issue path)).filter
      fun issue => issue.category == .header) = [] := by
    refine List.filter_eq_nil_iff.2 fun issue hissue => ?_
    obtain ⟨s, hs, rfl⟩ := List.mem_map.1 hissue
    simp [Sighting.issue, Issue.atRow, category_of_mem_bodySightings hs]
  rw [bodyCheck, List.map_append, List.filter_append, hbodies, List.nil_append]
  exact List.filter_eq_self.2 fun issue hissue => beq_iff_eq.2 (category_of_mem_headerIssues hissue)

/-- Of the issues of the scope check, those about common functions are among its missing
headers. -/
theorem filter_isCommonHeader_scopeCheck (flow : Bool) (path : String)
    (lines : List (List Char)) :
    ((scopeCheck flow lines).map (Sighting.issue path)).filter Issue.isCommonHeader =
      ((missingHeaders standardTable ((scanLines lines).flatMap CodeLine.calls)
        (includesIn (scanLines lines))).map (Sighting.issue path)).filter
          Issue.isCommonHeader := by
  have hsteps : ((((scopeSteps flow lines).flatMap ScopeStep.sightings).map
      (Sighting.issue path)).filter Issue.isCommonHeader) = [] := by
    refine List.filter_eq_nil_iff.2 fun issue hissue hcommon => ?_
    obtain ⟨function, -, hfunction⟩ := List.any_eq_true.1 hcommon
    exact category_ne_of_mem_stepIssues hissue
      (beq_iff_eq.1 (Bool.and_eq_true_iff.1 hfunction).1)
  rw [scopeCheck, flatMap_calls_filter_isChecked, List.map_append, List.filter_append, hsteps,
    List.nil_append]

/-- The missing headers of the body check are, in order, those of the scope check that concern a
common function. -/
theorem headerIssues_bodyCheck_eq (flow : Bool) (path : String) (lines : List (List Char)) :
    let headerIssues := ((bodyCheck lines).map (Sighting.issue path)).filter fun issue =>
      issue.category == .header
    headerIssues =
        ((scopeCheck flow lines).map (Sighting.issue path)).filter Issue.isCommonHeader ∧
      headerIssues =
        (((scanLines lines).flatMap CodeLine.calls).filter fun call =>
          isCommonFunction call.callee &&
            standardTable.lacks (includesIn (scanLines lines)) call.callee).map
          fun call => (standardTable.sighting call).issue path := by
  intro headerIssues
  have hheaders := filter_header_bodyCheck path lines
  constructor
  · rw [filter_isCommonHeader_scopeCheck, ← map_issue_missingHeaders_commonTable]
    exact hheaders
  · rw [missingHeaders_commonTable, List.map_map] at hheaders
    exact hheaders

/-! ### Formatted calls -/

/-- A formatted call as a call. -/
def FormatCall.call (call : FormatCall) : Call := ⟨call.callee, call.position⟩

/-- Whether the format strings of a function are checked. -/
def isFormatFunction (name : List Char) : Bool := formatFunctions.contains (String.ofList name)

/-- A function with a format string is called wherever it stands before a parenthesis. -/
theorem not_mem_notCalled_of_isFormatFunction {name : List Char}
    (h : isFormatFunction name = true) : String.ofList name ∉ notCalled := by
  have hall : ∀ function ∈ formatFunctions, function ∉ notCalled := by decide
  exact hall _ (List.contains_iff_mem.1 h)

/-- The formatted calls of a line are among its calls. -/
theorem CodeLine.call_mem_calls {line : CodeLine} (hline : line.isDirective = false)
    {call : FormatCall} (h : call ∈ line.formatCalls) :
    call.call ∈ line.calls ∧ isFormatFunction call.callee = true := by
  obtain ⟨p, hp, h⟩ := List.mem_filterMap.1 h
  obtain ⟨⟨name, start⟩, hcall, h⟩ := Option.bind_eq_some_iff.1 h
  obtain ⟨_, hformat, h⟩ := Option.bind_eq_some_iff.1 h
  have hformat : isFormatFunction name = true := (Option.guard_eq_some' _).1 hformat
  have hcalled : (!notCalled.contains (String.ofList name)) = true := by
    simpa using not_mem_notCalled_of_isFormatFunction hformat
  cases h
  refine ⟨?_, hformat⟩
  rw [calls, hline]
  refine List.mem_filterMap.2 ⟨p, hp, Option.bind_eq_some_iff.2 ⟨_, hcall, ?_⟩⟩
  exact Option.bind_eq_some_iff.2 ⟨(), (Option.guard_eq_some' _).2 hcalled, rfl⟩

/-- The formatted calls of a tree are among its calls, if these are read. -/
theorem SyntaxTree.call_mem_calls {tree : SyntaxTree} {calls : List Call}
    (hcalls : tree.calls = .ok calls) {call : FormatCall} (h : call ∈ tree.formatCalls) :
    call.call ∈ calls ∧ isFormatFunction call.callee = true := by
  obtain ⟨n, hn, h⟩ := List.mem_filterMap.1 h
  obtain ⟨function, hfunction, h⟩ := Option.bind_eq_some_iff.1 h
  obtain ⟨list, -, h⟩ := Option.bind_eq_some_iff.1 h
  obtain ⟨_, hformat, h⟩ := Option.bind_eq_some_iff.1 h
  obtain ⟨hkind, hformat⟩ := Bool.and_eq_true_iff.1 ((Option.guard_eq_some' _).1 hformat)
  cases h
  refine ⟨?_, hformat⟩
  have hread : tree.call? n =
      some ((tree.name function).map fun name => ⟨name, tree.position n⟩) := by
    rw [call?, hfunction, Option.filter_some, if_pos hkind, Option.map_some]
  obtain ⟨made, hmade, hcall⟩ :=
    exists_mem_of_collect hcalls (List.mem_filterMap.2 ⟨n, hn, hread⟩)
  obtain ⟨callee, hcallee, rfl⟩ := map_eq_ok_iff.1 hcall
  rwa [FormatCall.call, SyntaxTree.text, Text.ofUtf8Lossy_of_ofUtf8 hcallee]

/-- The functions with a format string are declared in one header. -/
theorem standardTable_of_isFormatFunction {name : List Char} (h : isFormatFunction name = true) :
    standardTable name = ["stdio.h".toList] := by
  have hall : ∀ function ∈ formatFunctions, standardTable function.toList = ["stdio.h".toList] := by
    decide +kernel
  have hname := hall _ (List.contains_iff_mem.1 h)
  rwa [String.toList_ofList] at hname

/-- What is said of a formatted call begins with the name of the function. -/
theorem FormatCall.callee_prefix_message {isCharBuffer : List Char → Bool} {call : FormatCall}
    {d : Defect} (h : d ∈ call.defects isCharBuffer) : call.callee <+: d.message.toList := by
  rcases cases_of_mem_defects h with
    ⟨given, expected, rfl⟩ | ⟨given, expected, rfl⟩ | ⟨hcallee, expression, name, rfl⟩
  · have hmessage : (Defect.tooFewArguments call.callee given expected).message =
        String.ofList call.callee ++ ": too few arguments for format string " ++
          Defect.argumentCount given expected := rfl
    rw [hmessage, String.toList_append, String.toList_append, String.toList_ofList,
      List.append_assoc]
    exact List.prefix_append _ _
  · have hmessage : (Defect.tooManyArguments call.callee given expected).message =
        String.ofList call.callee ++ ": too many arguments for format string " ++
          Defect.argumentCount given expected := rfl
    rw [hmessage, String.toList_append, String.toList_append, String.toList_ofList,
      List.append_assoc]
    exact List.prefix_append _ _
  · have hmessage : (Defect.notByAddress expression name).message =
        "scanf argument '" ++ String.ofList expression ++ "' should be passed by address (use &" ++
          String.ofList name ++ ")" := rfl
    have hstart : "scanf".toList <+: "scanf argument '".toList := by decide
    rw [hcallee, hmessage]
    simp only [String.toList_append, List.append_assoc]
    exact hstart.trans (List.prefix_append _ _)

/-- The issue that a function on a line lacks the header of formatted input and output. -/
def formatHeaderIssue (path : String) (line : Int) (function : String) : Issue :=
  { file := path
    line
    category := .header
    message := "Function '" ++ function ++ "' requires header: stdio.h" }

theorem message_missingHeader_stdio (callee : List Char) :
    (Defect.missingHeader callee ["stdio.h".toList]).message =
      "Function '" ++ String.ofList callee ++ "' requires header: stdio.h" := by
  have hmessage : (Defect.missingHeader callee ["stdio.h".toList]).message =
      "Function '" ++ String.ofList callee ++ "' requires header: " ++
        " or ".intercalate [String.ofList "stdio.h".toList] := rfl
  have hend : "' requires header: " ++ "stdio.h" = "' requires header: stdio.h" := by decide
  rw [hmessage, String.intercalate_singleton, String.ofList_toList, String.append_assoc, hend]

/-- A call of a function with a format string lacks its header unless that is included. -/
theorem formatHeaderIssue_mem {calls : List Call} {includes : List Include}
    (hincludes : ∀ i ∈ includes, i.header ≠ "stdio.h".toList) {call : Call} (hcall : call ∈ calls)
    (hformat : isFormatFunction call.callee = true) (path : String) :
    formatHeaderIssue path (call.position.row + 1) (String.ofList call.callee) ∈
      (missingHeaders standardTable calls includes).map (Sighting.issue path) := by
  have htable := standardTable_of_isFormatFunction hformat
  have hlacks : standardTable.lacks includes call.callee = true := by
    simpa [HeaderTable.lacks, HeaderTable.isIncluded, htable] using hincludes
  refine List.mem_map.2 ⟨standardTable.sighting call, ?_, ?_⟩
  · rw [missingHeaders_eq]
    exact List.mem_map_of_mem (List.mem_filter.2 ⟨hcall, hlacks⟩)
  · rw [HeaderTable.sighting, htable, Sighting.issue, message_missingHeader_stdio]
    rfl

/-! ### Reports of formatted calls -/

/-- Every format issue comes with the issue, on the same line, that the function its message begins
with lacks a header. -/
def FormatsHaveHeaderIssue (issues : List Issue) : Prop :=
  ∀ issue ∈ issues, issue.category = .format →
    ∃ function ∈ formatFunctions, function.toList <+: issue.message.toList ∧
      formatHeaderIssue issue.file issue.line function ∈ issues

/-- A report about a formatted call that is among the given calls. -/
structure Sighting.IsFormatReport (calls : List Call) (s : Sighting) (call : FormatCall) :
    Prop where
  /-- The function has a format string. -/
  isFormat : isFormatFunction call.callee = true
  /-- The call is one of the calls. -/
  mem_calls : call.call ∈ calls
  /-- The report is on the row of the call. -/
  row_eq : s.row = call.position.row
  /-- It says what is wrong with the call. -/
  mem_defects : ∃ isCharBuffer : List Char → Bool, s.defect ∈ call.defects isCharBuffer

/-- Where the missing headers of all calls are reported, the formatted calls among them have
theirs. -/
theorem formatsHaveHeaderIssue_of_isFormatReport {calls : List Call} {includes : List Include}
    (hincludes : ∀ i ∈ includes, i.header ≠ "stdio.h".toList) {found : List Sighting}
    (hheaders : missingHeaders standardTable calls includes ⊆ found)
    (hformats : ∀ s ∈ found, s.defect.category = .format → ∃ call, s.IsFormatReport calls call)
    (path : String) : FormatsHaveHeaderIssue (found.map (Sighting.issue path)) := by
  intro issue hissue hcategory
  obtain ⟨s, hs, rfl⟩ := List.mem_map.1 hissue
  obtain ⟨call, hcall⟩ := hformats s hs hcategory
  obtain ⟨isCharBuffer, hdefect⟩ := hcall.mem_defects
  refine ⟨String.ofList call.callee, List.contains_iff_mem.1 hcall.isFormat, ?_, ?_⟩
  · rw [String.toList_ofList]
    exact FormatCall.callee_prefix_message hdefect
  · have hissue := formatHeaderIssue_mem hincludes hcall.mem_calls hcall.isFormat path
    have hline : (s.issue path).line = call.call.position.row + 1 := by
      rw [FormatCall.call, ← hcall.row_eq]
      rfl
    rw [hline]
    exact List.map_subset _ hheaders hissue

/-- The format reports of the scope check are about calls on the lines. -/
theorem exists_isFormatReport_of_mem_scopeCheck {flow : Bool} {lines : List (List Char)}
    {s : Sighting} (h : s ∈ scopeCheck flow lines) (hformat : s.defect.category = .format) :
    ∃ call, s.IsFormatReport ((scanLines lines).flatMap CodeLine.calls) call := by
  rcases List.mem_append.1 h with h | h
  · obtain ⟨step, hstep, hs⟩ := List.mem_flatMap.1 h
    obtain ⟨line, hline, scope, rfl⟩ := exists_line_of_mem_scopeStepsFrom hstep
    obtain ⟨d, hd, rfl⟩ := List.mem_map.1 hs
    rw [Scope.lineDefects_eq_append] at hd
    rcases List.mem_append.1 hd with hd | hd
    · exact absurd hformat (Scope.category_ne_of_mem_codeDefects hd).2
    · unfold CodeLine.formatDefects at hd
      split at hd
      · cases hd
      obtain ⟨call, hcall, hd⟩ := List.mem_flatMap.1 hd
      obtain ⟨hscanned, hchecked⟩ := List.mem_filter.1 hline
      have hdirective : line.isDirective = false := by
        simpa using (Bool.and_eq_true_iff.1 hchecked).2
      obtain ⟨hcalls, hfunction⟩ := CodeLine.call_mem_calls hdirective hcall
      exact ⟨call,
        { isFormat := hfunction
          mem_calls := List.mem_flatMap.2 ⟨line, hscanned, hcalls⟩
          row_eq := (CodeLine.row_of_mem_calls hcalls).symm
          mem_defects := ⟨_, hd⟩ }⟩
  · exact absurd ((category_of_mem_missingHeaders h).symm.trans hformat) (by decide)

/-- The variable check reports no formats. -/
theorem SyntaxTree.category_ne_of_mem_variableCheck {tree : SyntaxTree} {flow : Bool}
    {ds : List Declaration} {s : Sighting} (h : s ∈ tree.variableCheck flow ds) :
    s.defect.category ≠ .format := by
  rcases List.mem_append.1 h with h | h
  · obtain ⟨g, -, h⟩ := List.mem_flatMap.1 h
    obtain ⟨d, -, h⟩ := List.mem_flatMap.1 h
    rw [useSightings_eq] at h
    rcases List.mem_append.1 h with h | h
    · rw [(of_mem_unsetReports h).1]
      decide
    · rw [(of_mem_wildReports h).1]
      decide
  · obtain ⟨d, -, h⟩ := List.mem_flatMap.1 h
    rw [(of_mem_nullSightings h).1]
    decide

theorem category_of_mem_misspelledHeaders {includes : List Include} {s : Sighting}
    (h : s ∈ misspelledHeaders includes) : s.defect.category = .headerSpelling := by
  obtain ⟨i, -, h⟩ := List.mem_filterMap.1 h
  split at h
  · cases h
  · cases h
    rfl

theorem category_of_mem_loopCheck {loops : List Loop} {s : Sighting} (h : s ∈ loopCheck loops) :
    s.defect.category = .infiniteLoop := by
  obtain ⟨l, -, rfl⟩ := List.mem_map.1 h
  rfl

/-- The format reports of the tree checks are about calls in the tree. -/
theorem exists_isFormatReport_of_mem_survivingFindings {flow : Bool}
    {breakdown? : String → Option Breakdown} {path : String} {tree : SyntaxTree}
    {sites : FileSites} (hsites : tree.sites = .ok sites) {s : Sighting}
    (h : s ∈ survivingFindings flow breakdown? path sites)
    (hformat : s.defect.category = .format) : ∃ call, s.IsFormatReport sites.calls call := by
  obtain ⟨declarations, -, hsites⟩ := bind_eq_ok_iff.1 hsites
  obtain ⟨calls, hread, hsites⟩ := bind_eq_ok_iff.1 hsites
  obtain ⟨includes, -, hsites⟩ := bind_eq_ok_iff.1 hsites
  cases hsites
  obtain ⟨check, hcheck, h⟩ := List.mem_flatMap.1 h
  have hcheck := (List.mem_filter.1 hcheck).1
  simp only [treeChecks, List.mem_cons, List.not_mem_nil, or_false] at hcheck
  rcases hcheck with rfl | rfl | rfl | rfl
  · exact absurd hformat (SyntaxTree.category_ne_of_mem_variableCheck h)
  · exact absurd ((category_of_mem_missingHeaders h).symm.trans hformat) (by decide)
  · exact absurd ((category_of_mem_misspelledHeaders h).symm.trans hformat) (by decide)
  · rcases List.mem_append.1 h with h | h
    · exact absurd ((category_of_mem_loopCheck h).symm.trans hformat) (by decide)
    · obtain ⟨call, hcall, h⟩ := List.mem_flatMap.1 h
      obtain ⟨d, hd, rfl⟩ := List.mem_map.1 h
      obtain ⟨hcalls, hfunction⟩ := SyntaxTree.call_mem_calls hread hcall
      exact ⟨call,
        { isFormat := hfunction
          mem_calls := hcalls
          row_eq := rfl
          mem_defects := ⟨_, hd⟩ }⟩

/-- The missing headers are among the findings if the check for them does not break down. -/
theorem missingHeaders_subset_survivingFindings (flow : Bool)
    {breakdown? : String → Option Breakdown} (h : breakdown? libraryCheck.name = none)
    (path : String) (sites : FileSites) :
    missingHeaders standardTable sites.calls sites.includes ⊆
      survivingFindings flow breakdown? path sites := by
  intro s hs
  have hsurvives : libraryCheck ∈
      (treeChecks flow).filter fun check => (breakdown? check.name).isNone :=
    List.mem_filter.2 ⟨by simp [treeChecks], by rw [h]; rfl⟩
  exact List.mem_flatMap.2 ⟨libraryCheck, hsurvives, hs⟩

/-- Without an include of `stdio.h`, a format issue comes with the issue that its function lacks
that header, whichever other checks break down. -/
theorem formatIssues_have_headerIssues (flow : Bool) (path : String) :
    (∀ lines : List (List Char),
      (∀ i ∈ includesIn (scanLines lines), i.header ≠ "stdio.h".toList) →
        FormatsHaveHeaderIssue ((scopeCheck flow lines).map (Sighting.issue path))) ∧
    ∀ (tree : SyntaxTree) (sites : FileSites) (breakdown? : String → Option Breakdown),
      tree.sites = .ok sites → breakdown? libraryCheck.name = none →
      (∀ i ∈ sites.includes, i.header ≠ "stdio.h".toList) →
        FormatsHaveHeaderIssue ((runChecks path ((treeChecks flow).map fun check =>
          check.breakingDown (breakdown? check.name)) sites).value.map
            (Sighting.issue path)) := by
  constructor
  · intro lines hincludes
    have hheaders : missingHeaders standardTable ((scanLines lines).flatMap CodeLine.calls)
        (includesIn (scanLines lines)) ⊆ scopeCheck flow lines := by
      rw [scopeCheck, flatMap_calls_filter_isChecked]
      exact List.subset_append_right _ _
    exact formatsHaveHeaderIssue_of_isFormatReport hincludes hheaders
      (fun _ hs => exists_isFormatReport_of_mem_scopeCheck hs) path
  · intro tree sites breakdown? hsites hlibrary hincludes
    rw [value_runChecks_treeChecks]
    exact formatsHaveHeaderIssue_of_isFormatReport hincludes
      (missingHeaders_subset_survivingFindings flow hlibrary path sites)
      (fun _ hs => exists_isFormatReport_of_mem_survivingFindings hsites hs) path

/-- A tree over `int n;` and `scanf("%d %d", n);` on two lines. -/
private def scanfTree : SyntaxTree where
  root :=
    .mk ⟨"translation_unit", none, 0, 25, true, false, false⟩
      [.mk ⟨"declaration", none, 0, 6, true, false, false⟩
        [.mk ⟨"primitive_type", some "type", 0, 3, true, false, false⟩ [],
        .mk ⟨"identifier", some "declarator", 4, 5, true, false, false⟩ []],
      .mk ⟨"expression_statement", none, 7, 25, true, false, false⟩
        [.mk ⟨"call_expression", none, 7, 24, true, false, false⟩
          [.mk ⟨"identifier", some "function", 7, 12, true, false, false⟩ [],
          .mk ⟨"argument_list", some "arguments", 12, 24, true, false, false⟩
            [.mk ⟨"string_literal", none, 13, 20, true, false, false⟩ [],
            .mk ⟨"identifier", none, 22, 23, true, false, false⟩ []]]]]
  bytes := (Text.utf8 "int n;\nscanf(\"%d %d\", n);".toList).toArray
  lines := Text.splitLines "int n;\nscanf(\"%d %d\", n);".toList

/-- A call of `scanf` without its header and with one target for two conversions, read off lines and
off a tree. -/
theorem formatIssues_have_headerIssues_scanf :
    let lines := ["#include <math.h>", "printf(\"%d\", scanf(\"%d %d\", n));"].map String.toList
    let breakdown? (name : String) : Option Breakdown :=
      if name = "variable" then some ⟨.crashed, fun _ => true⟩ else none
    let textIssues := (scopeCheck false lines).map (Sighting.issue "t.c")
    let treeIssues (sites : FileSites) := (runChecks "t.c" ((treeChecks false).map fun check =>
      check.breakingDown (breakdown? check.name)) sites).value.map (Sighting.issue "t.c")
    let tooFew := Issue.atRow "t.c" 1 .format
      "scanf: too few arguments for format string (1 given, 2 expected)"
    (includesIn (scanLines lines)).map Include.header = ["math.h".toList] ∧
      tooFew ∈ textIssues ∧ FormatsHaveHeaderIssue textIssues ∧
      ∃ sites, scanfTree.sites = .ok sites ∧ sites.includes = [] ∧ tooFew ∈ treeIssues sites ∧
        FormatsHaveHeaderIssue (treeIssues sites) := by
  intro lines breakdown? textIssues treeIssues tooFew
  have htext : ∀ i ∈ includesIn (scanLines lines), i.header ≠ "stdio.h".toList := by
    decide +kernel
  have htree : (scanfTree.sites.map fun sites =>
      (sites.includes, decide (tooFew ∈ treeIssues sites))) = .ok ([], true) := by
    decide +kernel
  obtain ⟨sites, hsites, htree⟩ := map_eq_ok_iff.1 htree
  obtain ⟨hincludes, hfound⟩ := Prod.mk.inj htree
  have hall := formatIssues_have_headerIssues false "t.c"
  refine ⟨by decide +kernel, by decide +kernel, hall.1 lines htext, sites, hsites, hincludes,
    of_decide_eq_true hfound, hall.2 scanfTree sites breakdown? hsites rfl ?_⟩
  rw [hincludes]
  exact fun i hi => absurd hi List.not_mem_nil

end DefectScan
