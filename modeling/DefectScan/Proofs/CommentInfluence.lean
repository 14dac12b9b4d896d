import DefectScan.Proofs.Decomment
import DefectScan.Proofs.Rows
import DefectScan.Proofs.Words
import Mathlib.Data.List.Basic

/-!
# What comments can change

The checks that work on lines read names, braces and statements from the code view, where comments
are blank. Two things they read from the line as written: the header of an include directive, and
the arguments of a formatted call. The main statement compares a file with the file without its
comments: the reports are the same if and only if the formatted calls of each checked line have
the same defects and each called library function has the same standing among the included
headers.
-/

namespace DefectScan

open Text

/-! ### Reports of appended findings -/

/-- Two lists whose parts are told apart by a property are equal when their parts are. -/
private theorem append_eq_append_iff_of_forall {α : Type} {p : α → Bool} {l l' r r' : List α}
    (hl : ∀ a ∈ l, p a = true) (hl' : ∀ a ∈ l', p a = true) (hr : ∀ a ∈ r, p a = false)
    (hr' : ∀ a ∈ r', p a = false) : l ++ r = l' ++ r' ↔ l = l' ∧ r = r' := by
  constructor
  · intro h
    have hfront := congrArg (List.filter p) h
    rw [List.filter_append, List.filter_append, List.filter_eq_self.2 hl, List.filter_eq_self.2 hl',
      List.filter_eq_nil_iff.2 (by simpa using hr), List.filter_eq_nil_iff.2 (by simpa using hr'),
      List.append_nil, List.append_nil] at hfront
    subst hfront
    exact ⟨rfl, List.append_cancel_left h⟩
  · rintro ⟨rfl, rfl⟩
    rfl

/-! ### Formatted calls -/

/-- The defects of the formatted calls of a line, which are not looked for in declarations. -/
def CodeLine.formatDefects (line : CodeLine) (scope : Scope) : List Defect :=
  if isLikelyDeclaration line.code then []
  else line.formatCalls.flatMap (FormatCall.defects scope.isCharBuffer)

/-- The other defects of a line that starts in the given scope. -/
def Scope.codeDefects (flow : Bool) (scope : Scope) (line : CodeLine) : List Defect :=
  if isLikelyDeclaration line.code then []
  else
    (if line.isEndlessLoop then [.endlessLoop] else []) ++
      (scope.afterLine flow line).useDefects line.row line.code
        (scope.enterLine line).visibleNames

theorem Scope.lineDefects_eq_append (flow : Bool) (scope : Scope) (line : CodeLine) :
    scope.lineDefects flow line =
      scope.codeDefects flow line ++ line.formatDefects (scope.afterLine flow line) := by
  unfold lineDefects codeDefects CodeLine.formatDefects
  split <;> rfl

/-- A formatted call with a defect has too few or too many arguments, or is one of `scanf` with a
target passed by value. -/
theorem FormatCall.cases_of_mem_defects {isCharBuffer : List Char → Bool} {call : FormatCall}
    {d : Defect} (h : d ∈ call.defects isCharBuffer) :
    (∃ given expected, d = .tooFewArguments call.callee given expected) ∨
      (∃ given expected, d = .tooManyArguments call.callee given expected) ∨
      (call.callee = "scanf".toList ∧ ∃ expression name, d = .notByAddress expression name) := by
  unfold defects at h
  rcases List.mem_append.1 h with h | h
  · unfold countDefects at h
    split at h
    · dsimp only at h
      split at h
      · exact .inl ⟨_, _, List.mem_singleton.1 h⟩
      · split at h
        · exact .inr (.inl ⟨_, _, List.mem_singleton.1 h⟩)
        · cases h
    · cases h
  · split at h
    · next hcallee =>
      obtain ⟨expression, -, htarget⟩ := List.mem_filterMap.1 h
      unfold targetDefect? at htarget
      dsimp only at htarget
      split at htarget
      · cases htarget
      · exact .inr (.inr ⟨hcallee, _, _, (Option.some.inj htarget).symm⟩)
    · cases h

theorem FormatCall.category_of_mem_defects {isCharBuffer : List Char → Bool} {call : FormatCall}
    {d : Defect} (h : d ∈ call.defects isCharBuffer) : d.category = .format := by
  rcases cases_of_mem_defects h with ⟨_, _, rfl⟩ | ⟨_, _, rfl⟩ | ⟨-, _, _, rfl⟩ <;> rfl

theorem CodeLine.category_of_mem_formatDefects {line : CodeLine} {scope : Scope} {d : Defect}
    (h : d ∈ line.formatDefects scope) : d.category = .format := by
  unfold formatDefects at h
  split at h
  · cases h
  · obtain ⟨call, -, hd⟩ := List.mem_flatMap.1 h
    exact FormatCall.category_of_mem_defects hd

/-- The other defects of a line are neither about headers nor about formats. -/
theorem Scope.category_ne_of_mem_codeDefects {flow : Bool} {scope : Scope} {line : CodeLine}
    {d : Defect} (h : d ∈ scope.codeDefects flow line) :
    d.category ≠ .header ∧ d.category ≠ .format := by
  unfold codeDefects at h
  split at h
  · cases h
  rcases List.mem_append.1 h with h | h
  · split at h
    · cases List.mem_singleton.1 h
      decide
    · cases h
  · obtain ⟨name, -, hname⟩ := List.mem_filterMap.1 h
    split at hname
    · obtain ⟨v, -, hv⟩ := Option.bind_eq_some_iff.1 hname
      unfold Variable.useDefect? at hv
      grind [Defect.category]
    · cases hname

/-- A line by itself never lacks a header. -/
theorem Scope.category_ne_header_of_mem_lineDefects {flow : Bool} {scope : Scope}
    {line : CodeLine} {d : Defect} (h : d ∈ scope.lineDefects flow line) :
    d.category ≠ .header := by
  rw [lineDefects_eq_append] at h
  rcases List.mem_append.1 h with h | h
  · exact (category_ne_of_mem_codeDefects h).1
  · rw [CodeLine.category_of_mem_formatDefects h]
    decide

/-- What is said of the formatted calls on the row of a step, as the given lines write them. -/
def ScopeStep.formatMessages (scanned : List CodeLine) (step : ScopeStep) : List String :=
  match scanned[step.row]? with
  | some line => (line.formatDefects step.scope).map Defect.message
  | none => []

/-- The issues of formatted calls on a row are the same when their messages are. -/
private theorem map_issue_formatDefects_inj (path : String) (scope : Scope) {line line' : CodeLine}
    (row : Nat) :
    (line.formatDefects scope).map (fun d => Sighting.issue path ⟨row, d⟩) =
        (line'.formatDefects scope).map (fun d => Sighting.issue path ⟨row, d⟩) ↔
      (line.formatDefects scope).map Defect.message =
        (line'.formatDefects scope).map Defect.message := by
  have hissue : ∀ line : CodeLine,
      (line.formatDefects scope).map (fun d => Sighting.issue path ⟨row, d⟩) =
        ((line.formatDefects scope).map Defect.message).map (Issue.atRow path row .format) := by
    intro line
    rw [List.map_map]
    apply List.map_congr_left
    intro d hd
    rw [Sighting.issue, CodeLine.category_of_mem_formatDefects hd]
    rfl
  rw [hissue, hissue]
  apply List.map_inj_right
  intro m m' h
  exact congrArg Issue.message h

/-- The issues of a step are on its line. -/
private theorem line_of_mem_stepIssues {path : String} {step : ScopeStep} {issue : Issue}
    (h : issue ∈ step.sightings.map (Sighting.issue path)) : issue.line = step.row + 1 := by
  obtain ⟨s, hs, rfl⟩ := List.mem_map.1 h
  obtain ⟨d, -, rfl⟩ := List.mem_map.1 hs
  rfl

/-- The issues of steps below a row are not on its line. -/
private theorem line_ne_of_mem_issues {flow : Bool} {path : String} {scope : Scope} {row : Nat}
    {lines : List CodeLine} (hrows : ∀ line ∈ lines, row < line.row) {issue : Issue}
    (h : issue ∈ ((scopeStepsFrom flow scope lines).flatMap ScopeStep.sightings).map
      (Sighting.issue path)) : issue.line ≠ row + 1 := by
  rw [List.map_flatMap] at h
  obtain ⟨step, hstep, hissue⟩ := List.mem_flatMap.1 h
  obtain ⟨line, hl, _, rfl⟩ := exists_line_of_mem_scopeStepsFrom hstep
  have hline := hrows line hl
  rw [line_of_mem_stepIssues hissue]
  dsimp only
  omega

/-- The step over a line that is written otherwise reports the same if and only if the formatted
calls do. -/
private theorem map_issue_sightings_reread (flow : Bool) (path : String)
    (texts : List (List Char)) (scope : Scope) {scanned : List CodeLine} {line : CodeLine}
    (hline : scanned[line.row]? = some line) :
    let step (line : CodeLine) : ScopeStep :=
      ⟨line.row, scope.lineDefects flow line, scope.afterLine flow line⟩
    (step (line.reread texts)).sightings.map (Sighting.issue path) =
        (step line).sightings.map (Sighting.issue path) ↔
      (step line).formatMessages (scanned.map (CodeLine.reread texts)) =
        (step line).formatMessages scanned := by
  intro step
  have hreread : (scanned.map (CodeLine.reread texts))[line.row]? = some (line.reread texts) := by
    rw [List.getElem?_map, hline, Option.map_some]
  have hcode : scope.codeDefects flow (line.reread texts) = scope.codeDefects flow line := rfl
  have hscope : scope.afterLine flow (line.reread texts) = scope.afterLine flow line := rfl
  simp only [step, ScopeStep.formatMessages, hreread, hline, ScopeStep.sightings, List.map_map]
  rw [Scope.lineDefects_eq_append, Scope.lineDefects_eq_append, hcode, hscope, List.map_append,
    List.map_append]
  exact (List.append_right_inj _).trans
    (map_issue_formatDefects_inj path (scope.afterLine flow line) line.row)

/-- The steps over lines that are written otherwise report the same if and only if the formatted
calls of each step do. -/
private theorem map_issue_scopeStepsFrom_reread (flow : Bool) (path : String)
    (texts : List (List Char)) (scope : Scope) {scanned lines : List CodeLine}
    (hrows : lines.Pairwise fun a b => a.row < b.row)
    (hlines : ∀ line ∈ lines, scanned[line.row]? = some line) :
    ((scopeStepsFrom flow scope (lines.map (CodeLine.reread texts))).flatMap
          ScopeStep.sightings).map (Sighting.issue path) =
        ((scopeStepsFrom flow scope lines).flatMap ScopeStep.sightings).map
          (Sighting.issue path) ↔
      ∀ step ∈ scopeStepsFrom flow scope lines,
        step.formatMessages (scanned.map (CodeLine.reread texts)) =
          step.formatMessages scanned := by
  induction lines generalizing scope with
  | nil => simp [scopeStepsFrom]
  | cons line lines ih =>
    obtain ⟨hrow, hrows⟩ := List.pairwise_cons.1 hrows
    obtain ⟨hline, hlines⟩ := List.forall_mem_cons.1 hlines
    have hrow' : ∀ line' ∈ lines.map (CodeLine.reread texts), line.row < line'.row := by
      intro line' hl
      obtain ⟨source, hsource, rfl⟩ := List.mem_map.1 hl
      exact hrow source hsource
    rw [List.map_cons, scopeStepsFrom, scopeStepsFrom, List.flatMap_cons, List.flatMap_cons,
      List.map_append, List.map_append, List.forall_mem_cons]
    refine (append_eq_append_iff_of_forall (p := fun issue => issue.line == (line.row + 1 : Int))
      ?_ ?_ ?_ ?_).trans
      (and_congr (map_issue_sightings_reread flow path texts scope hline) (ih _ hrows hlines))
    · exact fun issue hi => beq_iff_eq.2 (line_of_mem_stepIssues hi)
    · exact fun issue hi => beq_iff_eq.2 (line_of_mem_stepIssues hi)
    · exact fun issue hi => beq_eq_false_iff_ne.2 (line_ne_of_mem_issues hrow' hi)
    · exact fun issue hi => beq_eq_false_iff_ne.2 (line_ne_of_mem_issues hrow hi)

/-! ### Headers -/

namespace HeaderTable

/-- Whether one of the headers that declare a function is included. -/
def isIncluded (table : HeaderTable) (includes : List Include) (callee : List Char) : Bool :=
  (table callee).any fun h => includes.any fun i => i.header == h

/-- The functions of a table have no quotes in their names. -/
def IsQuoteFree (table : HeaderTable) : Prop := ∀ name, table name ≠ [] → '\'' ∉ name

theorem isQuoteFree_standardTable : IsQuoteFree standardTable := by
  intro name h
  have hnames : ∀ g ∈ headerGroups, ∀ f ∈ g.2, '\'' ∉ f.toList := by decide +kernel
  obtain ⟨g, hg⟩ := List.exists_mem_of_ne_nil _ fun hnil => h (List.map_eq_nil_iff.2 hnil)
  obtain ⟨hgroup, hmem⟩ := List.mem_filter.1 hg
  have hname := hnames g hgroup _ (List.contains_iff_mem.1 hmem)
  rwa [String.toList_ofList] at hname

theorem isQuoteFree_commonTable : IsQuoteFree commonTable := by
  intro name h
  unfold commonTable at h
  split at h
  · exact isQuoteFree_standardTable name h
  · exact absurd rfl h

end HeaderTable

/-- The message of a missing header shows the function between quotes. -/
theorem toList_missingHeader_message (callee : List Char) (headers : List (List Char)) :
    ∃ rest : List Char, (Defect.missingHeader callee headers).message.toList =
      "Function '".toList ++ (callee ++ '\'' :: rest) := by
  have hmessage : (Defect.missingHeader callee headers).message =
      "Function '" ++ String.ofList callee ++ "' requires header: " ++
        " or ".intercalate (headers.map String.ofList) := rfl
  have hquote : "' requires header: ".toList = '\'' :: " requires header: ".toList := by decide
  refine ⟨" requires header: ".toList ++
    (" or ".intercalate (headers.map String.ofList)).toList, ?_⟩
  simp only [hmessage, String.toList_append, String.toList_ofList, hquote, List.append_assoc,
    List.cons_append]

/-- The part of a text before its first quote can be read off. -/
private theorem takeWhile_quote {s : List Char} (h : '\'' ∉ s) (rest : List Char) :
    (s ++ '\'' :: rest).takeWhile (· != '\'') = s := by
  have hs : ∀ c ∈ s, (c != '\'') = true := fun c hc => bne_iff_ne.2 (ne_of_mem_of_not_mem hc h)
  rw [List.takeWhile_append_of_pos hs]
  simp

/-- The message of a missing header tells the function. -/
theorem callee_inj_of_missingHeader {callee callee' : List Char} (hcallee : '\'' ∉ callee)
    (hcallee' : '\'' ∉ callee') {headers headers' : List (List Char)}
    (h : (Defect.missingHeader callee headers).message =
      (Defect.missingHeader callee' headers').message) : callee = callee' := by
  obtain ⟨rest, hrest⟩ := toList_missingHeader_message callee headers
  obtain ⟨rest', hrest'⟩ := toList_missingHeader_message callee' headers'
  rw [h, hrest'] at hrest
  have htail := List.append_cancel_left hrest
  rw [← takeWhile_quote hcallee rest, ← htail, takeWhile_quote hcallee' rest']

/-- Among the messages of missing headers is that of a call if and only if no header of the called
function is included. -/
theorem message_mem_missingHeaders_iff {table : HeaderTable} (htable : table.IsQuoteFree)
    {calls : List Call} (includes : List Include) {call : Call} (hcall : call ∈ calls)
    (hheaders : table call.callee ≠ []) :
    (∃ s ∈ missingHeaders table calls includes,
        s.defect.message = (Defect.missingHeader call.callee (table call.callee)).message) ↔
      table.isIncluded includes call.callee = false := by
  constructor
  · rintro ⟨s, hs, hmessage⟩
    obtain ⟨call', -, hs⟩ := List.mem_filterMap.1 hs
    dsimp only at hs
    split at hs
    · cases hs
    · rename_i hnot
      obtain ⟨hne, hnone⟩ := not_or.1 fun h => hnot (Bool.or_eq_true_iff.2 h)
      cases hs
      have hheaders' : table call'.callee ≠ [] := fun h => hne (List.isEmpty_iff.2 h)
      have hcallee := callee_inj_of_missingHeader (htable _ hheaders') (htable _ hheaders) hmessage
      rw [← hcallee]
      exact Bool.eq_false_iff.2 hnone
  · intro hnot
    refine ⟨⟨call.position.row, .missingHeader call.callee (table call.callee)⟩, ?_, rfl⟩
    refine List.mem_filterMap.2 ⟨call, hcall, ?_⟩
    have hempty : (table call.callee).isEmpty = false := by simpa using hheaders
    have hnone : ((table call.callee).any fun h => includes.any fun i => i.header == h) = false :=
      hnot
    dsimp only
    rw [hempty, hnone]
    rfl

/-- With other includes the same headers are reported missing if and only if each called function
has a header among both or among neither. -/
theorem map_issue_missingHeaders_inj {table : HeaderTable} (htable : table.IsQuoteFree)
    (path : String) (calls : List Call) (includes includes' : List Include) :
    (missingHeaders table calls includes).map (Sighting.issue path) =
        (missingHeaders table calls includes').map (Sighting.issue path) ↔
      ∀ call ∈ calls,
        table.isIncluded includes call.callee = table.isIncluded includes' call.callee := by
  constructor
  · intro h call hcall
    by_cases hheaders : table call.callee = []
    · simp [HeaderTable.isIncluded, hheaders]
    · have hmessages := congrArg (List.map Issue.message) h
      rw [List.map_map, List.map_map] at hmessages
      have hmem : ∀ message : String,
          (∃ s ∈ missingHeaders table calls includes, s.defect.message = message) ↔
            ∃ s ∈ missingHeaders table calls includes', s.defect.message = message := by
        intro message
        have := congrArg (message ∈ ·) hmessages
        simpa [Sighting.issue, Issue.atRow] using this
      have hiff := (message_mem_missingHeaders_iff htable includes hcall hheaders).symm.trans
        ((hmem _).trans (message_mem_missingHeaders_iff htable includes' hcall hheaders))
      exact Bool.eq_iff_iff.2 (by simpa using not_congr hiff)
  · intro h
    congr 1
    apply List.filterMap_congr
    intro call hcall
    have hsame := h call hcall
    unfold HeaderTable.isIncluded at hsame
    dsimp only
    rw [hsame]

/-! ### The checks without comments -/

/-- The formatted calls of each checked line have the same defects with the comments and without
them. -/
def FormatsAgree (flow : Bool) (lines : List (List Char)) : Prop :=
  ∀ step ∈ scopeSteps flow lines,
    step.formatMessages (scanLines (decomment lines)) = step.formatMessages (scanLines lines)

/-- Each called function of a table has a header among the included ones with the comments and
without them, or in neither case. -/
def HeadersAgree (table : HeaderTable) (lines : List (List Char)) : Prop :=
  ∀ call ∈ (scanLines lines).flatMap CodeLine.calls,
    table.isIncluded (includesIn (scanLines (decomment lines))) call.callee =
      table.isIncluded (includesIn (scanLines lines)) call.callee

instance (flow : Bool) (lines : List (List Char)) : Decidable (FormatsAgree flow lines) :=
  List.decidableBAll _ (scopeSteps flow lines)

instance (table : HeaderTable) (lines : List (List Char)) : Decidable (HeadersAgree table lines) :=
  List.decidableBAll _ ((scanLines lines).flatMap CodeLine.calls)

theorem Text.Place.call?_eq_none_of_blank {p : Text.Place} (h : ∀ c ∈ p.after, isBlank c = true) :
    p.call? = none := by
  have hstart : p.after.head?.any isNameStart = false := by
    cases hafter : p.after with
    | nil => rfl
    | cons c s => exact isNameStart_of_isBlank (h c (by simp [hafter]))
  rw [Place.call?, hstart, Bool.and_false]
  rfl

/-- A line that is not checked has no calls. -/
theorem CodeLine.calls_of_not_isChecked {line : CodeLine} (h : line.isChecked = false) :
    line.calls = [] := by
  unfold calls
  by_cases hdirective : line.isDirective = true
  · rw [if_pos hdirective]
  · have hblank : line.isBlank = true := by simpa [isChecked, hdirective] using h
    rw [if_neg hdirective]
    refine List.filterMap_eq_nil_iff.2 fun p hp => ?_
    have hafter : ∀ c ∈ p.after, Text.isBlank c = true := fun c hc =>
      List.all_eq_true.1 hblank c ((Place.suffix_of_mem_placesFrom hp).subset hc)
    rw [Place.call?_eq_none_of_blank hafter]
    rfl

theorem flatMap_calls_filter_isChecked (lines : List CodeLine) :
    (lines.filter CodeLine.isChecked).flatMap CodeLine.calls = lines.flatMap CodeLine.calls := by
  induction lines with
  | nil => rfl
  | cons line lines ih =>
    cases hline : line.isChecked with
    | false =>
      rw [List.filter_cons_of_neg (by simp [hline]), List.flatMap_cons, ih,
        CodeLine.calls_of_not_isChecked hline, List.nil_append]
    | true => rw [List.filter_cons_of_pos hline, List.flatMap_cons, List.flatMap_cons, ih]

/-- Calls are read from the code view. -/
theorem flatMap_calls_reread (texts : List (List Char)) (lines : List CodeLine) :
    (lines.map (CodeLine.reread texts)).flatMap CodeLine.calls = lines.flatMap CodeLine.calls := by
  rw [List.flatMap_map]
  rfl

/-- Which lines are checked is read from the code view. -/
theorem filter_isChecked_reread (texts : List (List Char)) (lines : List CodeLine) :
    (lines.map (CodeLine.reread texts)).filter CodeLine.isChecked =
      (lines.filter CodeLine.isChecked).map (CodeLine.reread texts) := by
  rw [List.filter_map]
  rfl

/-- Declarations in bodies are read from the code view. -/
theorem bodySightings_reread (texts : List (List Char)) (bodies : Bodies) (lines : List CodeLine) :
    bodySightings bodies (lines.map (CodeLine.reread texts)) = bodySightings bodies lines := by
  induction lines generalizing bodies with
  | nil => rfl
  | cons line lines ih =>
    have hdefect : bodies.lineDefect? (line.reread texts) = bodies.lineDefect? line := by
      unfold Bodies.lineDefect? CodeLine.isBareDeclaration CodeLine.reread
      dsimp only
    have hread : bodies.read (line.reread texts) = bodies.read line := rfl
    rw [List.map_cons, bodySightings, bodySightings, hdefect, hread, CodeLine.row_reread, ih]

/-- What the scope check says of single lines is never about headers. -/
theorem category_ne_of_mem_stepIssues {flow : Bool} {path : String} {scope : Scope}
    {lines : List CodeLine} {issue : Issue}
    (h : issue ∈ ((scopeStepsFrom flow scope lines).flatMap ScopeStep.sightings).map
      (Sighting.issue path)) : issue.category ≠ .header := by
  obtain ⟨s, hs, rfl⟩ := List.mem_map.1 h
  obtain ⟨step, hstep, hs⟩ := List.mem_flatMap.1 hs
  obtain ⟨d, hd, rfl⟩ := List.mem_map.1 hs
  obtain ⟨line, -, start, rfl⟩ := exists_line_of_mem_scopeStepsFrom hstep
  exact Scope.category_ne_header_of_mem_lineDefects hd

/-- The reports of missing headers have a category of their own. -/
theorem category_of_mem_missingHeaders {table : HeaderTable} {calls : List Call}
    {includes : List Include} {s : Sighting} (h : s ∈ missingHeaders table calls includes) :
    s.defect.category = .header := by
  obtain ⟨call, -, hs⟩ := List.mem_filterMap.1 h
  dsimp only at hs
  split at hs
  · cases hs
  · cases hs
    rfl

theorem category_of_mem_headerIssues {path : String} {table : HeaderTable}
    {calls : List Call} {includes : List Include} {issue : Issue}
    (h : issue ∈ (missingHeaders table calls includes).map (Sighting.issue path)) :
    issue.category = .header := by
  obtain ⟨s, hs, rfl⟩ := List.mem_map.1 h
  exact category_of_mem_missingHeaders hs

private theorem flatMap_calls_decomment (lines : List (List Char)) :
    (scanLines (decomment lines)).flatMap CodeLine.calls =
      (scanLines lines).flatMap CodeLine.calls := by
  rw [scanLines_decomment, flatMap_calls_reread]

/-- The steps of the scope check report the same without the comments if and only if the formatted
calls do. -/
theorem map_issue_scopeSteps_decomment (flow : Bool) (path : String) (lines : List (List Char)) :
    ((scopeSteps flow (decomment lines)).flatMap ScopeStep.sightings).map (Sighting.issue path) =
        ((scopeSteps flow lines).flatMap ScopeStep.sightings).map (Sighting.issue path) ↔
      FormatsAgree flow lines := by
  have hchecked : ∀ line ∈ (scanLines lines).filter CodeLine.isChecked,
      (scanLines lines)[line.row]? = some line :=
    fun line hl => getElem?_row_of_mem_scanLines (List.mem_filter.1 hl).1
  have hrows := (pairwise_row_scanLines lines).filter CodeLine.isChecked
  rw [FormatsAgree, scopeSteps, scopeSteps, scanLines_decomment, filter_isChecked_reread]
  exact map_issue_scopeStepsFrom_reread flow path (decomment lines) {} hrows hchecked

/-- The missing headers are the same without the comments if and only if the included headers have
the same standing. -/
theorem map_issue_missingHeaders_decomment {table : HeaderTable} (htable : table.IsQuoteFree)
    (path : String) (lines : List (List Char)) :
    (missingHeaders table ((scanLines (decomment lines)).flatMap CodeLine.calls)
          (includesIn (scanLines (decomment lines)))).map (Sighting.issue path) =
        (missingHeaders table ((scanLines lines).flatMap CodeLine.calls)
          (includesIn (scanLines lines))).map (Sighting.issue path) ↔
      HeadersAgree table lines := by
  rw [flatMap_calls_decomment]
  exact map_issue_missingHeaders_inj htable path _ _ _

/-- Each check reports the same without comments if and only if the defects of its formatted calls
and the functions without headers are the same. -/
theorem issues_decomment_iff (flow : Bool) (path : String) (lines : List (List Char)) :
    ((scopeCheck flow (decomment lines)).map (Sighting.issue path) =
          (scopeCheck flow lines).map (Sighting.issue path) ↔
        FormatsAgree flow lines ∧ HeadersAgree standardTable lines) ∧
      ((bodyCheck (decomment lines)).map (Sighting.issue path) =
          (bodyCheck lines).map (Sighting.issue path) ↔
        HeadersAgree commonTable lines) := by
  constructor
  · simp only [scopeCheck, flatMap_calls_filter_isChecked, List.map_append]
    refine (append_eq_append_iff_of_forall (p := fun issue => issue.category != .header)
      ?_ ?_ ?_ ?_).trans (and_congr (map_issue_scopeSteps_decomment flow path lines)
        (map_issue_missingHeaders_decomment HeaderTable.isQuoteFree_standardTable path lines))
    · exact fun issue hi => bne_iff_ne.2 (category_ne_of_mem_stepIssues hi)
    · exact fun issue hi => bne_iff_ne.2 (category_ne_of_mem_stepIssues hi)
    · exact fun issue hi => bne_eq_false_iff_eq.2 (category_of_mem_headerIssues hi)
    · exact fun issue hi => bne_eq_false_iff_eq.2 (category_of_mem_headerIssues hi)
  · have hbodies : bodySightings {} (scanLines (decomment lines)) =
        bodySightings {} (scanLines lines) := by
      rw [scanLines_decomment, bodySightings_reread]
    simp only [bodyCheck, List.map_append, hbodies, List.append_cancel_left_eq]
    exact map_issue_missingHeaders_decomment HeaderTable.isQuoteFree_commonTable path lines

/-- An include directive inside a comment counts as an include, and a comma inside a comment
separates arguments. -/
theorem issues_differ_without_comments :
    let lines := ["/*", "#include <stdio.h>", "*/", "int x = 1;",
      "printf(\"%d\", x /* , y */);"].map String.toList
    (scopeCheck true lines).map (Sighting.issue "t.c") ≠
        (scopeCheck true (decomment lines)).map (Sighting.issue "t.c") ∧
      (scopeCheck false lines).map (Sighting.issue "t.c") ≠
        (scopeCheck false (decomment lines)).map (Sighting.issue "t.c") ∧
      (bodyCheck lines).map (Sighting.issue "t.c") ≠
        (bodyCheck (decomment lines)).map (Sighting.issue "t.c") := by
  decide +kernel

/-- Comments between the statements and behind the directives change nothing. -/
theorem issues_decomment_of_trailing_comments :
    let lines := ["#include <stdio.h> // printf, scanf", "int x; /* x, y", "scanf(x); */",
      "printf(\"%d\", x, 1); // ) , 2"].map String.toList
    (scopeCheck true (decomment lines)).map (Sighting.issue "t.c") =
        (scopeCheck true lines).map (Sighting.issue "t.c") ∧
      (bodyCheck (decomment lines)).map (Sighting.issue "t.c") =
        (bodyCheck lines).map (Sighting.issue "t.c") := by
  intro lines
  have hscope : FormatsAgree true lines ∧ HeadersAgree standardTable lines := by decide +kernel
  have hbodies : HeadersAgree commonTable lines := by decide +kernel
  exact ⟨(issues_decomment_iff true "t.c" lines).1.2 hscope,
    (issues_decomment_iff true "t.c" lines).2.2 hbodies⟩

end DefectScan
