import DefectScan.Command.Run
import DefectScan.Proofs.WrappedText
import Mathlib.Data.List.Forall2

/-!
# Rows of a rule file

A rule file that is read as a list gives one rule for each row, behind the built-in rules, or else
the first row that gives none decides how the run ends. Most of what can be wrong with a row is
reported. What is not is told by the kinds of the values in it: lines that are no collection, and
a line that is infinite or of a kind that stands for no number. Such a row ends the run without a
message.
-/

namespace DefectScan

/-! ### Errors without a message -/

section Unreported

variable {α β : Type} {path : Path}

/-- The outcome is an error that is not reported. -/
def EndsUnreported (path : Path) (outcome : Except RuleFileError α) : Prop :=
  ∃ e, outcome = .error e ∧ e.message? path = none

theorem not_endsUnreported_ok (a : α) : ¬EndsUnreported path (.ok a) := by
  rintro ⟨e, h, -⟩
  cases h

theorem endsUnreported_error_iff {e : RuleFileError} :
    EndsUnreported path (.error e : Except RuleFileError α) ↔ e.message? path = none := by
  constructor
  · rintro ⟨e', h, hmessage⟩
    cases h
    exact hmessage
  · exact fun hmessage => ⟨e, rfl, hmessage⟩

/-- An outcome that does not end without a message is a value or an error with one. -/
theorem not_endsUnreported_iff {outcome : Except RuleFileError α} :
    ¬EndsUnreported path outcome ↔
      (∃ a, outcome = .ok a) ∨
        ∃ e message, outcome = .error e ∧ e.message? path = some message := by
  cases outcome with
  | ok a => simp [not_endsUnreported_ok]
  | error e => simp [endsUnreported_error_iff, Option.ne_none_iff_exists']

theorem endsUnreported_bind_iff {x : Except RuleFileError α} {f : α → Except RuleFileError β} :
    EndsUnreported path (x >>= f) ↔
      EndsUnreported path x ∨ ∃ a, x = .ok a ∧ EndsUnreported path (f a) := by
  cases x with
  | ok a => simp [bind, Except.bind, not_endsUnreported_ok]
  | error e => simp [bind, Except.bind, endsUnreported_error_iff]

/-- A walk through a list has a result if and only if each item has one. -/
theorem mapM_eq_ok_iff {ε : Type} {f : α → Except ε β} {xs : List α} {ys : List β} :
    xs.mapM f = .ok ys ↔ List.Forall₂ (fun x y => f x = .ok y) xs ys := by
  induction xs generalizing ys with
  | nil => simp [pure, Except.pure, eq_comm]
  | cons x xs ih =>
    simp only [List.mapM_cons, bind_eq_ok_iff, ih, List.forall₂_cons_left_iff]
    constructor
    · rintro ⟨y, hy, rest, hrest, h⟩
      exact ⟨y, rest, hy, hrest, (Except.ok.inj h).symm⟩
    · rintro ⟨y, rest, hy, hrest, rfl⟩
      exact ⟨y, hy, rest, hrest, rfl⟩

/-- A walk through a list ends where the first item has no result. -/
theorem endsUnreported_mapM_iff {f : α → Except RuleFileError β} {xs : List α} :
    EndsUnreported path (xs.mapM f) ↔
      ∃ done x rest, xs = done ++ x :: rest ∧ (∀ y ∈ done, ∃ b, f y = .ok b) ∧
        EndsUnreported path (f x) := by
  induction xs with
  | nil =>
    refine iff_of_false (not_endsUnreported_ok []) ?_
    rintro ⟨done, x, rest, h, -⟩
    cases done <;> cases h
  | cons x xs ih =>
    rw [List.mapM_cons, endsUnreported_bind_iff]
    constructor
    · rintro (h | ⟨b, hb, h⟩)
      · exact ⟨[], x, xs, rfl, nofun, h⟩
      · rw [endsUnreported_bind_iff] at h
        rcases h with h | ⟨_, -, h⟩
        · obtain ⟨done, y, rest, rfl, hdone, hy⟩ := ih.1 h
          exact ⟨x :: done, y, rest, rfl, List.forall_mem_cons.2 ⟨⟨b, hb⟩, hdone⟩, hy⟩
        · exact absurd h (not_endsUnreported_ok _)
    · rintro ⟨done, y, rest, hsplit, hdone, hy⟩
      cases done with
      | nil =>
        cases hsplit
        exact .inl hy
      | cons _ done =>
        cases hsplit
        obtain ⟨⟨b, hb⟩, hdone⟩ := List.forall_mem_cons.1 hdone
        refine .inr ⟨b, hb, endsUnreported_bind_iff.2 (.inl (ih.2 ?_))⟩
        exact ⟨done, y, rest, rfl, hdone, hy⟩

end Unreported

/-! ### Rows and their rules -/

/-- The rows of a value: a value that counts as nothing has none and a list its items. Other values
have no rows. -/
def rows? (d : Yaml.Data) : Option (List Yaml.Value) :=
  if d.isBlank d.root then some []
  else
    match d.collection? d.root with
    | some (.list entries) => some entries
    | _ => none

/-- What a row has under a name, if it is a mapping. -/
def rowField? (d : Yaml.Data) (row : Yaml.Value) (name : String) : Option Yaml.Value :=
  (pairsOf? d row).bind (Yaml.Value.field? name)

/-- The row says the rule: it has its pattern, as written alone, and its lines, if any, are the
rule's numbers. -/
structure IsRuleOf (d : Yaml.Data) (row : Yaml.Value) (rule : Suppression) : Prop where
  /-- The pattern. -/
  pattern : ∃ value, rowField? d row "pattern" = some value ∧
    d.plain value = .ok rule.pattern.toList
  /-- The lines. -/
  lines : match rowField? d row "lines" with
    | none => rule.lines = []
    | some value => ∃ items, lineItems d value = .ok items ∧
      List.Forall₂ (fun item n => lineOf item = .ok n) items rule.lines

/-- Whether a value cannot be gone through for lines: it is neither a whole number nor a text nor
several values. -/
def hasNoLines (d : Yaml.Data) : Yaml.Value → Bool
  | .int _ | .bool _ | .text _ | .bytes _ | .pair _ _ => false
  | v => (d.collection? v).isNone

/-- Whether a value is of a kind that stands for no line: it is nothing, a date, several values or
an infinite number. -/
def Yaml.Value.isNoLine : Yaml.Value → Bool
  | .null | .date _ | .moment _ | .pair _ _ | .collection _ => true
  | .real (.finite _ _ _) => false
  | .real _ => true
  | _ => false

/-- The row ends the run without a message. -/
inductive StopsAt (d : Yaml.Data) (row : Yaml.Value) : Prop where
  /-- It has no pattern, and its values lie too deeply within each other to be shown. -/
  | deepRow (hpattern : rowField? d row "pattern" = none) (hdeep : d.shown row = .error .tooDeep)
  /-- The values of its pattern lie too deeply within each other to be written. -/
  | deepPattern {pattern : Yaml.Value} (hpattern : rowField? d row "pattern" = some pattern)
    (hdeep : d.plain pattern = .error .tooDeep)
  /-- Its lines cannot be gone through. -/
  | noLines {pattern lines : Yaml.Value} {text : List Char}
    (hpattern : rowField? d row "pattern" = some pattern) (htext : d.plain pattern = .ok text)
    (hlines : rowField? d row "lines" = some lines) (hnone : hasNoLines d lines = true)
  /-- One of its lines is of a kind that stands for no line, and all before it have numbers. -/
  | noLine {pattern lines item : Yaml.Value} {text : List Char} {done rest : List Yaml.Value}
    (hpattern : rowField? d row "pattern" = some pattern) (htext : d.plain pattern = .ok text)
    (hlines : rowField? d row "lines" = some lines)
    (hitems : lineItems d lines = .ok (done ++ item :: rest))
    (hdone : ∀ v ∈ done, ∃ n, lineOf v = .ok n) (hitem : item.isNoLine = true)

/-- Some row ends the run without a message, and all rows before it have rules. -/
def StopsLoading (d : Yaml.Data) : Prop :=
  ∃ done row rest, rows? d = some (done ++ row :: rest) ∧
    (∀ r ∈ done, ∃ rule, IsRuleOf d r rule) ∧ StopsAt d row

/-! ### One row -/

section Row

variable {d : Yaml.Data} {row pattern : Yaml.Value} {path : Path}

/-- An error that becomes one with a message is reported. -/
theorem not_endsUnreported_mapError {α ε : Type} {x : Except ε α} {f : ε → RuleFileError}
    (h : ∀ e, (f e).message? path ≠ none) : ¬EndsUnreported path (x.mapError f) := by
  cases x with
  | ok a => exact not_endsUnreported_ok a
  | error e => exact fun hends => h e (endsUnreported_error_iff.1 hends)

/-- Of the values that cannot be written, those that lie too deeply within each other are not
reported. -/
theorem endsUnreported_unwritable_iff {α : Type} {x : Except Yaml.WriteFault α} :
    EndsUnreported path (x.mapError .unwritable) ↔ x = .error .tooDeep := by
  cases x with
  | ok a => exact iff_of_false (not_endsUnreported_ok a) nofun
  | error fault =>
    cases fault with
    | tooManyDigits => exact iff_of_false (mt endsUnreported_error_iff.1 nofun) nofun
    | tooDeep => exact iff_of_true (endsUnreported_error_iff.2 rfl) rfl

theorem endsUnreported_lineOf_iff {v : Yaml.Value} :
    EndsUnreported path (lineOf v) ↔ v.isNoLine = true := by
  have hbadLine : ∀ message, (RuleFileError.badLine message).message? path ≠ none := nofun
  cases v with
  | null | date _ | moment _ | pair _ _ | collection _ =>
    exact iff_of_true (endsUnreported_error_iff.2 rfl) rfl
  | int _ | bool _ => exact iff_of_false (not_endsUnreported_ok _) Bool.false_ne_true
  | notANumber _ =>
    exact iff_of_false (mt endsUnreported_error_iff.1 (hbadLine _)) Bool.false_ne_true
  | text s =>
    exact iff_of_false (not_endsUnreported_mapError fun _ => hbadLine _) Bool.false_ne_true
  | bytes data =>
    exact iff_of_false (not_endsUnreported_mapError fun _ => hbadLine _) Bool.false_ne_true
  | real x =>
    cases x with
    | finite _ _ _ => exact iff_of_false (not_endsUnreported_ok _) Bool.false_ne_true
    | infinite _ | notANumber => exact iff_of_true (endsUnreported_error_iff.2 rfl) rfl

theorem endsUnreported_lineItems_iff {v : Yaml.Value} :
    EndsUnreported path (lineItems d v) ↔ hasNoLines d v = true := by
  cases v with
  | int _ | bool _ | text _ | bytes _ | pair _ _ =>
    exact iff_of_false (not_endsUnreported_ok _) Bool.false_ne_true
  | null | real _ | notANumber _ | date _ | moment _ =>
    exact iff_of_true (endsUnreported_error_iff.2 rfl) rfl
  | collection n =>
    simp only [lineItems, hasNoLines]
    cases d.collection? (.collection n) with
    | none => exact iff_of_true (endsUnreported_error_iff.2 rfl) rfl
    | some c => cases c <;> exact iff_of_false (not_endsUnreported_ok _) Bool.false_ne_true

/-- The numbers of the lines of a row. -/
def rowLines (d : Yaml.Data) (row : Yaml.Value) : Except RuleFileError (List Int) :=
  match rowField? d row "lines" with
  | none => .ok []
  | some lines => lineItems d lines >>= List.mapM lineOf

theorem field?_getD_pairsOf? (name : String) :
    Yaml.Value.field? name ((pairsOf? d row).getD []) = rowField? d row name := by
  rw [rowField?]
  cases pairsOf? d row <;> rfl

theorem ruleOfEntry_of_no_pattern (h : rowField? d row "pattern" = none) :
    ruleOfEntry d row =
      (d.shown row).mapError .unwritable >>= fun shown => .error (.badEntry shown) := by
  rw [ruleOfEntry, field?_getD_pairsOf?, h]
  rfl

theorem ruleOfEntry_of_pattern (h : rowField? d row "pattern" = some pattern) :
    ruleOfEntry d row =
      (d.plain pattern).mapError .unwritable >>= fun text =>
        rowLines d row >>= fun lines => .ok ⟨String.ofList text, lines⟩ := by
  rw [ruleOfEntry, field?_getD_pairsOf?, field?_getD_pairsOf?, h, rowLines]
  cases rowField? d row "lines" with
  | none => rfl
  | some lines => simp only [Option.map_some, Option.getD_some, bind_assoc]

theorem rowLines_eq_ok_iff {numbers : List Int} :
    rowLines d row = .ok numbers ↔
      match rowField? d row "lines" with
      | none => numbers = []
      | some value => ∃ items, lineItems d value = .ok items ∧
        List.Forall₂ (fun item n => lineOf item = .ok n) items numbers := by
  rw [rowLines]
  cases rowField? d row "lines" with
  | none => exact ⟨fun h => (Except.ok.inj h).symm, fun h => h ▸ rfl⟩
  | some value => simp only [bind_eq_ok_iff, mapM_eq_ok_iff]

theorem endsUnreported_rowLines_iff :
    EndsUnreported path (rowLines d row) ↔
      ∃ value, rowField? d row "lines" = some value ∧
        (hasNoLines d value = true ∨ ∃ done item rest,
          lineItems d value = .ok (done ++ item :: rest) ∧
            (∀ v ∈ done, ∃ n, lineOf v = .ok n) ∧ item.isNoLine = true) := by
  rw [rowLines]
  cases rowField? d row "lines" with
  | none => exact iff_of_false (not_endsUnreported_ok []) nofun
  | some value =>
    simp only [endsUnreported_bind_iff, endsUnreported_lineItems_iff, endsUnreported_mapM_iff,
      endsUnreported_lineOf_iff, Option.some.injEq, exists_eq_left']
    refine or_congr_right ⟨?_, ?_⟩
    · rintro ⟨_, hitems, done, item, rest, rfl, hitem⟩
      exact ⟨done, item, rest, hitems, hitem⟩
    · rintro ⟨done, item, rest, hitems, hitem⟩
      exact ⟨_, hitems, done, item, rest, rfl, hitem⟩

/-- A row gives the rule that it says, and no other. -/
theorem ruleOfEntry_eq_ok_iff {rule : Suppression} :
    ruleOfEntry d row = .ok rule ↔ IsRuleOf d row rule := by
  cases hpattern : rowField? d row "pattern" with
  | none =>
    rw [ruleOfEntry_of_no_pattern hpattern, bind_eq_ok_iff]
    constructor
    · rintro ⟨_, -, h⟩
      cases h
    · rintro ⟨⟨value, hvalue, -⟩, -⟩
      cases hpattern.symm.trans hvalue
  | some pattern =>
    simp only [ruleOfEntry_of_pattern hpattern, bind_eq_ok_iff, mapError_eq_ok_iff]
    constructor
    · rintro ⟨text, htext, lines, hlines, h⟩
      cases h
      refine ⟨⟨pattern, hpattern, ?_⟩, rowLines_eq_ok_iff.1 hlines⟩
      rw [htext, String.toList_ofList]
    · rintro ⟨⟨value, hvalue, htext⟩, hlines⟩
      obtain rfl := Option.some.inj (hpattern.symm.trans hvalue)
      refine ⟨rule.pattern.toList, htext, rule.lines, rowLines_eq_ok_iff.2 hlines, ?_⟩
      rw [String.ofList_toList]

/-- A row ends the run without a message just as the kinds of its values tell. -/
theorem endsUnreported_ruleOfEntry_iff :
    EndsUnreported path (ruleOfEntry d row) ↔ StopsAt d row := by
  cases hpattern : rowField? d row "pattern" with
  | none =>
    rw [ruleOfEntry_of_no_pattern hpattern, endsUnreported_bind_iff, endsUnreported_unwritable_iff]
    constructor
    · rintro (hdeep | ⟨shown, -, h⟩)
      · exact .deepRow hpattern hdeep
      · cases endsUnreported_error_iff.1 h
    · intro h
      cases h with
      | deepRow _ hdeep => exact .inl hdeep
      | deepPattern h | noLines h | noLine h => cases hpattern.symm.trans h
  | some pattern =>
    rw [ruleOfEntry_of_pattern hpattern, endsUnreported_bind_iff, endsUnreported_unwritable_iff]
    constructor
    · rintro (hdeep | ⟨text, htext, h⟩)
      · exact .deepPattern hpattern hdeep
      · rw [mapError_eq_ok_iff] at htext
        rcases endsUnreported_bind_iff.1 h with h | ⟨_, -, h⟩
        · obtain ⟨value, hlines, hnone | ⟨done, item, rest, hitems, hdone, hitem⟩⟩ :=
            endsUnreported_rowLines_iff.1 h
          · exact .noLines hpattern htext hlines hnone
          · exact .noLine hpattern htext hlines hitems hdone hitem
        · exact absurd h (not_endsUnreported_ok _)
    · intro h
      cases h with
      | deepRow h => cases hpattern.symm.trans h
      | deepPattern h hdeep =>
        obtain rfl := Option.some.inj (hpattern.symm.trans h)
        exact .inl hdeep
      | noLines h htext hlines hnone =>
        obtain rfl := Option.some.inj (hpattern.symm.trans h)
        refine .inr ⟨_, mapError_eq_ok_iff.2 htext, endsUnreported_bind_iff.2 (.inl ?_)⟩
        exact endsUnreported_rowLines_iff.2 ⟨_, hlines, .inl hnone⟩
      | noLine h htext hlines hitems hdone hitem =>
        obtain rfl := Option.some.inj (hpattern.symm.trans h)
        refine .inr ⟨_, mapError_eq_ok_iff.2 htext, endsUnreported_bind_iff.2 (.inl ?_)⟩
        exact endsUnreported_rowLines_iff.2 ⟨_, hlines, .inr ⟨_, _, _, hitems, hdone, hitem⟩⟩

end Row

/-! ### All rows -/

section Rows

variable {d : Yaml.Data} {path : Path}

theorem rulesOfData_eq (d : Yaml.Data) :
    rulesOfData d = match rows? d with
      | some rows => rows.mapM (ruleOfEntry d)
      | none => .error .notAList := by
  rw [rulesOfData, rows?]
  split
  · rfl
  · cases d.collection? d.root with
    | none => rfl
    | some c => cases c <;> rfl

theorem rulesOfData_eq_ok_iff {rules : List Suppression} :
    rulesOfData d = .ok rules ↔
      ∃ rows, rows? d = some rows ∧ List.Forall₂ (IsRuleOf d) rows rules := by
  rw [rulesOfData_eq]
  cases rows? d with
  | none => simp
  | some rows => simp [mapM_eq_ok_iff, ruleOfEntry_eq_ok_iff]

theorem endsUnreported_rulesOfData_iff :
    EndsUnreported path (rulesOfData d) ↔ StopsLoading d := by
  rw [rulesOfData_eq, StopsLoading]
  cases rows? d with
  | none => simp [endsUnreported_error_iff, RuleFileError.message?]
  | some rows =>
    simp [endsUnreported_mapM_iff, ruleOfEntry_eq_ok_iff, endsUnreported_ruleOfEntry_iff]

end Rows

/-! ### Rule files -/

section File

variable {read : List Char → Except Yaml.ReadError Yaml.Data} {files : Snapshot} {path : Path}
  {text : List Char} {data : Yaml.Data}

theorem loadRules_eq_map (htext : readRuleText files path = .ok text)
    (hdata : read text = .ok data) :
    loadRules files (some path) read = (rulesOfData data).map (builtinSuppressions ++ ·) := by
  simp only [loadRules, htext, hdata]

theorem endsUnreported_map_iff {α β : Type} {x : Except RuleFileError α} {f : α → β} :
    EndsUnreported path (x.map f) ↔ EndsUnreported path x := by
  cases x with
  | ok a => exact iff_of_false (not_endsUnreported_ok _) (not_endsUnreported_ok _)
  | error e => exact endsUnreported_error_iff.trans endsUnreported_error_iff.symm

/-- A run without rules prints the message about it and exits with a failure; without a message the
error escapes. -/
theorem scanDirectory_of_error {e : RuleFileError} {setup : Except SetupFault Grammar}
    {s : Settings} {directory : Path} (hfile : s.rulesFile = some path)
    (h : loadRules files (some path) read = .error e) :
    scanDirectory files setup s directory read =
      { exitCode := failureCode
        printed := Text.unwrapped ("Scanning directory: " ++ directory.text).toList ++
          match e.message? path with
          | some message => Text.wrapped ("Error loading suppressions: " ++ message).toList
          | none => []
        escape := if e.message? path = none then some (.rules e) else none } := by
  simp only [scanDirectory, hfile, h, Option.getD_some]
  cases e.message? path <;> simp

/-- A run ends with an error about its rules that escapes if and only if there is one without a
message. -/
theorem exists_escape_iff {setup : Except SetupFault Grammar} {s : Settings} {directory : Path}
    (hfile : s.rulesFile = some path) :
    (∃ e, (scanDirectory files setup s directory read).escape = some (.rules e)) ↔
      EndsUnreported path (loadRules files (some path) read) := by
  cases h : loadRules files (some path) read with
  | ok rules =>
    refine iff_of_false ?_ (not_endsUnreported_ok rules)
    rintro ⟨e, hescape⟩
    simp only [scanDirectory, hfile, h] at hescape
    split at hescape <;> cases hescape
  | error e =>
    rw [scanDirectory_of_error hfile h, endsUnreported_error_iff]
    cases e.message? path with
    | none => exact iff_of_true ⟨e, rfl⟩ rfl
    | some message => exact iff_of_false nofun nofun

/-- The message about rules that cannot be loaded is found by its first words. -/
theorem exists_wrapped_loadingMessage (message : String) :
    ∃ first others,
      Text.wrapped ("Error loading suppressions: " ++ message).toList = first :: others ∧
        "Error loading suppressions:".toList <+: first := by
  have hword : ∀ w ∈ ["Error".toList, "loading".toList] ++ ["suppressions".toList],
      Text.IsPlainWord w ∧ ':' ∉ w := by decide
  obtain ⟨first, others, hlines, hfirst⟩ :=
    Text.exists_wrapped hword (by decide) message.toList
  refine ⟨first, others, ?_, hfirst⟩
  rw [String.toList_append]
  exact hlines

end File

/-- Whatever a rule file stands for, there are rules for all rows or an error that is reported
exactly if no row stops it. -/
theorem rules_loaded_or_reported_iff {read : List Char → Except Yaml.ReadError Yaml.Data}
    {files : Snapshot} {path : Path} {text : List Char} {data : Yaml.Data}
    (htext : readRuleText files path = .ok text) (hdata : read text = .ok data) :
    (∀ all, loadRules files (some path) read = .ok all ↔
      ∃ rows rules, rows? data = some rows ∧ List.Forall₂ (IsRuleOf data) rows rules ∧
        all = builtinSuppressions ++ rules) ∧
    (((∃ all, loadRules files (some path) read = .ok all) ∨
        ∃ e message, loadRules files (some path) read = .error e ∧
          e.message? path = some message) ↔
      ¬StopsLoading data) ∧
    ∀ (setup : Except SetupFault Grammar) (s : Settings) (directory : Path),
      s.rulesFile = some path →
      ((∃ e, (scanDirectory files setup s directory read).escape = some (.rules e)) ↔
        StopsLoading data) ∧
      ∀ e message, loadRules files (some path) read = .error e → e.message? path = some message →
        ∃ first others,
          Text.wrapped ("Error loading suppressions: " ++ message).toList = first :: others ∧
          "Error loading suppressions:".toList <+: first ∧
          scanDirectory files setup s directory read =
            { exitCode := failureCode
              printed := Text.unwrapped ("Scanning directory: " ++ directory.text).toList ++
                first :: others } := by
  have hstops : EndsUnreported path (loadRules files (some path) read) ↔ StopsLoading data := by
    rw [loadRules_eq_map htext hdata, endsUnreported_map_iff, endsUnreported_rulesOfData_iff]
  refine ⟨fun all => ?_, ?_, fun setup s directory hfile => ⟨?_, ?_⟩⟩
  · rw [loadRules_eq_map htext hdata]
    constructor
    · intro h
      cases hrules : rulesOfData data with
      | error e =>
        rw [hrules] at h
        cases h
      | ok rules =>
        rw [hrules] at h
        obtain ⟨rows, hrows, hrules⟩ := rulesOfData_eq_ok_iff.1 hrules
        exact ⟨rows, rules, hrows, hrules, (Except.ok.inj h).symm⟩
    · rintro ⟨rows, rules, hrows, hrules, rfl⟩
      rw [rulesOfData_eq_ok_iff.2 ⟨rows, hrows, hrules⟩]
      rfl
  · rw [← hstops, not_endsUnreported_iff]
  · rw [← hstops, exists_escape_iff hfile]
  · intro e message herror hmessage
    obtain ⟨first, others, hlines, hfirst⟩ := exists_wrapped_loadingMessage message
    refine ⟨first, others, hlines, hfirst, ?_⟩
    rw [scanDirectory_of_error hfile herror, hmessage, ← hlines]
    rfl

/-- The files of a directory with one rule file of the given text. -/
private def withRules (text : String) : Snapshot :=
  (FileTree.directory [("rules.yaml", .file (Text.utf8 text.toList))]).snapshot

/-- The rows have a list of a text, a fraction and a truth value, a single number, and no lines;
each has a rule. -/
theorem rules_loaded_or_reported_iff_mixed :
    let path : Path := ⟨"", ["rules.yaml"]⟩
    let text := "- pattern: a*.c\n  lines: [1, '4', 1.9, yes]\n- pattern: 3\n  lines: 7\n" ++
      "- pattern: b\n"
    let rules : List Suppression := [⟨"a*.c", [1, 4, 1, 1]⟩, ⟨"3", [7]⟩, ⟨"b", []⟩]
    readRuleText (withRules text) path = .ok text.toList ∧
      ∃ data, Yaml.Data.ofText text.toList = .ok data ∧ ¬StopsLoading data ∧
        ∃ rows, rows? data = some rows ∧ List.Forall₂ (IsRuleOf data) rows rules := by
  intro path text rules
  have htext : readRuleText (withRules text) path = .ok text.toList := by decide +kernel
  have hload : loadRules (withRules text) (some path) = .ok (builtinSuppressions ++ rules) := by
    decide +kernel
  have hread : (Yaml.Data.ofText text.toList).isOk = true := by decide +kernel
  cases hdata : Yaml.Data.ofText text.toList with
  | error e =>
    rw [hdata] at hread
    cases hread
  | ok data =>
    obtain ⟨hok, hstops, -⟩ := rules_loaded_or_reported_iff htext hdata
    obtain ⟨rows, rules', hrows, hrules, hall⟩ := (hok _).1 hload
    obtain rfl := List.append_cancel_left hall
    exact ⟨htext, data, rfl, hstops.1 (.inl ⟨_, hload⟩), rows, hrows, hrules⟩

/-- A row with nothing under its lines: the file can be read, no rules are loaded, and the error
has no message and escapes. -/
theorem rule_without_lines_escapes :
    let path : Path := ⟨"", ["rules.yaml"]⟩
    let files := withRules "- pattern: a.c\n  lines:\n"
    let settings : Settings := { mode := .heuristic, rulesFile := some path }
    (readRuleText files path).isOk = true ∧
      loadRules files (some path) = .error .noLines ∧
      RuleFileError.noLines.message? path = none ∧
      (scanDirectory files (.error default) settings path).escape = some (.rules .noLines) := by
  intro path files settings
  have hload : loadRules files (some path) = .error .noLines := by decide +kernel
  refine ⟨by decide +kernel, hload, rfl, ?_⟩
  rw [scanDirectory_of_error rfl hload]
  rfl

end DefectScan
