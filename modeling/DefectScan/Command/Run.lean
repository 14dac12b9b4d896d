import DefectScan.Command.Options
import DefectScan.Directory
import DefectScan.Report
import DefectScan.RuleFile
import DefectScan.Settings.Load
import DefectScan.Setup

/-!
# Runs of the command

A run is a function of the command line and of what it finds around it. It prints the directory it
scans, then the report, or why there is none. Some errors it does not know how to report; then it
stops with what was printed so far.
-/

namespace DefectScan

/-- An error that ends a run without a message of its own. -/
inductive Escape where
  /-- There are no settings. -/
  | settings (error : SettingsError)
  /-- There are no rules. -/
  | rules (error : RuleFileError)
  /-- The system does not tell what stands at the path of the directory or of an entry. -/
  | unreachable (path : Path) (fault : SystemFault)
  deriving Inhabited

/-- What a run leaves behind. -/
structure RunResult where
  /-- The exit code. -/
  exitCode : Nat := 0
  /-- The printed lines. -/
  printed : List (List Char) := []
  /-- The error that ended the run. -/
  escape : Option Escape := none
  /-- The notes written on the way. -/
  log : List LogEntry := []

/-- The exit code of a run that failed. -/
def failureCode : Nat := 1

/-- The exit code of a command line that is not understood. -/
def usageCode : Nat := 2

/-- The settings with what the command line asks for. -/
def Settings.withOptions (s : Settings) (o : Options) : Settings :=
  { s with
    mode := if o.heuristic then .heuristic else s.mode
    flow := o.flow || s.flow
    isVerbose := o.verbose || s.isVerbose
    rulesFile := o.rulesFile.orElse fun _ => s.rulesFile }

/-- Whether syntax trees can be built; where they are not wanted, nobody asks. -/
def Settings.availability (s : Settings) (setup : Except SetupFault Grammar) :
    Logged Availability :=
  match s.mode with
  | .heuristic => .silent (.unavailable "heuristic mode selected")
  | .auto => probe s.isStrict setup

/-- The analyzer of a run. -/
def Settings.analyzer (s : Settings) (availability : Availability) (rules : List Suppression) :
    Analyzer where
  mode := s.mode
  flow := s.flow
  availability := availability
  rules := rules

/-- Scan a directory. What the text of a rule file stands for is told by `read`. -/
def scanDirectory (files : Snapshot) (setup : Except SetupFault Grammar) (s : Settings)
    (directory : Path)
    (read : List Char → Except Yaml.ReadError Yaml.Data := Yaml.Data.ofText) : RunResult :=
  let heading := Text.unwrapped ("Scanning directory: " ++ directory.text).toList
  match loadRules files s.rulesFile read with
  | .error e =>
    match e.message? (s.rulesFile.getD {}) with
    | some message =>
      { exitCode := failureCode
        printed := heading ++ Text.wrapped ("Error loading suppressions: " ++ message).toList }
    | none => { exitCode := failureCode, printed := heading, escape := some (.rules e) }
  | .ok rules =>
    let result := (s.availability setup).andThen fun availability =>
      (s.analyzer availability rules).analyzeDirectory files directory
    match result.value with
    | .error (.unreachable path fault) =>
      { exitCode := failureCode
        printed := heading
        escape := some (.unreachable path fault)
        log := result.log }
    | .error e =>
      { exitCode := failureCode
        printed := heading ++ Text.wrapped ("Error: " ++ e.message).toList
        log := result.log }
    | .ok issues =>
      { printed := heading ++ printedIssues issues ++ [] :: panel, log := result.log }

/-- Run the command. -/
def runCommand (around : Surroundings) (setup : Except SetupFault Grammar)
    (arguments : List String) : RunResult :=
  match Options.ofArguments? arguments with
  | none => { exitCode := usageCode }
  | some o =>
    match loadSettings around (o.directory.map settingsFileOf) with
    | .error e => { exitCode := failureCode, escape := some (.settings e) }
    | .ok settings =>
      let settings := settings.withOptions o
      scanDirectory around.files setup settings (o.directory.getD settings.directory)

end DefectScan
