import DefectScan.Analysis
import DefectScan.Settings.Bindings
import DefectScan.Text.LowerCase
import DefectScan.Text.Path

/-!
# Settings

How a scan is run, as far as the user can choose. A setting is given as a text under its name;
names are compared without regard to case. Every text that cannot be read is reported.
-/

namespace DefectScan

/-- What the user can choose. -/
structure Settings where
  /-- Which checks a file goes through. -/
  mode : Mode := .auto
  /-- Whether the order of writes counts. -/
  flow : Bool := false
  /-- Whether a file with syntax errors counts as a file without a tree. -/
  isStrict : Bool := true
  /-- Whether more is said than the report. -/
  isVerbose : Bool := false
  /-- The directory that is scanned when none is named. -/
  directory : Path := { names := ["samples"] }
  /-- The file with further suppression rules. -/
  rulesFile : Option Path := none
  deriving DecidableEq, Repr, Inhabited

/-- The settings by name. -/
inductive SettingName where
  | mode
  | flow
  | isStrict
  | isVerbose
  | directory
  | rulesFile
  deriving DecidableEq, Repr, Inhabited

namespace SettingName

/-- The name of a setting, as it is written. -/
def label : SettingName → String
  | .mode => "mode"
  | .flow => "flow_sensitive"
  | .isStrict => "strict_parse"
  | .isVerbose => "verbose"
  | .directory => "default_directory"
  | .rulesFile => "suppressions_file"

/-- The variable that holds a setting, in small letters. -/
def variableName (name : SettingName) : List Char := ("cscan_" ++ name.label).toList

end SettingName

/-- What is wrong with a given text. -/
inductive SettingFault where
  /-- It names no mode. -/
  | unknownMode
  /-- It is neither a yes nor a no. -/
  | notBoolean
  deriving DecidableEq, Repr, Inhabited

/-- The mode of a given name. -/
def Mode.ofLabel? : String → Option Mode
  | "auto" => some .auto
  | "heuristic" => some .heuristic
  | _ => none

/-- Read a yes or a no, in any case. -/
def readBoolean? (text : String) : Option Bool :=
  let word := text.map Char.toLower
  if ["1", "true", "t", "yes", "y", "on"].contains word then some true
  else if ["0", "false", "f", "no", "n", "off"].contains word then some false
  else none

/-- The value of a setting: its default if it is not given. -/
def settle (default : α) (fault : SettingFault) (read : String → Option α) :
    Option String → Except SettingFault α
  | none => .ok default
  | some text =>
    match read text with
    | some a => .ok a
    | none => .error fault

/-- The settings from the texts given for them, or every setting that cannot be read. -/
def Settings.ofTexts (given : SettingName → Option String) :
    Except (List (SettingName × SettingFault)) Settings :=
  let mode := settle .auto .unknownMode Mode.ofLabel? (given .mode)
  let flow := settle false .notBoolean readBoolean? (given .flow)
  let isStrict := settle true .notBoolean readBoolean? (given .isStrict)
  let isVerbose := settle false .notBoolean readBoolean? (given .isVerbose)
  match mode, flow, isStrict, isVerbose with
  | .ok mode, .ok flow, .ok isStrict, .ok isVerbose =>
    .ok
      { mode, flow, isStrict, isVerbose
        directory := ((given .directory).map Path.ofString).getD { names := ["samples"] }
        rulesFile := (given .rulesFile).map Path.ofString }
  | mode, flow, isStrict, isVerbose =>
    .error (faultOf .mode mode ++ faultOf .flow flow ++ faultOf .isStrict isStrict ++
      faultOf .isVerbose isVerbose)
where
  /-- The fault of a setting, if it has one. -/
  faultOf {α : Type} (name : SettingName) :
      Except SettingFault α → List (SettingName × SettingFault)
    | .ok _ => []
    | .error fault => [(name, fault)]

end DefectScan
