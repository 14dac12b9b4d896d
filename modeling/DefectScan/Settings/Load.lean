import DefectScan.FileTree
import DefectScan.Settings.Basic

/-!
# Where settings come from

A setting is taken from the variable that holds it, or else from a settings file. The settings
file is the one asked for; if there is none, the one in the home directory; if there is none
either, the one in the working directory. A tilde at the beginning of the path asked for stands
for the home directory, but only once there is a file at that path as it is written.
-/

namespace DefectScan

/-- What a run finds around it. -/
structure Surroundings where
  /-- The files. -/
  files : Snapshot
  /-- The variables with their values; of two with one name the later counts. -/
  environment : List (String × String) := []
  /-- What stands where the home directory has its settings file. -/
  homeSettings : Place := .nothing
  /-- The names of those who have home directories, in which nothing is found. -/
  accounts : List String := ["root"]

/-- Why there are no settings. -/
inductive SettingsError where
  /-- Some settings cannot be read. -/
  | invalid (faults : List (SettingName × SettingFault))
  /-- The settings file is no text. -/
  | damaged (damage : Text.Damage)
  /-- The system does not tell what stands at the path of a settings file. -/
  | unreachable (fault : SystemFault)
  /-- The settings file cannot be opened or read. -/
  | locked (reason : String)
  /-- The settings file is asked for in the home directory of someone who has none. -/
  | noHome
  deriving DecidableEq, Repr, Inhabited

/-- The name of a settings file. -/
def settingsFileName : String := ".cscanrc"

/-- The settings file of a directory. -/
def settingsFileOf (directory : Path) : Path := directory.child settingsFileName

namespace Surroundings

/-- Whether there is anything at a place where a settings file is looked for. -/
def isThere (place : Place) : Except SettingsError Bool :=
  match place.fault? with
  | some fault => .error (.unreachable fault)
  | none => .ok place.isPresent

/-- The bytes of a settings file; what is no file counts as empty. -/
def settingsBytes (place : Place) : Except SettingsError (List UInt8) :=
  match place with
  | .file bytes => .ok bytes
  | .locked reason => .error (.locked reason)
  | .unreachable _ | .special _ | .directory _ | .closed _ => (isThere place).map fun _ => []

/-- The bytes of the settings file at a path, where a tilde stands for a home directory. -/
def settingsAt (around : Surroundings) (path : Path) : Except SettingsError (List UInt8) :=
  match path.isAbsolute, path.names with
  | false, first :: rest =>
    match first.toList with
    | ['~'] =>
      if rest = [settingsFileName] then settingsBytes around.homeSettings else .ok []
    | '~' :: name =>
      if around.accounts.contains (String.ofList name) then .ok [] else .error .noHome
    | _ => settingsBytes (around.files path)
  | _, _ => settingsBytes (around.files path)

/-- The bytes of the settings file that counts, when the given one is asked for. -/
def chooseSettings (around : Surroundings) (asked : Option Path) :
    Except SettingsError (List UInt8) := do
  if ← isThere ((asked.map around.files).getD .nothing) then around.settingsAt (asked.getD {})
  else if ← isThere around.homeSettings then settingsBytes around.homeSettings
  else settingsBytes (around.files { names := [settingsFileName] })

/-- The variables as bindings. -/
def variableBindings (around : Surroundings) : List Binding :=
  around.environment.foldl (fun done v => Binding.put ⟨v.1.toList, some v.2.toList⟩ done) []

end Surroundings

/-- What the last binding of a variable says, names being compared without regard to case. -/
def lookupVariable? (bindings : List Binding) (sought : List Char) : Option (List Char) :=
  ((bindings.filter fun b => Text.lower b.name = sought).getLast?).bind Binding.value

/-- The settings of a run, when the given settings file is asked for. -/
def loadSettings (around : Surroundings) (asked : Option Path) : Except SettingsError Settings :=
  match around.chooseSettings asked with
  | .error e => .error e
  | .ok bytes =>
    match textOf bytes with
    | .error damage => .error (.damaged damage)
    | .ok text =>
      let outer := around.variableBindings
      let bindings := Binding.resolve outer (Binding.ofText text)
      let given (name : SettingName) :=
        ((lookupVariable? outer name.variableName).orElse fun _ =>
          lookupVariable? bindings name.variableName).map String.ofList
      (Settings.ofTexts given).mapError .invalid

end DefectScan
