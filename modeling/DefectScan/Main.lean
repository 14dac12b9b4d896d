import DefectScan.Command.Run
import DefectScan.Grammar.Language

/-!
# The command

Looks at the files and variables that a run needs, runs the command on them, and prints what it
leaves behind.
-/

namespace DefectScan

/-- The fault behind an error of the system. -/
def faultOf : IO.Error → SystemFault
  | .alreadyExists _ number details | .otherError number details | .resourceBusy number details
  | .resourceVanished number details | .unsupportedOperation number details
  | .hardwareFault number details | .unsatisfiedConstraints number details
  | .illegalOperation number details | .protocolError number details
  | .timeExpired number details | .interrupted _ number details
  | .noFileOrDirectory _ number details | .invalidArgument _ number details
  | .permissionDenied _ number details | .resourceExhausted _ number details
  | .inappropriateType _ number details | .noSuchThing _ number details =>
    ⟨number.toNat, details⟩
  | .unexpectedEof => ⟨0, "end of file"⟩
  | .userError details => ⟨0, details⟩

/-- The value of an action, or what stands for the fault at which it fails. -/
def orFault (action : IO α) (place : SystemFault → α) : IO α := do
  try action catch error => return place (faultOf error)

/-- What stands at a path of the file system. Reading from a device or a pipe may take long, so it
is left out where only files count. -/
def lookAt (path : Path) (filesOnly : Bool := false) : IO Place := do
  let place := (← IO.currentDir) / path.text
  let look := do
    match (← place.metadata).type with
    | .dir =>
      orFault (return .directory ((← place.readDir).toList.map (·.fileName))) fun fault =>
        .closed (fault.message path)
    | .other =>
      if filesOnly then return .special []
      orFault (return .special (← IO.FS.readBinFile place).toList) fun fault =>
        .locked (fault.message path)
    | _ =>
      orFault (return .file (← IO.FS.readBinFile place).toList) fun fault =>
        .locked (fault.message path)
  orFault look .unreachable

/-- The given places and nothing else. -/
def snapshotOf (places : List (Path × Place)) : Snapshot := fun path =>
  (places.lookup path).getD .nothing

/-- What stands at the given paths. -/
def lookAtAll (paths : List Path) (filesOnly : Bool := false) : IO (List (Path × Place)) :=
  paths.mapM fun path => do return (path, ← lookAt path filesOnly)

/-- The variables that hold settings. -/
def settingVariables : IO (List (String × String)) := do
  let mut found := []
  for name in [SettingName.mode, .flow, .isStrict, .isVerbose, .directory, .rulesFile] do
    let variableName := (String.ofList name.variableName).map Char.toUpper
    if let some value ← IO.getEnv variableName then
      found := found ++ [(variableName, value)]
  return found

/-- What stands where the home directory has its settings file. -/
def lookAtHomeSettings : IO Place := do
  let some home ← IO.getEnv "HOME" | return .nothing
  lookAt (settingsFileOf (.ofString home))

/-- The files that a run with the given options looks at, and what else it finds around it. -/
def lookAround (o : Options) : IO Surroundings := do
  let asked := o.directory.map settingsFileOf
  let settingsFiles ← lookAtAll (asked.toList ++ [{ names := [settingsFileName] }])
  let around : Surroundings :=
    { files := snapshotOf settingsFiles
      environment := ← settingVariables
      homeSettings := ← lookAtHomeSettings }
  match loadSettings around asked with
  | .error _ => return around
  | .ok settings =>
    let settings := settings.withOptions o
    let directory := o.directory.getD settings.directory
    let place ← lookAt directory
    let names :=
      match place with
      | .directory names => names.filter fun n => sourceSuffixes.contains (suffixOf n)
      | _ => []
    let sources ← lookAtAll (names.map directory.child) true
    let rules ← lookAtAll settings.rulesFile.toList
    return { around with
      files := snapshotOf (settingsFiles ++ (directory, place) :: sources ++ rules) }

end DefectScan

open DefectScan in
/-- Run the command and print what it leaves behind. -/
def main (arguments : List String) : IO UInt32 := do
  let o := (Options.ofArguments? arguments).getD {}
  let result := runCommand (← lookAround o) (.ok Grammar.cLanguage) arguments
  for line in result.printed do
    IO.println (String.ofList line)
  return result.exitCode.toUInt32
