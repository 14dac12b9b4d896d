import DefectScan.Analysis
import DefectScan.FileTree

/-!
# Analysis of a directory

The source files of a directory are analysed one after the other in the order of their names. A
file that cannot be read is noted and passed over. When the directory cannot be listed, it is
listed once more, and its files go through the body check alone.
-/

namespace DefectScan

/-- Why there is no list of source files. -/
inductive DirectoryError where
  /-- There is no such directory. -/
  | absent (directory : Path)
  /-- Its entries cannot be listed. -/
  | unlistable (directory : Path) (reason : String)
  /-- The system does not tell what stands at the path of the directory or of an entry. This is no
  error to recover from. -/
  | unreachable (path : Path) (fault : SystemFault)
  /-- Listing failed in some other way. -/
  | failed (message : String)
  deriving DecidableEq, Repr, Inhabited

/-- The message of an error. -/
def DirectoryError.message : DirectoryError → String
  | .absent directory =>
    "Directory " ++ directory.text ++ " does not exist or is not a directory"
  | .unlistable directory reason =>
    "Failed to list directory " ++ directory.text ++ ": " ++ reason
  | .unreachable path fault => fault.message path
  | .failed message => message

/-- The suffixes of source files. -/
def sourceSuffixes : List String := [".c"]

/-- Of the given names in a directory, those of files with one of the suffixes, in increasing
order. -/
def selectSources (files : Snapshot) (directory : Path) (suffixes names : List String) :
    List String :=
  (names.filter fun n => suffixes.contains (suffixOf n) && (files (directory.child n)).isFile)
    |>.mergeSort fun a b => decide (a ≤ b)

/-- The error at a path of which the system does not tell what stands there. -/
def Snapshot.lookError? (files : Snapshot) (path : Path) : Option DirectoryError :=
  (files path).fault?.map (.unreachable path)

/-- The error at a name in a directory, if it has one of the suffixes and so is looked at. -/
def Snapshot.nameError? (files : Snapshot) (directory : Path) (suffixes : List String)
    (name : String) : Option DirectoryError :=
  if suffixes.contains (suffixOf name) then files.lookError? (directory.child name) else none

/-- The paths of the source files directly in a directory, in the order of their names. The names
with one of the suffixes are looked at in the order of the listing. -/
def Snapshot.sourceFiles (files : Snapshot) (directory : Path)
    (suffixes : List String := sourceSuffixes) : Except DirectoryError (List Path) :=
  match files directory with
  | .directory names =>
    match names.findSome? (files.nameError? directory suffixes) with
    | some error => .error error
    | none => .ok ((selectSources files directory suffixes names).map directory.child)
  | .closed reason => .error (.unlistable directory reason)
  | .unreachable _ | .file _ | .locked _ | .special _ =>
    .error ((files.lookError? directory).getD (.absent directory))

/-- Read a source file. -/
def Snapshot.loadSource (files : Snapshot) (path : Path) : Except FileFault SourceFile :=
  (files.readText path).map (SourceFile.ofText path.text)

namespace Analyzer

/-- The reports of the given files, one after the other. -/
def analyzeFiles (a : Analyzer) (files : Snapshot) (paths : List Path) : Logged (List Issue) :=
  Logged.gather (fun path =>
    match files.loadSource path with
    | .ok source => a.analyze source
    | .error fault =>
      .note .error .analysis
        ("Error analyzing file " ++ path.text ++ ": " ++ fault.message path) []) paths

/-- The report of a file that goes through the body check alone. -/
def scanBodies (a : Analyzer) (source : SourceFile) : List Issue :=
  finish a.rules source ((bodyCheck source.lines).map (Sighting.issue source.path))

/-- The reports of the given files, all of which go through the body check alone. -/
def scanFiles (a : Analyzer) (files : Snapshot) (paths : List Path) : Logged (List Issue) :=
  Logged.gather (fun path =>
    match files.loadSource path with
    | .ok source => .silent (a.scanBodies source)
    | .error fault =>
      .note .error .directoryScan ("Skipping " ++ path.text ++ ": " ++ fault.message path) [])
    paths

/-- The report of a directory, given what a first and a second attempt to list it return. -/
def analyzeListings (a : Analyzer) (files : Snapshot) (directory : Path)
    (first second : Except DirectoryError (List Path)) :
    Logged (Except DirectoryError (List Issue)) :=
  match first with
  | .ok paths => (a.analyzeFiles files paths).map .ok
  | .error (.unreachable path fault) => .silent (.error (.unreachable path fault))
  | .error e =>
    Logged.andThen
      ⟨(), [⟨.error, .analysis,
          "Error analyzing directory " ++ directory.text ++ ": " ++ e.message⟩,
        ⟨.warning, .analysis, "Falling back to directory-level text analysis"⟩]⟩ fun _ =>
      match second with
      | .ok paths => (a.scanFiles files paths).map .ok
      | .error e => .silent (.error e)

/-- The report of a directory. -/
def analyzeDirectory (a : Analyzer) (files : Snapshot) (directory : Path) :
    Logged (Except DirectoryError (List Issue)) :=
  a.analyzeListings files directory (files.sourceFiles directory) (files.sourceFiles directory)

end Analyzer

end DefectScan
