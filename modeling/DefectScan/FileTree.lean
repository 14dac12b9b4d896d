import DefectScan.Text.Lines
import DefectScan.Text.Path
import DefectScan.Text.Quoted
import DefectScan.Text.Utf8

/-!
# Files

What a program can see of a file system is what stands at each path. A snapshot says just that,
so everything that depends on files is a function of a snapshot. The names of a directory come in
whatever order the system lists them, and nothing may depend on it. A file tree is a snapshot
written down: the files and directories below the working directory.
-/

namespace DefectScan

/-- Why the system does not let one at a path: its number for the error, and what it calls it. -/
structure SystemFault where
  /-- The number. -/
  number : Nat
  /-- The description. -/
  description : String
  deriving DecidableEq, Repr, Inhabited

namespace SystemFault

/-- Nothing stands there. -/
def missing : SystemFault := ⟨2, "No such file or directory"⟩

/-- The way there leads through a file. -/
def notDirectory : SystemFault := ⟨20, "Not a directory"⟩

/-- A directory stands there. -/
def isDirectory : SystemFault := ⟨21, "Is a directory"⟩

/-- The path or a name on the way is longer than it can be. -/
def nameTooLong : SystemFault := ⟨36, "File name too long"⟩

/-- The numbers of the faults at which a path counts as one where nothing stands: besides those of
missing files and of ways through files, those of closed descriptors and of endless links. -/
def absenceNumbers : List Nat := [2, 20, 9, 40]

/-- Whether nothing stands at a path with this fault. -/
def isAbsence (fault : SystemFault) : Bool := absenceNumbers.contains fault.number

/-- The message about a fault at a path. -/
def message (path : Path) (fault : SystemFault) : String :=
  "[Errno " ++ toString fault.number ++ "] " ++ fault.description ++ ": " ++
    Text.quotedString path.text

end SystemFault

/-- What stands at a path. -/
inductive Place where
  /-- Nothing that can be looked at. -/
  | unreachable (fault : SystemFault)
  /-- A file with the given bytes. -/
  | file (bytes : List UInt8)
  /-- A file that cannot be opened or read. -/
  | locked (reason : String)
  /-- A device, a pipe or the like, from which the given bytes can be read. -/
  | special (bytes : List UInt8)
  /-- A directory with the names of its entries, in no particular order. -/
  | directory (names : List String)
  /-- A directory whose entries cannot be listed. -/
  | closed (reason : String)
  deriving DecidableEq, Repr, Inhabited

/-- What stands at each path. -/
abbrev Snapshot := Path → Place

namespace Place

/-- Nothing. -/
def nothing : Place := .unreachable .missing

/-- Whether there is a file. -/
def isFile : Place → Bool
  | .file _ | .locked _ => true
  | .unreachable _ | .special _ | .directory _ | .closed _ => false

/-- Whether there is anything. -/
def isPresent : Place → Bool
  | .unreachable _ => false
  | .file _ | .locked _ | .special _ | .directory _ | .closed _ => true

/-- The fault that leaves it open whether there is anything. -/
def fault? : Place → Option SystemFault
  | .unreachable fault => if fault.isAbsence then none else some fault
  | .file _ | .locked _ | .special _ | .directory _ | .closed _ => none

end Place

/-! ### Reading texts -/

/-- Why a text could not be read. -/
inductive FileFault where
  /-- The system does not let one at it. -/
  | system (fault : SystemFault)
  /-- It cannot be opened or read. -/
  | locked (reason : String)
  /-- There is a null character in the path, which no name can have. -/
  | hasNull
  /-- Its bytes are no text. -/
  | damaged (damage : Text.Damage)
  deriving DecidableEq, Repr, Inhabited

/-- The reason given for a fault at a path. -/
def FileFault.reason (path : Path) : FileFault → String
  | .system fault => fault.message path
  | .locked reason => reason
  | .hasNull => "embedded null byte"
  | .damaged damage => damage.message

/-- The message about a source file that could not be read. -/
def FileFault.message (path : Path) (fault : FileFault) : String :=
  "Failed to read file " ++ path.text ++ ": " ++ fault.reason path

/-- The text of a byte sequence with plain line ends, or its first damaged part. -/
def textOf (bytes : List UInt8) : Except Text.Damage (List Char) :=
  (Text.ofUtf8 bytes).map Text.plainLineEnds

/-- The text at a path. -/
def Snapshot.readText (files : Snapshot) (path : Path) : Except FileFault (List Char) :=
  if path.hasNull then .error .hasNull
  else
    match files path with
    | .unreachable fault => .error (.system fault)
    | .directory _ | .closed _ => .error (.system .isDirectory)
    | .locked reason => .error (.locked reason)
    | .file bytes | .special bytes => (textOf bytes).mapError .damaged

/-! ### Trees -/

/-- A file, or a directory with its entries. -/
inductive FileTree where
  | file (bytes : List UInt8)
  | directory (entries : List (String × FileTree))
  deriving Inhabited

namespace FileTree

/-- The entries of a directory; a file has none. -/
def entries : FileTree → List (String × FileTree)
  | .file _ => []
  | .directory entries => entries

/-- The entries with the one of the given name replaced, or with a new one at the end. -/
def putEntry (name : String) (tree : FileTree) :
    List (String × FileTree) → List (String × FileTree)
  | [] => [(name, tree)]
  | e :: es => if e.1 = name then (name, tree) :: es else e :: putEntry name tree es

/-- Put a file at the end of the given names, with the directories on the way. -/
def putFile (bytes : List UInt8) : List String → FileTree → FileTree
  | [], _ => .file bytes
  | n :: names, tree =>
    let below := (tree.entries.lookup n).getD (.directory [])
    .directory (putEntry n (putFile bytes names below) tree.entries)

/-- Make the directories along the given names. -/
def putDirectory : List String → FileTree → FileTree
  | [], tree => .directory tree.entries
  | n :: names, tree =>
    let below := (tree.entries.lookup n).getD (.directory [])
    .directory (putEntry n (putDirectory names below) tree.entries)

/-- What a tree is to someone who looks at its root. -/
def place : FileTree → Place
  | .file bytes => .file bytes
  | .directory entries => .directory (entries.map Prod.fst)

/-- How many bytes a name can have. -/
def nameLimit : Nat := 255

/-- How many bytes a path can have. -/
def pathLimit : Nat := 4095

/-- What stands at the end of the given names, seen from `here`, with the directories `above` it,
nearest first. Above the outermost directory nothing is known but that there is a directory. -/
def walk (here : FileTree) (above : List FileTree) : List String → Place
  | [] => here.place
  | n :: names =>
    match here with
    | .file _ => .unreachable .notDirectory
    | .directory entries =>
      if n = ".." then
        match above with
        | [] => walk (.directory []) [] names
        | up :: above => walk up above names
      else if n.utf8ByteSize > nameLimit then .unreachable .nameTooLong
      else
        match entries.lookup n with
        | none => .nothing
        | some next => walk next (here :: above) names

/-- What stands at each path, seen from a tree as the working directory. Of absolute paths, only
the root is known. -/
def snapshot (tree : FileTree) : Snapshot := fun path =>
  if pathLimit < path.text.utf8ByteSize then .unreachable .nameTooLong
  else if path.isAbsolute then
    if path.names.isEmpty then .directory []
    else if path.names.head?.any (·.utf8ByteSize > nameLimit) then .unreachable .nameTooLong
    else .nothing
  else walk tree [] path.names

end FileTree

/-- The snapshot with every directory closed. -/
def Snapshot.closeDirectories (reason : String) (files : Snapshot) : Snapshot := fun path =>
  match files path with
  | .directory _ => .closed reason
  | place => place

end DefectScan
