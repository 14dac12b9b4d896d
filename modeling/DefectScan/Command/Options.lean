import DefectScan.Text.Path

/-!
# Command-line options

The command takes one directory and some options, in any order. A long option is written out in
full, with its value in the next argument or after an equals sign. Short options may share one
dash, and the value of the last may follow directly. After two dashes everything is a directory.
-/

namespace DefectScan

/-- What a command line asks for. -/
structure Options where
  /-- The directory to be scanned. -/
  directory : Option Path := none
  /-- Whether only the scope check is wanted. -/
  heuristic : Bool := false
  /-- Whether the order of writes counts. -/
  flow : Bool := false
  /-- The file with further suppression rules. -/
  rulesFile : Option Path := none
  /-- Whether more is to be said than the report. -/
  verbose : Bool := false
  deriving DecidableEq, Repr, Inhabited

namespace Options

/-- The options without a value. -/
inductive Flag where
  | heuristic
  | flow
  | verbose
  deriving DecidableEq, Repr, Inhabited

/-- The options with a flag set. -/
def set (o : Options) : Flag → Options
  | .heuristic => { o with heuristic := true }
  | .flow => { o with flow := true }
  | .verbose => { o with verbose := true }

/-- The options with a rule file. -/
def withRules (o : Options) (file : String) : Options :=
  { o with rulesFile := some (.ofString file) }

/-- The flag with a long name. -/
def longFlag? : String → Option Flag
  | "--heuristic" => some .heuristic
  | "--flow-sensitive" => some .flow
  | "--verbose" => some .verbose
  | _ => none

/-- What an argument comes to. -/
inductive Reading where
  /-- The options with those of the argument. -/
  | read (o : Options)
  /-- The argument needs the next one as its value. -/
  | needsValue (o : Options)
  /-- There is no such option, or it is not used as it should be. -/
  | refused
  deriving Repr, Inhabited

/-- Read short options after their dash. -/
def readShort (o : Options) : List Char → Reading
  | [] => .read o
  | 'v' :: s => readShort (o.set .verbose) s
  | ['s'] => .needsValue o
  | 's' :: value => .read (o.withRules (String.ofList value))
  | _ => .refused

/-- Read an argument that begins with a dash. -/
def readOption (o : Options) (argument : String) : Reading :=
  let chars := argument.toList
  let name := String.ofList (chars.takeWhile (· != '='))
  let value? := (chars.dropWhile (· != '=')).tail?
  match longFlag? name, value? with
  | some flag, none => .read (o.set flag)
  | some _, some _ => .refused
  | none, _ =>
    if name = "--suppressions" then
      match value? with
      | some value => .read (o.withRules (String.ofList value))
      | none => .needsValue o
    else if argument.startsWith "--" then .refused
    else readShort o (chars.drop 1)

/-- The options with the directory that is left after all options. -/
def withDirectory (o : Options) : List String → Option Options
  | [] => some o
  | [directory] => some { o with directory := some (.ofString directory) }
  | _ => none

/-- Whether an argument holds options. -/
def isOption (argument : String) : Bool :=
  match argument.toList with
  | '-' :: _ :: _ => true
  | _ => false

/-- Read arguments after the options so far and the directories so far. -/
def readFrom (o : Options) (directories : List String) : List String → Option Options
  | [] => o.withDirectory directories
  | "--" :: rest => o.withDirectory (directories ++ rest)
  | argument :: rest =>
    if isOption argument then
      match readOption o argument, rest with
      | .read o, rest => readFrom o directories rest
      | .needsValue o, value :: rest => readFrom (o.withRules value) directories rest
      | .needsValue _, [] => none
      | .refused, _ => none
    else readFrom o (directories ++ [argument]) rest

/-- What a command line asks for, none if it is not understood. No path has a null character. -/
def ofArguments? (arguments : List String) : Option Options :=
  (readFrom {} [] arguments).filter fun o =>
    !o.directory.any Path.hasNull && !o.rulesFile.any Path.hasNull

end Options

end DefectScan
