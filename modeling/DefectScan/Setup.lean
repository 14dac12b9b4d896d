import DefectScan.Analysis

/-!
# Setting up the grammar

Whether syntax trees can be built is found out once, before the first file is analysed. A grammar
that cannot be set up is noted, and the analysis goes on without trees.
-/

namespace DefectScan

/-- Why the grammar could not be set up. -/
inductive SetupFault where
  /-- It is not installed. -/
  | notInstalled (detail : String)
  /-- It does not load. -/
  | unloadable (detail : String)
  /-- Something else went wrong. -/
  | other (message : String)
  deriving DecidableEq, Repr, Inhabited

/-- The reason given for a fault. -/
def SetupFault.reason : SetupFault → String
  | .notInstalled detail =>
    "Failed to initialize C parser. Make sure tree-sitter-c is installed: " ++
      "pip install tree-sitter-c. Error: " ++ detail
  | .unloadable detail => "Failed to initialize C parser: " ++ detail
  | .other message => message

/-- Whether syntax trees can be built, given how setting up the grammar went. -/
def probe (isStrict : Bool) : Except SetupFault Grammar → Logged Availability
  | .ok grammar => .silent (.available { grammar := some grammar, isStrict })
  | .error fault =>
    .note .warning .setup
      ("AST parser unavailable, falling back to text analysis: " ++ fault.reason)
      (.unavailable fault.reason)

end DefectScan
