/-!
# Log entries

What a run notes down beside its result. A `Logged` value is a result with the entries that were
written on the way to it, in order.
-/

namespace DefectScan

/-- How grave an entry is. -/
inductive LogLevel where
  | warning
  | error
  deriving DecidableEq, Repr, Inhabited

/-- The part of the program that writes an entry. -/
inductive LogOrigin where
  /-- The analysis of files and directories. -/
  | analysis
  /-- The scan of a directory without syntax trees. -/
  | directoryScan
  /-- Reading sites off a syntax tree. -/
  | treeReading
  /-- Setting up the grammar. -/
  | setup
  deriving DecidableEq, Repr, Inhabited

/-- A note. -/
structure LogEntry where
  /-- How grave it is. -/
  level : LogLevel
  /-- Who writes it. -/
  origin : LogOrigin
  /-- What it says. -/
  text : String
  deriving DecidableEq, Repr, Inhabited

/-- A result and the notes written on the way to it. -/
structure Logged (α : Type) where
  /-- The result. -/
  value : α
  /-- The notes, oldest first. -/
  log : List LogEntry := []
  deriving DecidableEq, Repr, Inhabited

namespace Logged

/-- A result without notes. -/
def silent (a : α) : Logged α := ⟨a, []⟩

/-- A result with a note. -/
def note (level : LogLevel) (origin : LogOrigin) (text : String) (a : α) : Logged α :=
  ⟨a, [⟨level, origin, text⟩]⟩

/-- Go on with a result; later notes come after earlier ones. -/
def andThen (x : Logged α) (f : α → Logged β) : Logged β :=
  let y := f x.value
  ⟨y.value, x.log ++ y.log⟩

/-- Change the result. -/
def map (f : α → β) (x : Logged α) : Logged β := ⟨f x.value, x.log⟩

/-- Run over a list and put the results together. -/
def gather (f : α → Logged (List β)) : List α → Logged (List β)
  | [] => silent []
  | a :: as => (f a).andThen fun bs => (gather f as).map (bs ++ ·)

end Logged

end DefectScan
