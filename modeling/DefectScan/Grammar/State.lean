import DefectScan.Grammar.Item

/-!
# States

While a text is read from left to right, a state says which items the reading may stand at, each
with the tokens that may follow once the item is complete. From the state at the beginning all
others are found by following every symbol.
-/

namespace DefectScan.Grammar

/-- The items that a reading may stand at, by number and in order, each with the tokens that may
follow it. Items at the beginning of a production are left out, except at the start. -/
abbrev Kernel := List (Nat × TokenSet)

/-- Put an item into a kernel. -/
def Kernel.insert (item : Nat) (follow : TokenSet) : Kernel → Kernel
  | [] => [(item, follow)]
  | (i, f) :: rest =>
    if item < i then (item, follow) :: (i, f) :: rest
    else if item = i then (i, f ||| follow) :: rest
    else (i, f) :: Kernel.insert item follow rest

/-- The states found so far. -/
structure States where
  /-- The kernels, by number. -/
  kernels : Array Kernel
  /-- The numbers of the kernels. -/
  numbers : Std.HashMap Kernel Nat
  /-- For each state that has been followed up, the symbols that lead on, in order, and where
  to. -/
  moves : Array (List (Nat × Nat))

namespace Items

/-- The kernels that the symbols lead to from a kernel, by symbol. -/
def targets (items : Items) (kernel : Kernel) : Array Kernel :=
  let count := items.symbols.whole + 1
  let step (found : Array Kernel) (item : Nat) (follow : TokenSet) : Array Kernel :=
    match (items.fact item).next? with
    | some (symbol, next) => found.modify symbol fun k => k.insert next follow
    | none => found
  -- The tokens that may follow each symbol that begins where an item of the kernel stands.
  let opened : Array (Option TokenSet) := kernel.foldl
    (fun opened (item, follow) =>
      let fact := items.fact item
      match fact.next? with
      | some (symbol, _) =>
        let after := fact.follow?.getD follow
        (items.corners.getD symbol []).foldl
          (fun opened c =>
            opened.modify c.symbol fun known =>
              some (known.getD 0 ||| c.follow ||| (if c.isOpen then after else 0)))
          opened
      | none => opened)
    (Array.replicate count none)
  let kept := kernel.foldl (fun found (item, follow) => step found item follow)
    (Array.replicate count [])
  (List.range count).foldl
    (fun found symbol =>
      match opened.getD symbol none with
      | some follow =>
        (items.beginnings.getD symbol []).foldl (fun found item => step found item follow) found
      | none => found)
    kept

/-- Follow up a state: the states that its symbols lead to are numbered. -/
def followUp (items : Items) (states : States) (kernel : Kernel) : States :=
  let (states, moves) := (items.targets kernel).toList.zipIdx.foldl
    (fun (states, moves) (target, symbol) =>
      if target.isEmpty then (states, moves)
      else
        match (states : States).numbers.get? target with
        | some n => (states, (symbol, n) :: moves)
        | none =>
          let n := states.kernels.size
          ({ states with
              kernels := states.kernels.push target
              numbers := states.numbers.insert target n }, (symbol, n) :: moves))
    (states, [])
  { states with moves := states.moves.push moves.reverse }

/-- Follow up the states from the given one on, as long as the bound allows. -/
def followAll (items : Items) : (bound next : Nat) → States → States
  | 0, _, states => states
  | bound + 1, next, states =>
    match states.kernels[next]? with
    | some kernel => followAll items bound (next + 1) (items.followUp states kernel)
    | none => states

/-- A bound on the number of states. -/
def stateBound : Nat := 100000

/-- All states, beginning with the one at the start of a text. -/
def states (items : Items) : States :=
  let kernel := (items.beginnings.getD items.symbols.whole []).map fun i =>
    (i, TokenSet.single Symbols.finish)
  followAll items stateBound 0
    { kernels := #[kernel], numbers := Std.HashMap.ofList [(kernel, 0)], moves := #[] }

end Items

end DefectScan.Grammar
