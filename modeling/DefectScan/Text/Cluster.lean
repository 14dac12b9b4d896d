import DefectScan.Text.Width

/-!
# Clusters

A terminal draws some characters together: marks on their letter, and the pictograms that a joiner
ties to one. Such a cluster is never cut, so a text is cut into pieces and to a width by clusters.
`flatMap_chars_clusters` says that the clusters of a text are all of it, in order.
-/

namespace DefectScan.Text

/-- Characters that are drawn as one, and the columns they take. -/
structure Cluster where
  /-- The characters in their order. -/
  chars : List Char
  /-- The columns they take together. -/
  columns : Nat
  deriving Repr, BEq, DecidableEq, Inhabited

/-- The cluster with more characters, which take `extra` columns. -/
def Cluster.join (g : Cluster) (more : List Char) (extra : Nat) : Cluster :=
  { chars := g.chars ++ more, columns := g.columns + extra }

/-- The clusters of a text of which `g` is the first and has been read so far; `last` is the last
character that took columns and was not turned into a pictogram. -/
def clustersFrom (g : Cluster) (last : Option Char) : List Char → List Cluster
  | [] => [g]
  | c :: s =>
    if c = joiner then
      match s with
      | [] => [g.join [c] 0]
      | d :: rest => clustersFrom (g.join [c, d] 0) last rest
    else if c = formSelector then clustersFrom (g.join [c] (extraColumns last)) none s
    else if charWidth c = 0 then clustersFrom (g.join [c] 0) last s
    else g :: clustersFrom { chars := [c], columns := charWidth c } (some c) s

/-- The clusters of a text. A sign that takes no column and has nothing before it starts a cluster
all the same. -/
def clusters : List Char → List Cluster
  | [] => []
  | c :: s =>
    clustersFrom { chars := [c], columns := charWidth c }
      (if charWidth c = 0 then none else some c) s

theorem flatMap_chars_clustersFrom (g : Cluster) (last : Option Char) (s : List Char) :
    (clustersFrom g last s).flatMap Cluster.chars = g.chars ++ s := by
  fun_induction clustersFrom g last s <;> simp_all [Cluster.join]

/-- The clusters of a text are all of it, in order. -/
theorem flatMap_chars_clusters (s : List Char) : (clusters s).flatMap Cluster.chars = s := by
  cases s with
  | nil => rfl
  | cons c s => simp [clusters, flatMap_chars_clustersFrom]

/-- Cut clusters into pieces of at most `page` columns. `piece` is the piece being filled, last
character first, and takes `used` columns. -/
def chop (page : Nat) (piece : List Char) (used : Nat) : List Cluster → List (List Char)
  | [] => [piece.reverse]
  | g :: rest =>
    if used + g.columns > page then piece.reverse :: chop page g.chars.reverse g.columns rest
    else chop page (g.chars.reverse ++ piece) (used + g.columns) rest

/-- The pieces are what was collected and the clusters again. -/
theorem flatten_chop (page : Nat) (piece : List Char) (used : Nat) (gs : List Cluster) :
    (chop page piece used gs).flatten = piece.reverse ++ gs.flatMap Cluster.chars := by
  fun_induction chop page piece used gs <;> simp_all

/-- A word that is chopped loses nothing. -/
theorem flatten_chop_clusters (page : Nat) (s : List Char) :
    (chop page [] 0 (clusters s)).flatten = s := by
  rw [flatten_chop, List.reverse_nil, List.nil_append, flatMap_chars_clusters]

/-- The first clusters that take at most `columns` columns; of a cluster that is cut in two,
spaces are left. -/
def takeColumns (columns : Nat) : List Cluster → List Char
  | [] => []
  | g :: rest =>
    if g.columns ≤ columns then g.chars ++ takeColumns (columns - g.columns) rest
    else List.replicate columns ' '

/-- The text, cut to at most `columns` columns if it takes more. -/
def cropColumns (columns : Nat) (s : List Char) : List Char :=
  if width s ≤ columns then s else takeColumns columns (clusters s)

end DefectScan.Text
