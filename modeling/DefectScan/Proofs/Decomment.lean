import DefectScan.Proofs.CodeView

/-!
# Lines without their comments

The comments of a file, delimiters included, are replaced by spaces. The scanner reads such a file
as it reads the file itself, but for being in code wherever it was in a comment. So the code views
of the two files are the same, and only the lines as written differ.
-/

namespace DefectScan

/-- A character of a region, a space in its place if it belongs to a comment. -/
def Region.decomment (region : Region) (c : Char) : Char :=
  match region with
  | .comment => ' '
  | .code | .literal => c

namespace Lexical

/-- A line that starts in the given state, with spaces in the place of its comments. -/
def decomment (state : Lexical) (raw : List Char) : List Char :=
  List.zipWith Region.decomment (state.regions raw).1 raw

/-- The state of a scanner that sees no comments. -/
def settled : Lexical → Lexical
  | .code | .lineComment | .blockComment => .code
  | .literal quote => .literal quote

section Moves

variable {state next : Lexical} {region : Region} {c d : Char} {s : List Char}

theorem decomment_of_one (h : state.move c s.head? = .one region next) :
    state.decomment (c :: s) = region.decomment c :: next.decomment s := by
  simp [decomment, regions_of_one h]

theorem decomment_of_two_nil (h : state.move c none = .two region next) :
    state.decomment [c] = [region.decomment c] := by
  simp [decomment, regions_of_two_nil h]

theorem decomment_of_two (h : state.move c (some d) = .two region next) :
    state.decomment (c :: d :: s) =
      region.decomment c :: region.decomment d :: next.decomment s := by
  simp [decomment, regions_of_two h]

end Moves

/-- The first character of a line stays or becomes a space. -/
theorem head?_decomment (state : Lexical) (raw : List Char) :
    (state.decomment raw).head? = raw.head? ∨ (state.decomment raw).head? = some ' ' := by
  unfold decomment
  rw [List.head?_zipWith]
  have hlength := length_regions state raw
  cases raw with
  | nil => simp
  | cons c s =>
    cases hregions : (state.regions (c :: s)).1 with
    | nil => simp [hregions] at hlength
    | cons region rest => cases region <;> simp [Region.decomment]

/-- A space is code to a scanner in code. -/
theorem move_code_space (following : Option Char) :
    move .code ' ' following = .one .code .code := by
  simp [move]

/-- Two characters that a move takes together belong to a comment or to a literal. -/
theorem move_settled_of_two {state next : Lexical} {region : Region} {c : Char}
    {following : Option Char} (h : state.move c following = .two region next) :
    (region = .comment ∧ state.settled = .code ∧ next.settled = .code ∧ following.isSome) ∨
      (region = .literal ∧ state.settled = state ∧ next.settled = next ∧
        ∀ following', state.move c following' = .two region next) := by
  cases state with
  | code => grind [move, settled]
  | lineComment => cases h
  | blockComment => grind [move, settled]
  | literal quote => grind [move, settled]

/-- A character taken alone belongs to a comment, or the move does not depend on whether the
character after it has become a space. -/
theorem move_settled_of_one {state next : Lexical} {region : Region} {c : Char}
    {following : Option Char} (h : state.move c following = .one region next) :
    (region = .comment ∧ state.settled = .code ∧ next.settled = .code) ∨
      (region ≠ .comment ∧ state.settled = state ∧ next.settled = next ∧
        state.move c (some ' ') = .one region next) := by
  cases state with
  | code =>
    refine .inr ?_
    simp only [move] at h ⊢
    split at h
    · cases h
    · split at h
      · cases h
      · grind [settled]
  | lineComment =>
    cases h
    exact .inl ⟨rfl, rfl, rfl⟩
  | blockComment => grind [move, settled]
  | literal quote => grind [move, settled]

end Lexical

theorem Region.decomment_of_ne_comment {region : Region} (h : region ≠ .comment) (c : Char) :
    region.decomment c = c := by
  cases region with
  | comment => exact absurd rfl h
  | code => rfl
  | literal => rfl

namespace Lexical

/-- A scanner of the line without its comments shows the same code view, and ends in the same
state but for comments. -/
theorem scan_decomment (state : Lexical) (raw : List Char) :
    state.settled.view (state.decomment raw) = state.view raw ∧
      (state.settled.regions (state.decomment raw)).2 = (state.regions raw).2.settled := by
  fun_induction regions state raw with
  | case1 state => exact ⟨rfl, rfl⟩
  | case2 state c s region next hmove rest ih =>
    obtain ⟨hview, hend⟩ := ih
    rw [decomment_of_one hmove, view_of_one hmove]
    rcases move_settled_of_one hmove with ⟨rfl, hstate, hnext⟩ | ⟨hne, hstate, hnext, hspace⟩
    · rw [hnext] at hview hend
      have hmove' := move_code_space (next.decomment s).head?
      rw [hstate]
      constructor
      · rw [Region.decomment, view_of_one hmove', hview]
        rfl
      · rw [Region.decomment, regions_of_one hmove', hend]
    · rw [hnext] at hview hend
      have hmove' : state.move c (next.decomment s).head? = .one region next := by
        rcases head?_decomment next s with hhead | hhead
        · rw [hhead, hmove]
        · rw [hhead, hspace]
      rw [hstate, Region.decomment_of_ne_comment hne]
      constructor
      · rw [view_of_one hmove', hview]
      · rw [regions_of_one hmove', hend]
  | case3 state c region next hmove =>
    rcases move_settled_of_two hmove with ⟨rfl, -, -, hsome⟩ | ⟨rfl, hstate, hnext, hmove'⟩
    · cases hsome
    · rw [decomment_of_two_nil hmove, view_of_two_nil hmove, hstate]
      constructor
      · exact view_of_two_nil hmove
      · rw [hnext]
        exact congrArg Prod.snd (regions_of_two_nil hmove)
  | case4 state c region next d s rest hmove ih =>
    obtain ⟨hview, hend⟩ := ih
    rw [decomment_of_two hmove, view_of_two hmove]
    rcases move_settled_of_two hmove with ⟨rfl, hstate, hnext, -⟩ | ⟨rfl, hstate, hnext, -⟩
    · rw [hnext] at hview hend
      have hfirst := move_code_space (' ' :: next.decomment s).head?
      have hsecond := move_code_space (next.decomment s).head?
      rw [hstate]
      constructor
      · rw [Region.decomment, Region.decomment, view_of_one hfirst, view_of_one hsecond, hview]
        rfl
      · rw [Region.decomment, Region.decomment, regions_of_one hfirst, regions_of_one hsecond, hend]
    · rw [hnext] at hview hend
      rw [hstate]
      constructor
      · rw [Region.decomment, Region.decomment, view_of_two hmove, hview]
      · rw [Region.decomment, Region.decomment, regions_of_two hmove, hend]

/-- A line that ends inside a literal keeps its last character. -/
theorem getLast?_decomment {state : Lexical} {raw : List Char} {quote : Quote}
    (h : (state.regions raw).2 = .literal quote) :
    (state.decomment raw).getLast? = raw.getLast? := by
  fun_induction regions state raw with
  | case1 state => rfl
  | case2 state c s region next hmove rest ih =>
    rw [decomment_of_one hmove, List.getLast?_cons, List.getLast?_cons, ih h]
    cases s with
    | nil =>
      have hnext : next = .literal quote := h
      rcases move_settled_of_one hmove with ⟨-, -, hsettled⟩ | ⟨hne, -⟩
      · rw [hnext] at hsettled
        cases hsettled
      · rw [Region.decomment_of_ne_comment hne]
    | cons d s => simp [List.getLast?_cons]
  | case3 state c region next hmove =>
    rcases move_settled_of_two hmove with ⟨-, -, -, hsome⟩ | ⟨rfl, -⟩
    · cases hsome
    · rw [decomment_of_two_nil hmove]
      rfl
  | case4 state c region next d s rest hmove ih =>
    rw [decomment_of_two hmove]
    simp only [List.getLast?_cons, ih h]
    cases s with
    | nil =>
      have hnext : next = .literal quote := h
      rcases move_settled_of_two hmove with ⟨-, -, hsettled, -⟩ | ⟨rfl, -⟩
      · rw [hnext] at hsettled
        cases hsettled
      · rfl
    | cons e s => simp [List.getLast?_cons]

/-- The line without its comments leads to the same state but for comments. -/
theorem afterLine_decomment (state : Lexical) (raw : List Char) :
    state.settled.afterLine (state.decomment raw) = (state.afterLine raw).settled := by
  rw [afterLine, afterLine, (scan_decomment state raw).2]
  cases hend : (state.regions raw).2 with
  | code => rfl
  | lineComment => rfl
  | blockComment => rfl
  | literal quote =>
    rw [settled, endLine, endLine, getLast?_decomment hend]
    split <;> rfl

end Lexical

/-- Lines from the given state on, with spaces in the place of the comments. -/
def decommentFrom (state : Lexical) : List (List Char) → List (List Char)
  | [] => []
  | raw :: lines => state.decomment raw :: decommentFrom (state.afterLine raw) lines

/-- The lines of a file with spaces in the place of the comments. -/
def decomment (lines : List (List Char)) : List (List Char) := decommentFrom .code lines

/-- The line as other texts write it, with the code view it has. -/
def CodeLine.reread (texts : List (List Char)) (line : CodeLine) : CodeLine :=
  { line with raw := (texts[line.row]?).getD [] }

@[simp] theorem CodeLine.row_reread (texts : List (List Char)) (line : CodeLine) :
    (line.reread texts).row = line.row := rfl

private theorem scanFrom_decommentFrom {texts : List (List Char)} (state : Lexical) (row : Nat)
    {lines : List (List Char)} (h : texts.drop row = decommentFrom state lines) :
    scanFrom state.settled row (decommentFrom state lines) =
      (scanFrom state row lines).map (CodeLine.reread texts) := by
  induction lines generalizing state row with
  | nil => rfl
  | cons raw lines ih =>
    rw [decommentFrom] at h
    have hraw : texts[row]? = some (state.decomment raw) := by
      rw [← List.head?_drop, h, List.head?_cons]
    have hrest : texts.drop (row + 1) = decommentFrom (state.afterLine raw) lines := by
      rw [← List.tail_drop, h, List.tail_cons]
    rw [decommentFrom, scanFrom_cons, scanFrom_cons, List.map_cons, Lexical.afterLine_decomment,
      ih _ _ hrest, (Lexical.scan_decomment state raw).1, CodeLine.reread, hraw]
    rfl

/-- Without its comments a file has the same code views; only the lines as written differ. -/
theorem scanLines_decomment (lines : List (List Char)) :
    scanLines (decomment lines) = (scanLines lines).map (CodeLine.reread (decomment lines)) :=
  scanFrom_decommentFrom .code 0 rfl

end DefectScan
