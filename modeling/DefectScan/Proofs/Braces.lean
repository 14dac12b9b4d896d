import DefectScan.Bodies
import DefectScan.Proofs.Words
import DefectScan.Scope.Check

/-!
# The open braces of a file

The scope check and the tracker of bodies both keep a stack that grows and shrinks with the
braces. Here the open braces themselves are kept, each with its line and the line above it. The
two stacks have an entry for each of them, and the scope check's opinion of a brace is a function
of the two lines. It can differ from the tracker's, which goes by the text right before the brace:
the body of a function is taken for the members of a struct when its brace is the first of its
line and a struct head is found on the line above, in front of the brace, or behind it.
-/

namespace DefectScan

open Text

/-! ### Struct heads around a brace -/

/-- Whether a struct or union begins at a place and has a brace before any semicolon or opening
parenthesis. -/
def Text.Place.opensStruct (p : Place) : Bool :=
  (p.oneOf? ["struct", "union"]).any fun rest =>
    (rest.takeWhile fun c => c != ';' && c != '(').contains '{'

/-- Whether a struct or union begins at a place and neither a semicolon nor an opening parenthesis
follows. -/
def Text.Place.leavesStructOpen (p : Place) : Bool :=
  (p.oneOf? ["struct", "union"]).any fun rest => rest.all fun c => c != ';' && c != '('

/-- Whether a text has a struct or union after which neither a semicolon nor an opening
parenthesis comes. -/
def Scope.leavesStructOpen (code : List Char) : Bool := (places code).any Place.leavesStructOpen

private theorem contains_takeWhile_append {ok : Char → Bool} {b : Char} (hok : ok b = true)
    {s : List Char} (hs : b ∉ s) (t : List Char) :
    ((s ++ b :: t).takeWhile ok).contains b = s.all ok := by
  induction s with
  | nil => simp [hok]
  | cons c s ih =>
    obtain ⟨hc, hs⟩ : b ≠ c ∧ b ∉ s := by simpa using hs
    have htail := ih hs
    cases hokc : ok c with
    | false => simp [hokc]
    | true => simpa [hokc, hc] using htail

private theorem opensStruct_place_append (column : Nat) (before : Option Char) {s : List Char}
    (hs : '{' ∉ s) (t : List Char) :
    (⟨column, before, s ++ '{' :: t⟩ : Text.Place).opensStruct =
      (⟨column, before, s⟩ : Text.Place).leavesStructOpen := by
  rw [Place.opensStruct, Place.leavesStructOpen,
    Place.oneOf?_append_cons (by decide) (by decide)]
  cases hrest : (⟨column, before, s⟩ : Text.Place).oneOf? ["struct", "union"] with
  | none => rfl
  | some rest =>
    have hsub : '{' ∉ rest := fun hm => hs ((Place.suffix_of_oneOf? hrest).subset hm)
    simpa using contains_takeWhile_append (by decide) hsub t

/-- Where a text starts in its line plays no part but for the word character before it. -/
private theorem any_opensStruct_congr (column column' : Nat) {before before' : Option Char}
    (h : before.any isWord = before'.any isWord) (s : List Char) :
    (placesFrom column before s).any Place.opensStruct =
      (placesFrom column' before' s).any Place.opensStruct := by
  have hhere : ∀ t, (⟨column, before, t⟩ : Text.Place).opensStruct =
      (⟨column', before', t⟩ : Text.Place).opensStruct := by
    intro t
    have hopen : (⟨column, before, t⟩ : Text.Place).isOpen =
        (⟨column', before', t⟩ : Text.Place).isOpen :=
      congrArg (!·) h
    rw [Place.opensStruct, Place.opensStruct, Place.oneOf?, Place.oneOf?, hopen]
  induction s generalizing column column' before before' with
  | nil => simp [placesFrom, hhere]
  | cons c s ih =>
    rw [placesFrom, placesFrom, List.any_cons, List.any_cons, hhere]
    congr 1
    apply ih (column + 1) (column' + 1) rfl
    intro t
    rfl

private theorem any_opensStruct_append (column : Nat) (before : Option Char) {s : List Char}
    (hs : '{' ∉ s) (t : List Char) :
    (placesFrom column before (s ++ '{' :: t)).any Place.opensStruct =
      ((placesFrom column before s).any Place.leavesStructOpen || Scope.opensStruct t) := by
  induction s generalizing column before with
  | nil =>
    have hhere := opensStruct_place_append column before hs t
    have htail : (placesFrom (column + 1) (some '{') t).any Place.opensStruct =
        Scope.opensStruct t := any_opensStruct_congr (column + 1) 0 (by decide) t
    rw [List.nil_append] at hhere ⊢
    rw [placesFrom, placesFrom, List.any_cons, hhere, htail]
    simp
  | cons c s ih =>
    have hs' : '{' ∉ s := fun hm => hs (List.mem_cons_of_mem _ hm)
    have hhere := opensStruct_place_append column before hs t
    rw [List.cons_append] at hhere ⊢
    rw [placesFrom, placesFrom, List.any_cons, List.any_cons, hhere, ih _ _ hs', Bool.or_assoc]

/-- A text opens a struct at its first brace by leaving one open before it, or behind it. -/
theorem Scope.opensStruct_append {s : List Char} (hs : '{' ∉ s) (t : List Char) :
    opensStruct (s ++ '{' :: t) = (leavesStructOpen s || opensStruct t) :=
  any_opensStruct_append 0 none hs t

/-! ### Open braces -/

/-- An opening brace in the lines that are checked. -/
structure Brace where
  /-- The checked line above the line of the brace. -/
  above : Option CodeLine
  /-- The line of the brace. -/
  line : CodeLine
  /-- The number of characters before the brace on its line. -/
  column : Nat
  deriving DecidableEq, Repr

/-- Whether a line has no brace and ends with the head of a struct or union. -/
def CodeLine.isStructHead (line : CodeLine) : Bool :=
  !line.code.contains '{' && Scope.endsWithStructHead line.code

namespace Brace

/-- The text of the line before the brace. -/
def before (brace : Brace) : List Char := brace.line.code.take brace.column

/-- The text of the line behind the brace. -/
def after (brace : Brace) : List Char := brace.line.code.drop (brace.column + 1)

/-- Whether a brace is the first of its line and a struct head is on the line above, open before it
or opened behind it. -/
def takenForStruct (brace : Brace) : Bool :=
  !brace.before.contains '{' &&
    (brace.above.any CodeLine.isStructHead || Scope.leavesStructOpen brace.before ||
      Scope.opensStruct brace.after)

end Brace

/-- The open braces after some more characters of a line, innermost first. -/
def openOnLine (above : Option CodeLine) (line : CodeLine) (column : Nat) (stack : List Brace) :
    List Char → List Brace
  | [] => stack
  | c :: s =>
    if c = '{' then openOnLine above line (column + 1) (⟨above, line, column⟩ :: stack) s
    else if c = '}' then openOnLine above line (column + 1) stack.tail s
    else openOnLine above line (column + 1) stack s

/-- The open braces after some more lines, innermost first. -/
def openAfter (above : Option CodeLine) (stack : List Brace) : List CodeLine → List Brace
  | [] => stack
  | line :: lines => openAfter (some line) (openOnLine above line 0 stack line.code) lines

/-! ### The blocks of the scope check -/

/-- A scope whose blocks are the open braces, flagged by the lines around them. -/
structure Scope.Tracks (above : Option CodeLine) (stack : List Brace) (scope : Scope) : Prop where
  /-- Each block is flagged as its brace is. -/
  flags : scope.blocks.map Block.isStruct = stack.map Brace.takenForStruct
  /-- The pending flag is that of the line above. -/
  pending : scope.pendingStruct = above.any CodeLine.isStructHead

namespace Scope

private theorem map_isStruct_braces (above : Option CodeLine) (line : CodeLine) {scope : Scope}
    {stack : List Brace} {seen s : List Char} {flag : Bool} (hcode : line.code = seen ++ s)
    (hflags : scope.blocks.map Block.isStruct = stack.map Brace.takenForStruct)
    (hflag : flag = (!seen.contains '{' &&
      (above.any CodeLine.isStructHead || opensStruct line.code))) :
    (scope.braces flag s).blocks.map Block.isStruct =
      (openOnLine above line seen.length stack s).map Brace.takenForStruct := by
  induction s generalizing scope stack seen flag with
  | nil => exact hflags
  | cons c s ih =>
    have hcode' : line.code = (seen ++ [c]) ++ s := by simpa using hcode
    have hlength : (seen ++ [c]).length = seen.length + 1 := by simp
    rw [braces, openOnLine, ← hlength]
    by_cases hopen : c = '{'
    · subst c
      have hbrace : (⟨above, line, seen.length⟩ : Brace).takenForStruct = flag := by
        have hbefore : (⟨above, line, seen.length⟩ : Brace).before = seen := by
          simp [Brace.before, hcode]
        have hafter : (⟨above, line, seen.length⟩ : Brace).after = s := by
          simp [Brace.after, hcode]
        rw [hflag, Brace.takenForStruct, hbefore, hafter]
        by_cases hseen : '{' ∈ seen
        · simp [hseen]
        · rw [hcode, opensStruct_append hseen, Bool.or_assoc]
      rw [if_pos rfl, if_pos rfl]
      apply ih hcode'
      · simp [push, hbrace, hflags]
      · simp
    · have hflag' : flag = (!(seen ++ [c]).contains '{' &&
          (above.any CodeLine.isStructHead || opensStruct line.code)) := by
        rw [hflag]
        simp [Ne.symm hopen]
      rw [if_neg hopen, if_neg hopen]
      by_cases hclose : c = '}'
      · rw [if_pos hclose, if_pos hclose]
        apply ih hcode' ?_ hflag'
        rw [pop, List.map_tail, List.map_tail, hflags]
      · rw [if_neg hclose, if_neg hclose]
        exact ih hcode' hflags hflag'

/-- Tracking the braces of a line keeps the blocks in step with the open braces. -/
theorem Tracks.trackBraces {above : Option CodeLine} {stack : List Brace} {scope : Scope}
    (h : scope.Tracks above stack) (line : CodeLine) :
    (scope.trackBraces line.code).Tracks (some line)
      (openOnLine above line 0 stack line.code) where
  flags := by
    have hflag : (scope.pendingStruct || opensStruct line.code) = (!([] : List Char).contains '{' &&
        (above.any CodeLine.isStructHead || opensStruct line.code)) := by
      simp [h.pending]
    exact map_isStruct_braces above line (List.nil_append line.code).symm h.flags hflag
  pending := rfl

/-- Two scopes that differ in the variables of their blocks only. -/
structure SameBlocks (scope scope' : Scope) : Prop where
  /-- The blocks are flagged alike. -/
  flags : scope'.blocks.map Block.isStruct = scope.blocks.map Block.isStruct
  /-- The pending flags agree. -/
  pending : scope'.pendingStruct = scope.pendingStruct

theorem SameBlocks.refl (scope : Scope) : scope.SameBlocks scope := ⟨rfl, rfl⟩

theorem SameBlocks.trans {a b c : Scope} (hab : a.SameBlocks b) (hbc : b.SameBlocks c) :
    a.SameBlocks c :=
  ⟨hbc.flags.trans hab.flags, hbc.pending.trans hab.pending⟩

theorem SameBlocks.symm {scope scope' : Scope} (h : scope.SameBlocks scope') :
    scope'.SameBlocks scope :=
  ⟨h.flags.symm, h.pending.symm⟩

theorem SameBlocks.depth_eq {scope scope' : Scope} (h : scope.SameBlocks scope') :
    scope'.depth = scope.depth := by
  simpa [depth] using congrArg List.length h.flags

theorem SameBlocks.inStruct_eq {scope scope' : Scope} (h : scope.SameBlocks scope') :
    scope'.inStruct = scope.inStruct := by
  have hany : ∀ scope : Scope, scope.inStruct = (scope.blocks.map Block.isStruct).any id := by
    intro scope
    rw [List.any_map]
    rfl
  rw [hany, hany, h.flags]

theorem SameBlocks.isEmpty_eq {scope scope' : Scope} (h : scope.SameBlocks scope') :
    scope'.blocks.isEmpty = scope.blocks.isEmpty := by
  rw [← List.isEmpty_map (f := Block.isStruct), h.flags, List.isEmpty_map]

theorem SameBlocks.tracks {scope scope' : Scope} (h : scope.SameBlocks scope')
    {above : Option CodeLine} {stack : List Brace} (ht : scope.Tracks above stack) :
    scope'.Tracks above stack :=
  ⟨h.flags.trans ht.flags, h.pending.trans ht.pending⟩

/-- Declaring variables leaves the blocks as they are. -/
theorem sameBlocks_declare (scope : Scope) (vs : List Variable) :
    scope.SameBlocks (scope.declare vs) := by
  unfold declare setCurrent
  cases hb : scope.blocks with
  | nil => exact ⟨by simp [hb], rfl⟩
  | cons block outer => exact ⟨by simp [hb], rfl⟩

theorem map_isStruct_modifyBlocks {name : List Char} {f : Variable → Variable}
    {blocks blocks' : List Block} (h : modifyBlocks name f blocks = some blocks') :
    blocks'.map Block.isStruct = blocks.map Block.isStruct := by
  induction blocks generalizing blocks' with
  | nil => cases h
  | cons block outer ih =>
    rw [modifyBlocks] at h
    split at h
    · cases h
      rfl
    · obtain ⟨outer', ho, rfl⟩ := Option.map_eq_some_iff.1 h
      simp [ih ho]

/-- Changing a variable leaves the blocks as they are. -/
theorem sameBlocks_modify (scope : Scope) (name : List Char) (f : Variable → Variable) :
    scope.SameBlocks (scope.modify name f) := by
  unfold modify
  cases hb : modifyBlocks name f scope.blocks with
  | none => exact ⟨rfl, rfl⟩
  | some blocks => exact ⟨map_isStruct_modifyBlocks hb, rfl⟩

/-- Recording assignments leaves the blocks as they are. -/
theorem sameBlocks_assign (flow : Bool) (row : Nat) (code : List Char) (scope : Scope)
    (names : List (List Char)) : scope.SameBlocks (scope.assign flow row code names) := by
  unfold assign
  induction names generalizing scope with
  | nil => exact .refl scope
  | cons name names ih =>
    rw [List.foldl_cons]
    refine .trans ?_ (ih _)
    split
    · split
      · exact sameBlocks_modify scope name _
      · exact .refl scope
    · exact .refl scope

/-- Bringing in parameters leaves the blocks as they are. -/
theorem sameBlocks_seedParameters (scope : Scope) (code : List Char) :
    scope.SameBlocks (scope.seedParameters code) := by
  unfold seedParameters
  split
  · exact .refl scope
  · exact sameBlocks_declare scope _

/-- Of all a checked line does, only its braces change the blocks. -/
theorem sameBlocks_afterLine (flow : Bool) (scope : Scope) (line : CodeLine) :
    (scope.trackBraces line.code).SameBlocks (scope.afterLine flow line) := by
  have henter := sameBlocks_seedParameters (scope.trackBraces line.code) line.code
  unfold afterLine enterLine
  dsimp only
  split
  · refine henter.trans ?_
    unfold declareLine
    split
    · exact .refl _
    · exact sameBlocks_declare _ _
  · exact henter.trans (sameBlocks_assign flow line.row line.code _ _)

/-- The scope after the braces of some checked lines. -/
def trackLines (scope : Scope) (lines : List CodeLine) : Scope :=
  lines.foldl (fun scope line => scope.trackBraces line.code) scope

/-- The scope after some checked lines. -/
def afterLines (flow : Bool) (scope : Scope) (lines : List CodeLine) : Scope :=
  lines.foldl (afterLine flow) scope

/-- A run over lines keeps the blocks in step with the open braces, if each line does. -/
private theorem Tracks.foldl {step : Scope → CodeLine → Scope}
    (hstep : ∀ (scope : Scope) (line : CodeLine),
      (scope.trackBraces line.code).SameBlocks (step scope line))
    {above : Option CodeLine} {stack : List Brace} {scope : Scope} (h : scope.Tracks above stack)
    (lines : List CodeLine) :
    (lines.foldl step scope).blocks.map Block.isStruct =
      (openAfter above stack lines).map Brace.takenForStruct := by
  induction lines generalizing above stack scope with
  | nil => exact h.flags
  | cons line lines ih => exact ih ((hstep scope line).tracks (h.trackBraces line))

private theorem tracks_empty : ({} : Scope).Tracks none [] := ⟨rfl, rfl⟩

/-- Tracking braces flags each block as the lines around its brace say. -/
theorem map_isStruct_trackLines (lines : List CodeLine) :
    (trackLines {} lines).blocks.map Block.isStruct =
      (openAfter none [] lines).map Brace.takenForStruct :=
  tracks_empty.foldl (fun _ _ => .refl _) lines

/-- The scope check flags each block as the lines around its brace say. -/
theorem map_isStruct_afterLines (flow : Bool) (lines : List CodeLine) :
    (afterLines flow {} lines).blocks.map Block.isStruct =
      (openAfter none [] lines).map Brace.takenForStruct :=
  tracks_empty.foldl (sameBlocks_afterLine flow) lines

end Scope

/-! ### The bodies of the tracker -/

namespace Bodies

private theorem length_stack_readFrom (above : Option CodeLine) (line : CodeLine) {b : Bodies}
    {stack : List Brace} (h : b.stack.length = stack.length) (column : Nat)
    (seen s : List Char) :
    (b.readFrom seen s).stack.length = (openOnLine above line column stack s).length := by
  induction s generalizing b stack column seen with
  | nil =>
    unfold readFrom extend
    split <;> exact h
  | cons c s ih =>
    rw [readFrom, openOnLine]
    by_cases hopen : c = '{'
    · rw [if_pos hopen, if_pos hopen]
      exact ih (by simp [h]) _ _
    · rw [if_neg hopen, if_neg hopen]
      by_cases hclose : c = '}'
      · rw [if_pos hclose, if_pos hclose]
        exact ih (by simp [h]) _ _
      · rw [if_neg hclose, if_neg hclose]
        split
        · exact ih (show ({ b with header := [] } : Bodies).stack.length = _ from h) _ _
        · exact ih h _ _

private theorem stack_readFrom_of_blank {b : Bodies} {seen s : List Char}
    (h : ∀ c ∈ s, isBlank c = true) : (b.readFrom seen s).stack = b.stack := by
  induction s generalizing b seen with
  | nil =>
    unfold readFrom extend
    split <;> rfl
  | cons c s ih =>
    have hc : isBlank c = true := h c List.mem_cons_self
    have hs : ∀ d ∈ s, isBlank d = true := fun d hd => h d (List.mem_cons_of_mem _ hd)
    have hopen : c ≠ '{' := by
      rintro rfl
      exact absurd hc (by decide)
    have hclose : c ≠ '}' := by
      rintro rfl
      exact absurd hc (by decide)
    rw [readFrom, if_neg hopen, if_neg hclose]
    split
    · exact ih hs
    · exact ih hs

/-- A line that is not checked opens and closes no body. -/
theorem stack_read_of_not_isChecked (b : Bodies) {line : CodeLine}
    (h : line.isChecked = false) : (b.read line).stack = b.stack := by
  unfold read
  split
  · rfl
  · have hblank : line.isBlank = true := by simp_all [CodeLine.isChecked]
    exact stack_readFrom_of_blank (List.all_eq_true.1 hblank)

/-- The bodies after some lines. -/
def readLines (b : Bodies) (lines : List CodeLine) : Bodies := lines.foldl read b

/-- The tracker has a body for each brace that is open in the checked lines. -/
theorem length_stack_readLines {b : Bodies} {stack : List Brace}
    (h : b.stack.length = stack.length) (above : Option CodeLine) (lines : List CodeLine) :
    (b.readLines lines).stack.length =
      (openAfter above stack (lines.filter CodeLine.isChecked)).length := by
  induction lines generalizing b stack above with
  | nil => exact h
  | cons line lines ih =>
    cases hline : line.isChecked with
    | false =>
      rw [List.filter_cons_of_neg (by simp [hline])]
      exact ih (by rw [stack_read_of_not_isChecked b hline, h]) above
    | true =>
      rw [List.filter_cons_of_pos hline, openAfter]
      refine ih ?_ (some line)
      have hdirective : line.isDirective = false := by simp_all [CodeLine.isChecked]
      rw [read, if_neg (by simp [hdirective])]
      exact length_stack_readFrom above line h 0 [] line.code

end Bodies

/-- The scope check takes no open function body for a struct if and only if none has a brace with a
struct head around it. -/
theorem functionBodies_kept_iff (flow : Bool) (lines : List (List Char)) (n : Nat) :
    let seen := (scanLines lines).take n
    let checked := seen.filter CodeLine.isChecked
    let bodies := Bodies.readLines {} seen
    let scope := Scope.trackLines {} checked
    let braces := openAfter none [] checked
    bodies.stack.length = scope.blocks.length ∧
      scope.blocks.map Block.isStruct = braces.map Brace.takenForStruct ∧
      (Scope.afterLines flow {} checked).blocks.map Block.isStruct =
        scope.blocks.map Block.isStruct ∧
      ((∀ i : Nat, bodies.stack[i]? = some .function →
          ∃ block, scope.blocks[i]? = some block ∧ block.isStruct = false) ↔
        ∀ (i : Nat) (brace : Brace), bodies.stack[i]? = some .function →
          braces[i]? = some brace → brace.takenForStruct = false) := by
  intro seen checked bodies scope braces
  have hflags : scope.blocks.map Block.isStruct = braces.map Brace.takenForStruct :=
    Scope.map_isStruct_trackLines checked
  have hafter := Scope.map_isStruct_afterLines flow checked
  have hblocks : scope.blocks.length = braces.length := by
    simpa using congrArg List.length hflags
  have hbodies : bodies.stack.length = braces.length :=
    Bodies.length_stack_readLines rfl none seen
  have hflag : ∀ i : Nat, (scope.blocks[i]?).map Block.isStruct =
      (braces[i]?).map Brace.takenForStruct := by
    intro i
    rw [← List.getElem?_map, hflags, List.getElem?_map]
  refine ⟨hbodies.trans hblocks.symm, hflags, hafter.trans hflags.symm, ?_, ?_⟩
  · intro hkept i brace hfunction hbrace
    obtain ⟨block, hblock, hfalse⟩ := hkept i hfunction
    have := hflag i
    simp only [hblock, hbrace, Option.map_some, Option.some.injEq] at this
    exact this.symm.trans hfalse
  · intro hnot i hfunction
    have hi : i < braces.length := hbodies ▸ (List.getElem?_eq_some_iff.1 hfunction).1
    have hbrace : braces[i]? = some braces[i] := List.getElem?_eq_getElem hi
    have hblock : scope.blocks[i]? = some (scope.blocks[i]) :=
      List.getElem?_eq_getElem (hblocks ▸ hi)
    refine ⟨_, hblock, ?_⟩
    have := hflag i
    simp only [hblock, hbrace, Option.map_some, Option.some.injEq] at this
    exact this.trans (hnot i _ hfunction hbrace)

/-- With a parameter of a struct type, the body of a function is taken for the members of a
struct. -/
theorem functionBody_taken_for_struct :
    let lines := ["int f(struct node *b) \x7b".toList]
    (Bodies.readLines {} (scanLines lines)).stack = [.function] ∧
      (Scope.trackLines {} ((scanLines lines).filter CodeLine.isChecked)).blocks =
        [{ isStruct := true }] := by
  decide +kernel

/-- With the brace on a line of its own, below the parenthesis that closes the parameters, the
body is kept. -/
theorem functionBody_kept_below_parameters :
    let lines := ["struct node *f(struct node *a,".toList, "    struct node *b)".toList,
      "\x7b".toList]
    (Bodies.readLines {} (scanLines lines)).stack = [.function] ∧
      ∃ block, (Scope.trackLines {} ((scanLines lines).filter CodeLine.isChecked)).blocks[0]? =
        some block ∧ block.isStruct = false := by
  intro lines
  have hstack : (Bodies.readLines {} (scanLines lines)).stack = [.function] := by decide +kernel
  have hbraces : (openAfter none [] ((scanLines lines).filter CodeLine.isChecked)).all
      (!Brace.takenForStruct ·) = true := by decide +kernel
  refine ⟨hstack, (functionBodies_kept_iff true lines 3).2.2.2.2 ?_ 0 ?_⟩
  · intro i brace _ hbrace
    simpa using List.all_eq_true.1 hbraces brace (List.mem_of_getElem? hbrace)
  · rw [List.take_of_length_le (by decide), hstack]
    rfl

end DefectScan
