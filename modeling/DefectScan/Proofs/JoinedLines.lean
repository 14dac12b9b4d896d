import DefectScan.Proofs.BodyStack
import DefectScan.Proofs.InsertedLines

/-!
# Where lines are broken

The tracker of bodies takes up the text before a brace in pieces, one for each line, trims them and
puts spaces between. It does not matter where the lines are broken: what it decides about a brace
depends on the words of that text alone. Two trackers that have the same bodies open and the same
words in their headers therefore agree on everything that follows, and reading two lines brings a
tracker into such a relation to one that reads them as a single line.
-/

namespace DefectScan

open Text

/-! ### The words of a text -/

namespace Text

theorem words_cons_of_isBlank {b : Char} (hb : isBlank b = true) (s : List Char) :
    words (b :: s) = words s := by
  rw [words, if_pos hb]

theorem words_cons_of_not_isBlank {c : Char} (hc : isBlank c = false) (s : List Char) :
    words (c :: s) = (c :: s.takeWhile (!isBlank ·)) :: words (s.dropWhile (!isBlank ·)) := by
  rw [words, if_neg (by simp [hc])]

/-- A blank divides the words before it from those behind it. -/
theorem words_append_cons {b : Char} (hb : isBlank b = true) (s t : List Char) :
    words (s ++ b :: t) = words s ++ words t := by
  fun_induction words s with
  | case1 => exact words_cons_of_isBlank hb t
  | case2 c s hc ih => rw [List.cons_append, words_cons_of_isBlank hc, ih]
  | case3 c s hc ih =>
    have htake : (s ++ b :: t).takeWhile (!isBlank ·) = s.takeWhile (!isBlank ·) := by
      rw [List.takeWhile_append, List.takeWhile_cons_of_neg (by simp [hb]), List.append_nil]
      split
      · next hlength =>
        exact (List.IsPrefix.eq_of_length (List.takeWhile_prefix _) hlength).symm
      · rfl
    have hdrop : (s ++ b :: t).dropWhile (!isBlank ·) = s.dropWhile (!isBlank ·) ++ b :: t := by
      rw [List.dropWhile_append, List.dropWhile_cons_of_neg (by simp [hb])]
      split
      · next hempty => rw [List.isEmpty_iff.1 hempty, List.nil_append]
      · rfl
    rw [List.cons_append, words_cons_of_not_isBlank (by simpa using hc), htake, hdrop, ih,
      List.cons_append]

theorem words_append_of_blank_left {blanks : List Char} (h : ∀ c ∈ blanks, isBlank c = true)
    (s : List Char) : words (blanks ++ s) = words s := by
  induction blanks with
  | nil => rfl
  | cons b blanks ih =>
    obtain ⟨hb, hblanks⟩ := List.forall_mem_cons.1 h
    rw [List.cons_append, words_cons_of_isBlank hb, ih hblanks]

theorem words_of_blank {s : List Char} (h : ∀ c ∈ s, isBlank c = true) : words s = [] := by
  have hwords := words_append_of_blank_left h []
  rwa [List.append_nil, words] at hwords

theorem words_append_of_blank_right {blanks : List Char} (h : ∀ c ∈ blanks, isBlank c = true)
    (s : List Char) : words (s ++ blanks) = words s := by
  cases blanks with
  | nil => rw [List.append_nil]
  | cons b blanks =>
    obtain ⟨hb, hblanks⟩ := List.forall_mem_cons.1 h
    rw [words_append_cons hb, words_of_blank hblanks, List.append_nil]

/-- Outer blanks are in no word. -/
theorem words_trim (s : List Char) : words (trim s) = words s := by
  obtain ⟨front, back, hs, hfront, hback⟩ := exists_eq_append_trim s
  have hwords := congrArg words hs
  rw [words_append_of_blank_left hfront, words_append_of_blank_right hback] at hwords
  exact hwords.symm

/-- The words put together are the text without its blanks. -/
theorem flatten_words (s : List Char) : (words s).flatten = s.filter (!isBlank ·) := by
  fun_induction words s with
  | case1 => rfl
  | case2 c s hc ih => rw [List.filter_cons_of_neg (by simp [hc]), ih]
  | case3 c s hc ih =>
    have hword : (s.takeWhile (!isBlank ·)).filter (!isBlank ·) = s.takeWhile (!isBlank ·) :=
      List.filter_eq_self.2 (List.all_eq_true.1 List.all_takeWhile)
    have hrest : s.filter (!isBlank ·) =
        s.takeWhile (!isBlank ·) ++ (s.dropWhile (!isBlank ·)).filter (!isBlank ·) := by
      conv_lhs => rw [← List.takeWhile_append_dropWhile (p := (!isBlank ·)) (l := s)]
      rw [List.filter_append, hword]
    rw [List.filter_cons_of_pos (by simpa using hc), hrest, List.flatten_cons, ih,
      List.cons_append]

/-- A trimmed text ends with the last character that is no blank. -/
theorem getLast?_trim (s : List Char) : (trim s).getLast? = (words s).flatten.getLast? := by
  have hblank := any_isBlank_getLast?_trim s
  rw [← words_trim, flatten_words]
  rcases List.eq_nil_or_concat (trim s) with htrim | ⟨front, c, htrim⟩
  · rw [htrim]
    rfl
  · rw [List.concat_eq_append] at htrim
    rw [htrim, List.getLast?_concat] at hblank
    have hc : isBlank c = false := by simpa using hblank
    rw [htrim, List.filter_append, List.filter_cons_of_pos (by simp [hc]), List.filter_nil,
      List.getLast?_concat, List.getLast?_concat]

end Text

namespace Bodies

/-! ### What is decided about a brace -/

/-- A character that can stand between the head of a struct or union and its brace. -/
def isHeadChar (c : Char) : Bool := !(c == ';' || c == '(' || c == ')' || c == '=')

/-- Whether a struct or union begins between two parts of a text and its head goes on to the end. -/
def StructBetween (l r : List Char) : Prop :=
  l.getLast?.any isWord = false ∧
    ∃ rest, closedOneOf? ["struct", "union"] r = some rest ∧ ∀ c ∈ rest, isHeadChar c = true

theorem endsWithStruct_iff (s : List Char) :
    endsWithStruct s = true ↔ ∃ l r, s = l ++ r ∧ StructBetween l r := by
  have hplace : ∀ l r, ((Place.between l r).oneOf? ["struct", "union"]).any
      (fun rest => rest.all isHeadChar) = true ↔ StructBetween l r := by
    intro l r
    have hopen : (Place.between l r).isOpen = !l.getLast?.any isWord := rfl
    have hafter : (Place.between l r).after = r := rfl
    rw [Option.any_eq_true, Place.oneOf?, StructBetween, hopen, hafter]
    cases l.getLast?.any isWord <;> simp
  rw [endsWithStruct, List.any_eq_true]
  constructor
  · rintro ⟨p, hp, hstruct⟩
    obtain ⟨l, r, hs, rfl⟩ := mem_places_iff.1 hp
    exact ⟨l, r, hs, (hplace l r).1 hstruct⟩
  · rintro ⟨l, r, hs, hstruct⟩
    exact ⟨.between l r, mem_places_iff.2 ⟨l, r, hs, rfl⟩, (hplace l r).2 hstruct⟩

section Blank

variable {b : Char} (hb : isBlank b = true)
include hb

theorem isHeadChar_of_isBlank : isHeadChar b = true := by
  have hne : ∀ c, isBlank c = false → b ≠ c := fun c => ne_of_isBlank hb
  simp [isHeadChar, hne ';' (by decide), hne '(' (by decide), hne ')' (by decide),
    hne '=' (by decide)]

/-- A head that begins before a blank goes on over it. -/
theorem structBetween_append_cons (l r t : List Char) :
    StructBetween l (r ++ b :: t) ↔ StructBetween l r ∧ ∀ c ∈ t, isHeadChar c = true := by
  have hnone : ∀ w ∈ ["struct", "union"], w.toList.all (!isBlank ·) = true := by decide
  have hwords : ∀ w ∈ ["struct", "union"], b ∉ w.toList := by
    intro w hw hmem
    simpa [hb] using List.all_eq_true.1 (hnone w hw) b hmem
  rw [StructBetween, StructBetween, closedOneOf?_append_cons hwords (isWord_of_isBlank hb)]
  cases closedOneOf? ["struct", "union"] r with
  | none => simp
  | some rest =>
    simp [isHeadChar_of_isBlank hb, or_imp, forall_and, and_assoc]

/-- Behind a blank it is as at the start of a text. -/
theorem structBetween_cons_left (s l r : List Char) :
    StructBetween (s ++ b :: l) r ↔ StructBetween l r := by
  have hlast : (s ++ b :: l).getLast?.any isWord = l.getLast?.any isWord := by
    rw [List.getLast?_append, List.getLast?_cons]
    cases l.getLast? <;> simp [isWord_of_isBlank hb]
  rw [StructBetween, StructBetween, hlast]

/-- A head goes on over a blank, or begins behind it. -/
theorem endsWithStruct_append_cons (s t : List Char) :
    endsWithStruct (s ++ b :: t) = true ↔
      endsWithStruct t = true ∨ endsWithStruct s = true ∧ ∀ c ∈ t, isHeadChar c = true := by
  simp only [endsWithStruct_iff]
  constructor
  · rintro ⟨l, r, hs, hstruct⟩
    rcases List.append_eq_append_iff.1 hs with ⟨m, rfl, hm⟩ | ⟨m, rfl, rfl⟩
    · cases m with
      | nil =>
        rw [List.nil_append] at hm
        rw [← hm] at hstruct
        obtain ⟨hs, ht⟩ := (structBetween_append_cons hb _ [] t).1 hstruct
        exact .inr ⟨⟨_, [], by simp, hs⟩, ht⟩
      | cons d m =>
        obtain ⟨rfl, rfl⟩ := List.cons_eq_cons.1 hm
        exact .inl ⟨m, r, rfl, (structBetween_cons_left hb s m r).1 hstruct⟩
    · obtain ⟨hs, ht⟩ := (structBetween_append_cons hb l m t).1 hstruct
      exact .inr ⟨⟨l, m, rfl, hs⟩, ht⟩
  · rintro (⟨l, r, rfl, hstruct⟩ | ⟨⟨l, r, rfl, hstruct⟩, ht⟩)
    · exact ⟨s ++ b :: l, r, by simp, (structBetween_cons_left hb s l r).2 hstruct⟩
    · exact ⟨l, r ++ b :: t, by simp, (structBetween_append_cons hb l r t).2 ⟨hstruct, ht⟩⟩

end Blank

/-- Blanks do not matter for what may stand in a head. -/
theorem all_isHeadChar_flatten_words (s : List Char) :
    (words s).flatten.all isHeadChar = s.all isHeadChar := by
  rw [flatten_words, Bool.eq_iff_iff, List.all_eq_true, List.all_eq_true]
  constructor
  · intro h c hc
    by_cases hblank : isBlank c = true
    · exact isHeadChar_of_isBlank hblank
    · exact h c (List.mem_filter.2 ⟨hc, by simpa using hblank⟩)
  · intro h c hc
    exact h c (List.mem_filter.1 hc).1

/-- Whether words end with the head of a struct or union. -/
def wordsEndWithStruct : List (List Char) → Bool
  | [] => false
  | w :: ws => wordsEndWithStruct ws || (endsWithStruct w && ws.flatten.all isHeadChar)

/-- Whether a text ends with the head of a struct or union can be read off its words. -/
theorem endsWithStruct_eq (s : List Char) :
    endsWithStruct s = wordsEndWithStruct (words s) := by
  have hnil : endsWithStruct [] = false := by decide
  have hblank : ∀ b t, isBlank b = true → endsWithStruct (b :: t) = endsWithStruct t := by
    intro b t hb
    have hcons := endsWithStruct_append_cons hb [] t
    rw [List.nil_append, hnil] at hcons
    rw [Bool.eq_iff_iff, hcons]
    simp
  fun_induction words s with
  | case1 => exact hnil
  | case2 c s hc ih => rw [hblank c s hc, ih]
  | case3 c s hc ih =>
    have hsplit : c :: s = (c :: s.takeWhile (!isBlank ·)) ++ s.dropWhile (!isBlank ·) := by
      rw [List.cons_append, List.takeWhile_append_dropWhile]
    have hrest := List.head?_dropWhile_not (!isBlank ·) s
    rw [wordsEndWithStruct, all_isHeadChar_flatten_words, ← ih, hsplit]
    cases hdrop : s.dropWhile (!isBlank ·) with
    | nil => simp [hnil]
    | cons b t =>
      have hb : isBlank b = true := by simpa [hdrop] using hrest
      rw [Bool.eq_iff_iff, endsWithStruct_append_cons hb, hblank b t hb]
      simp [isHeadChar_of_isBlank hb]

/-- The kind of a body depends on the open bodies and the words of the text before its brace. -/
theorem kindAfter_congr {b b' : Bodies} {text text' : List Char} (hstack : b.stack = b'.stack)
    (hwords : words (b.header ++ ' ' :: text) = words (b'.header ++ ' ' :: text')) :
    b.kindAfter text = b'.kindAfter text' := by
  simp only [kindAfter, endsWithStruct_eq, words_trim, getLast?_trim, hwords, hstack]

/-! ### Trackers in step -/

/-- Trackers with the same open bodies and the same words in their headers. -/
structure Alike (b b' : Bodies) : Prop where
  /-- The same bodies are open. -/
  stack : b.stack = b'.stack
  /-- The headers have the same words. -/
  header : words b.header = words b'.header

@[simp] theorem stack_extend (b : Bodies) (text : List Char) : (b.extend text).stack = b.stack := by
  unfold extend
  split <;> rfl

/-- The header takes up the words of the text. -/
theorem words_header_extend (b : Bodies) (text : List Char) :
    words (b.extend text).header = words (b.header ++ ' ' :: text) := by
  rw [words_append_cons isBlank_space]
  unfold extend
  split
  · next hempty =>
    have hblank := trim_eq_nil_iff.1 (List.isEmpty_iff.1 hempty)
    rw [words_of_blank hblank, List.append_nil]
  · rw [words_trim, words_append_cons isBlank_space, words_trim]

namespace Reading

/-- The text by which the next opening brace is judged. -/
def pending (r : Reading) : List Char := r.bodies.header ++ ' ' :: r.seen.reverse

/-- Readings with the same open bodies and pending texts that have the same words, whatever is read
next. -/
structure InStep (r r' : Reading) : Prop where
  /-- The same bodies are open. -/
  stack : r.bodies.stack = r'.bodies.stack
  /-- The pending texts have the same words whatever follows, for a letter may go on with a word. -/
  pending : ∀ t, words (r.pending ++ t) = words (r'.pending ++ t)

variable {r r' : Reading}

theorem pending_cons (b : Bodies) (seen : List Char) (c : Char) :
    (⟨b, c :: seen⟩ : Reading).pending = (⟨b, seen⟩ : Reading).pending ++ [c] := by
  simp [pending]

theorem InStep.words_pending (h : r.InStep r') : words r.pending = words r'.pending := by
  simpa using h.pending []

theorem InStep.next (h : r.InStep r') (c : Char) : (r.next c).InStep (r'.next c) := by
  have hkind : r.bodies.kindAfter r.seen.reverse = r'.bodies.kindAfter r'.seen.reverse :=
    kindAfter_congr h.stack h.words_pending
  unfold Reading.next
  split
  · exact ⟨by rw [hkind, h.stack], fun _ => rfl⟩
  · split
    · exact ⟨by rw [h.stack], fun _ => rfl⟩
    · split
      · exact ⟨h.stack, fun _ => rfl⟩
      · refine ⟨h.stack, fun t => ?_⟩
        rw [pending_cons, pending_cons, List.append_assoc, List.append_assoc]
        exact h.pending _

theorem InStep.foldl (h : r.InStep r') (s : List Char) :
    (s.foldl Reading.next r).InStep (s.foldl Reading.next r') := by
  induction s generalizing r r' with
  | nil => exact h
  | cons c s ih => exact ih (h.next c)

theorem InStep.finish (h : r.InStep r') : r.finish.Alike r'.finish where
  stack := by rw [Reading.finish, Reading.finish, stack_extend, stack_extend, h.stack]
  header := by
    rw [Reading.finish, Reading.finish, words_header_extend, words_header_extend]
    exact h.words_pending

/-- A space has the effect of a line break. -/
theorem inStep_finish_next_space (r : Reading) :
    (⟨r.finish, []⟩ : Reading).InStep (r.next ' ') where
  stack := stack_extend _ _
  pending t := by
    have hspace : (r.next ' ').pending = r.pending ++ [' '] := pending_cons r.bodies r.seen ' '
    have hfinish : (⟨r.finish, []⟩ : Reading).pending = r.finish.header ++ [' '] := rfl
    have hheader : words r.finish.header = words r.pending := words_header_extend _ _
    rw [hspace, hfinish, List.append_assoc, List.append_assoc, List.singleton_append,
      words_append_cons isBlank_space, words_append_cons isBlank_space, hheader]

end Reading

namespace Alike

variable {b b' : Bodies}

theorem start (h : b.Alike b') : (⟨b, []⟩ : Reading).InStep ⟨b', []⟩ where
  stack := h.stack
  pending t := by
    rw [Reading.pending, Reading.pending, List.append_assoc, List.append_assoc]
    exact (words_append_cons isBlank_space _ _).trans
      (h.header ▸ (words_append_cons isBlank_space _ _).symm)

/-- Trackers that are alike before a line are alike after it. -/
theorem read (h : b.Alike b') (line : CodeLine) : (b.read line).Alike (b'.read line) := by
  unfold Bodies.read
  split
  · exact ⟨h.stack, rfl⟩
  · rw [readFrom_eq_finish_foldl, readFrom_eq_finish_foldl]
    exact (h.start.foldl line.code).finish

theorem readLines (h : b.Alike b') (lines : List CodeLine) :
    (b.readLines lines).Alike (b'.readLines lines) := by
  induction lines generalizing b b' with
  | nil => exact h
  | cons line lines ih => exact ih (h.read line)

end Alike

/-- Two lines and the line that joins them leave trackers alike. -/
theorem alike_read_read {first second joined : CodeLine} (hfirst : first.isDirective = false)
    (hsecond : second.isDirective = false) (hdirective : joined.isDirective = false)
    (hjoined : joined.code = first.code ++ ' ' :: second.code) (b : Bodies) :
    ((b.read first).read second).Alike (b.read joined) := by
  have hread : ∀ (b : Bodies) {line : CodeLine}, line.isDirective = false →
      b.read line = (line.code.foldl Reading.next ⟨b, []⟩).finish := by
    intro b line hline
    rw [read, if_neg (by simp [hline]), readFrom_eq_finish_foldl]
  rw [hread _ hsecond, hread b hfirst, hread b hdirective, hjoined, List.foldl_append,
    List.foldl_cons]
  exact ((first.code.foldl Reading.next ⟨b, []⟩).inStep_finish_next_space.foldl second.code).finish

end Bodies

/-- Lines that are no directives do not become one when they are joined. -/
theorem CodeLine.isDirective_of_joined {first second joined : CodeLine}
    (hfirst : first.isDirective = false) (hsecond : second.isDirective = false)
    (hjoined : joined.code = first.code ++ ' ' :: second.code) : joined.isDirective = false := by
  unfold isDirective at *
  rw [hjoined, trimStart, List.dropWhile_append]
  split
  · rw [List.dropWhile_cons_of_pos isBlank_space]
    exact hsecond
  · next hne =>
    have hne : trimStart first.code ≠ [] := by simpa [trimStart] using hne
    rw [← trimStart, List.head?_append_of_ne_nil _ hne]
    exact hfirst

/-- Wherever lines are broken, the tracker of bodies has the same open bodies and the same words in
its header. -/
theorem joined_lines_read_alike (before : List CodeLine) {first second joined : CodeLine}
    (hfirst : first.isDirective = false) (hsecond : second.isDirective = false)
    (hjoined : joined.code = first.code ++ ' ' :: second.code) :
    let b := Bodies.readLines {} before
    let apart := (b.read first).read second
    let together := b.read joined
    apart.stack = together.stack ∧ words apart.header = words together.header ∧
      trim apart.header = apart.header ∧ trim together.header = together.header ∧
      ∀ lines, (apart.readLines lines).stack = (together.readLines lines).stack := by
  intro b apart together
  have hdirective := CodeLine.isDirective_of_joined hfirst hsecond hjoined
  have halike : apart.Alike together :=
    Bodies.alike_read_read hfirst hsecond hdirective hjoined b
  have hsound : b.IsSound := Bodies.isSound_empty.readLines before
  exact ⟨halike.stack, halike.header, ((hsound.read first).read second).header_trimmed,
    (hsound.read joined).header_trimmed, fun lines => (halike.readLines lines).stack⟩

/-- A function head broken before a parameter of a struct type: the body is the function's either
way, but the headers differ in blanks. -/
theorem joined_lines_read_alike_parameters :
    let first : CodeLine := ⟨1, [], "int f(int a,\t".toList⟩
    let second : CodeLine := ⟨2, [], "  struct s *b)".toList⟩
    let joined : CodeLine := ⟨1, [], "int f(int a,\t   struct s *b)".toList⟩
    let brace : CodeLine := ⟨3, [], "\x7b struct t \x7b".toList⟩
    let apart := (({} : Bodies).read first).read second
    let together := ({} : Bodies).read joined
    first.isDirective = false ∧ second.isDirective = false ∧ apart ≠ together ∧
      apart.stack = together.stack ∧ words apart.header = words together.header ∧
      (apart.readLines [brace]).stack = [.struct, .function] ∧
      (together.readLines [brace]).stack = [.struct, .function] := by
  intro first second joined brace
  dsimp only
  have hfirst : first.isDirective = false := by decide +kernel
  have hsecond : second.isDirective = false := by decide +kernel
  have hjoined : joined.code = first.code ++ ' ' :: second.code := by decide +kernel
  obtain ⟨hsame, hwords, -, -, hlater⟩ := joined_lines_read_alike [] hfirst hsecond hjoined
  have hstart : Bodies.readLines {} [] = {} := rfl
  rw [hstart] at hsame hwords hlater
  rw [← hlater [brace]]
  have hstack : ((({} : Bodies).read first).read second |>.readLines [brace]).stack =
      [.struct, .function] := by decide +kernel
  exact ⟨hfirst, hsecond, by decide +kernel, hsame, hwords, hstack, hstack⟩

end DefectScan
