import DefectScan.Arguments
import DefectScan.Proofs.Lexemes

/-!
# Printed argument lists

A text is balanced when all its literals are closed and its brackets match. Cutting goes over a
balanced text as over a single character: it comes back to the depth it started with, outside of
literals, and has seen no separating comma on the way. So the arguments of a printed list come back
as they were written, wherever the list stands.
-/

namespace DefectScan

open Text

/-! ### Balanced texts -/

/-- The three shapes of brackets. -/
inductive Bracket where
  | round
  | square
  | curly
  deriving DecidableEq, Repr

/-- The character that opens a group. -/
def Bracket.opening : Bracket → Char
  | round => '('
  | square => '['
  | curly => '{'

/-- The character that closes a group. -/
def Bracket.closing : Bracket → Char
  | round => ')'
  | square => ']'
  | curly => '}'

/-- A character that is no quote, no bracket and no comma. -/
def IsOrdinary (c : Char) : Prop := c ∉ ['"', '\'', '(', '[', '{', ')', ']', '}', ',']

instance (c : Char) : Decidable (IsOrdinary c) := inferInstanceAs (Decidable (c ∉ _))

/-- What may stand in a closed literal: a backslash takes the next character with it, and the quote
stands only behind one. -/
inductive Quoted (quote : Quote) : List Char → Prop where
  | nil : Quoted quote []
  | char {c : Char} {s : List Char} (hquote : c ≠ quote.char) (hescape : c ≠ '\\') :
      Quoted quote s → Quoted quote (c :: s)
  | pair {s : List Char} (c : Char) : Quoted quote s → Quoted quote ('\\' :: c :: s)

/-- A text of ordinary characters, closed literals and matching groups. Commas stand inside groups,
and outside of them only where `commas` allows it. -/
inductive Balanced : (commas : Bool) → List Char → Prop where
  | nil {commas : Bool} : Balanced commas []
  | ordinary {commas : Bool} {c : Char} {s : List Char} :
      IsOrdinary c → Balanced commas s → Balanced commas (c :: s)
  | comma {s : List Char} : Balanced true s → Balanced true (',' :: s)
  | literal {commas : Bool} {body s : List Char} (quote : Quote) :
      Quoted quote body → Balanced commas s →
      Balanced commas (quote.char :: (body ++ quote.char :: s))
  | group {commas : Bool} {inner s : List Char} (bracket : Bracket) :
      Balanced true inner → Balanced commas s →
      Balanced commas (bracket.opening :: (inner ++ bracket.closing :: s))

theorem Balanced.append {commas : Bool} {s t : List Char} (hs : Balanced commas s)
    (ht : Balanced commas t) : Balanced commas (s ++ t) := by
  induction hs with
  | nil => exact ht
  | ordinary hc _ ih => exact .ordinary hc (ih ht)
  | comma _ ih => exact .comma (ih ht)
  | literal quote hbody _ ih =>
    rw [List.cons_append, List.append_assoc, List.cons_append]
    exact .literal quote hbody (ih ht)
  | group bracket hinner _ _ ih =>
    rw [List.cons_append, List.append_assoc, List.cons_append]
    exact .group bracket hinner (ih ht)

theorem balanced_of_isOrdinary {commas : Bool} {s : List Char} (h : ∀ c ∈ s, IsOrdinary c) :
    Balanced commas s := by
  induction s with
  | nil => exact .nil
  | cons c s ih =>
    obtain ⟨hc, hs⟩ := List.forall_mem_cons.1 h
    exact .ordinary hc (ih hs)

/-- An argument as it is printed: balanced, not empty, without commas outside of groups and without
blanks at its ends. -/
structure IsArgument (s : List Char) : Prop where
  /-- The literals are closed and the brackets match. -/
  balanced : Balanced false s
  /-- There is something to read. -/
  ne_nil : s ≠ []
  /-- The argument does not begin with a blank. -/
  head : s.head?.any isBlank = false
  /-- The argument does not end with a blank. -/
  last : s.getLast?.any isBlank = false

/-- A list of arguments as it is printed between its parentheses. -/
def printArguments (args : List (List Char)) : List Char := [',', ' '].intercalate args

/-! ### Cutting over a balanced text -/

/-- Several characters in front of the first piece. -/
def Pieces.prepend (s : List Char) (p : Pieces) : Pieces :=
  ⟨s ++ p.first, p.others, s.length + p.used⟩

@[simp] theorem Pieces.prepend_nil (p : Pieces) : p.prepend [] = p := by
  simp [prepend]

@[simp] theorem Pieces.cons_prepend (c : Char) (s : List Char) (p : Pieces) :
    (p.prepend s).cons c = p.prepend (c :: s) := by
  simp [prepend, cons, Nat.add_right_comm]

@[simp] theorem Pieces.prepend_prepend (s t : List Char) (p : Pieces) :
    (p.prepend t).prepend s = p.prepend (s ++ t) := by
  simp [prepend, Nat.add_assoc]

section Steps

variable (depth : Nat) (rest : List Char)

/-- What cutting does at a character outside of literals. -/
theorem pieces_cons (c : Char) :
    pieces depth none (c :: rest) =
      if c = '"' ∨ c = '\'' then (pieces depth (some c) rest).cons c
      else if c = '(' ∨ c = '[' ∨ c = '{' then (pieces (depth + 1) none rest).cons c
      else if c = ')' ∧ depth = 0 then .none
      else if c = ')' ∨ c = ']' ∨ c = '}' then (pieces (depth - 1) none rest).cons c
      else if c = ',' ∧ depth = 0 then (pieces depth none rest).comma
      else (pieces depth none rest).cons c := rfl

/-- What cutting does at a character of a literal that takes no other with it. -/
theorem pieces_quoted_cons {c : Char} (h : c ≠ '\\') (q : Char) :
    pieces depth (some q) (c :: rest) =
      if c = q then (pieces depth none rest).cons c else (pieces depth (some q) rest).cons c := by
  cases rest <;> exact if_neg h

theorem pieces_ordinary {c : Char} (h : IsOrdinary c) :
    pieces depth none (c :: rest) = (pieces depth none rest).cons c := by
  simp only [IsOrdinary, List.mem_cons, List.not_mem_nil, or_false, not_or] at h
  simp [pieces_cons, h]

/-- A comma inside a group separates nothing. -/
theorem pieces_comma (h : 0 < depth) :
    pieces depth none (',' :: rest) = (pieces depth none rest).cons ',' := by
  have hdepth : depth ≠ 0 := Nat.pos_iff_ne_zero.1 h
  simp [pieces_cons, hdepth]

theorem pieces_quote (quote : Quote) :
    pieces depth none (quote.char :: rest) =
      (pieces depth (some quote.char) rest).cons quote.char := by
  cases quote <;> rfl

theorem pieces_opening (bracket : Bracket) :
    pieces depth none (bracket.opening :: rest) =
      (pieces (depth + 1) none rest).cons bracket.opening := by
  cases bracket <;> rfl

theorem pieces_closing (bracket : Bracket) :
    pieces (depth + 1) none (bracket.closing :: rest) =
      (pieces depth none rest).cons bracket.closing := by
  cases bracket <;> simp [pieces_cons, Bracket.closing]

theorem pieces_quoted_char {quote : Quote} {c : Char} (hquote : c ≠ quote.char)
    (hescape : c ≠ '\\') :
    pieces depth (some quote.char) (c :: rest) = (pieces depth (some quote.char) rest).cons c := by
  rw [pieces_quoted_cons depth rest hescape, if_neg hquote]

theorem pieces_quoted_pair (quote : Quote) (c : Char) :
    pieces depth (some quote.char) ('\\' :: c :: rest) =
      ((pieces depth (some quote.char) rest).cons c).cons '\\' := rfl

theorem pieces_quoted_close (quote : Quote) :
    pieces depth (some quote.char) (quote.char :: rest) =
      (pieces depth none rest).cons quote.char := by
  rw [pieces_quoted_cons depth rest quote.char_ne_backslash, if_pos rfl]

/-- The inside of a literal belongs to one piece. -/
theorem pieces_quoted {quote : Quote} {body : List Char} (h : Quoted quote body) :
    pieces depth (some quote.char) (body ++ rest) =
      (pieces depth (some quote.char) rest).prepend body := by
  induction h with
  | nil => simp
  | char hquote hescape _ ih =>
    rw [List.cons_append, pieces_quoted_char depth _ hquote hescape, ih, Pieces.cons_prepend]
  | pair c _ ih =>
    rw [List.cons_append, List.cons_append, pieces_quoted_pair, ih, Pieces.cons_prepend,
      Pieces.cons_prepend]

end Steps

/-- A balanced text belongs to one piece; where it has commas of its own, it has to stand inside a
group. -/
theorem pieces_balanced {commas : Bool} {s : List Char} (h : Balanced commas s) {depth : Nat}
    (hdepth : commas = true → 0 < depth) (rest : List Char) :
    pieces depth none (s ++ rest) = (pieces depth none rest).prepend s := by
  induction h generalizing depth rest with
  | nil => simp
  | ordinary hc _ ih => rw [List.cons_append, pieces_ordinary depth _ hc, ih hdepth]; simp
  | comma _ ih => rw [List.cons_append, pieces_comma depth _ (hdepth rfl), ih hdepth]; simp
  | literal quote hbody _ ih =>
    rw [List.cons_append, List.append_assoc, List.cons_append, pieces_quote,
      pieces_quoted depth _ hbody, pieces_quoted_close, ih hdepth]
    simp
  | group bracket _ _ ihinner ih =>
    rw [List.cons_append, List.append_assoc, List.cons_append, pieces_opening,
      ihinner fun _ => Nat.succ_pos depth, pieces_closing, ih hdepth]
    simp

/-! ### Printed lists -/

@[simp] theorem printArguments_singleton (a : List Char) : printArguments [a] = a := by
  simp [printArguments, List.intercalate]

theorem printArguments_cons_cons (a b : List Char) (args : List (List Char)) :
    printArguments (a :: b :: args) = a ++ ',' :: ' ' :: printArguments (b :: args) := by
  simp [printArguments, List.intercalate]

/-- What stands in front of a printed list stands in front of its first argument. -/
theorem append_printArguments (s a : List Char) (args : List (List Char)) :
    s ++ printArguments (a :: args) = printArguments ((s ++ a) :: args) := by
  cases args with
  | nil => simp
  | cons b args => rw [printArguments_cons_cons, printArguments_cons_cons, List.append_assoc]

theorem cases_of_mem_printArguments {args : List (List Char)} {c : Char}
    (hc : c ∈ printArguments args) : c = ',' ∨ c = ' ' ∨ ∃ a ∈ args, c ∈ a := by
  induction args with
  | nil => cases hc
  | cons a args ih =>
    cases args with
    | nil => exact .inr (.inr ⟨a, List.mem_cons_self, by simpa using hc⟩)
    | cons b args =>
      rw [printArguments_cons_cons, List.mem_append, List.mem_cons, List.mem_cons] at hc
      rcases hc with hc | hc | hc | hc
      · exact .inr (.inr ⟨a, List.mem_cons_self, hc⟩)
      · exact .inl hc
      · exact .inr (.inl hc)
      · rcases ih hc with h | h | ⟨e, he, hc⟩
        · exact .inl h
        · exact .inr (.inl h)
        · exact .inr (.inr ⟨e, List.mem_cons_of_mem a he, hc⟩)

/-- The pieces of a printed list are its arguments, with a space in front of all but the first. -/
theorem pieces_printArguments {a : List Char} {args : List (List Char)}
    (h : ∀ b ∈ a :: args, Balanced false b) (post : List Char) :
    pieces 0 none (printArguments (a :: args) ++ ')' :: post) =
      ⟨a, args.map (' ' :: ·), (printArguments (a :: args)).length⟩ := by
  have ha := h a List.mem_cons_self
  induction args generalizing a with
  | nil =>
    rw [printArguments_singleton, pieces_balanced ha nofun]
    simp [pieces, Pieces.prepend, Pieces.none]
  | cons b args ih =>
    have hrest : ∀ c ∈ b :: args, Balanced false c := fun c hc => h c (List.mem_cons_of_mem a hc)
    have hcomma : ∀ s, pieces 0 none (',' :: ' ' :: s) = ((pieces 0 none s).cons ' ').comma := by
      simp [pieces]
    rw [printArguments_cons_cons, List.append_assoc, List.cons_append, List.cons_append,
      pieces_balanced ha nofun, hcomma, ih hrest (hrest b List.mem_cons_self)]
    simp [Pieces.prepend, Pieces.comma, Pieces.cons]

theorem IsArgument.trim_eq {s : List Char} (h : IsArgument s) : trim s = s := by
  rw [trim, trimStart_eq_self h.head, trimEnd_eq_self h.last]

theorem IsArgument.trim_space_cons {s : List Char} (h : IsArgument s) : trim (' ' :: s) = s := by
  have hspace : ∀ c ∈ [' '], isBlank c = true := by simp [isBlank_space]
  have htrim := trim_append_append (s := s) hspace (List.forall_mem_nil _)
  rw [List.append_nil] at htrim
  exact htrim.trans h.trim_eq

theorem any_head?_append {p : Char → Bool} {s : List Char} (hs : s ≠ []) (t : List Char) :
    (s ++ t).head?.any p = s.head?.any p := by
  rw [List.head?_append, List.head?_eq_some_head hs, Option.some_or]

theorem any_getLast?_append {p : Char → Bool} (s : List Char) {t : List Char} (ht : t ≠ []) :
    (s ++ t).getLast?.any p = t.getLast?.any p := by
  rw [List.getLast?_append, List.getLast?_eq_some_getLast ht, Option.some_or]

theorem any_head?_printArguments {a : List Char} (ha : a ≠ []) (args : List (List Char))
    (p : Char → Bool) : (printArguments (a :: args)).head?.any p = a.head?.any p := by
  cases args with
  | nil => rw [printArguments_singleton]
  | cons b args => rw [printArguments_cons_cons, any_head?_append ha]

/-- A printed list of arguments does not end with a blank. -/
theorem any_getLast?_printArguments {a : List Char} {args : List (List Char)}
    (h : ∀ b ∈ a :: args, IsArgument b) :
    printArguments (a :: args) ≠ [] ∧
      (printArguments (a :: args)).getLast?.any isBlank = false := by
  induction args generalizing a with
  | nil =>
    have ha := h a List.mem_cons_self
    rw [printArguments_singleton]
    exact ⟨ha.ne_nil, ha.last⟩
  | cons b args ih =>
    obtain ⟨hne, hlast⟩ := ih fun c hc => h c (List.mem_cons_of_mem a hc)
    have hprint : printArguments (a :: b :: args) =
        (a ++ [',', ' ']) ++ printArguments (b :: args) := by
      rw [printArguments_cons_cons, List.append_assoc]
      rfl
    rw [hprint, any_getLast?_append _ hne]
    exact ⟨by simp, hlast⟩

/-- A printed list of arguments has no blanks at its ends. -/
theorem trim_printArguments {a : List Char} {args : List (List Char)}
    (h : ∀ b ∈ a :: args, IsArgument b) :
    trim (printArguments (a :: args)) = printArguments (a :: args) := by
  have ha := h a List.mem_cons_self
  have hhead : (printArguments (a :: args)).head?.any isBlank = false :=
    (any_head?_printArguments ha.ne_nil args isBlank).trans ha.head
  rw [trim, trimStart_eq_self hhead, trimEnd_eq_self (any_getLast?_printArguments h).2]

/-- The pieces of a printed list give back its arguments. -/
theorem arguments_printArguments {args : List (List Char)} (h : ∀ a ∈ args, IsArgument a)
    (post : List Char) :
    (pieces 0 none (printArguments args ++ ')' :: post)).arguments = args ∧
      (pieces 0 none (printArguments args ++ ')' :: post)).used = (printArguments args).length := by
  cases args with
  | nil => exact ⟨rfl, rfl⟩
  | cons a args =>
    rw [pieces_printArguments fun b hb => (h b hb).balanced]
    refine ⟨?_, rfl⟩
    have hothers : (args.map (' ' :: ·)).map trim = args := by
      rw [List.map_map]
      exact (List.map_congr_left fun b hb =>
        (h b (List.mem_cons_of_mem a hb)).trim_space_cons).trans (List.map_id args)
    have hlast : (a :: args).getLast? ≠ some [] := by
      intro hlast
      exact (h [] (List.mem_of_getLast? hlast)).ne_nil rfl
    rw [Pieces.arguments, List.map_cons, (h a List.mem_cons_self).trim_eq, hothers]
    exact if_neg hlast

/-- Cutting a printed list of arguments, in a line or alone, gives back the arguments and the place
of the closing parenthesis. -/
theorem splitArguments_printArguments (args : List (List Char)) (h : ∀ a ∈ args, IsArgument a)
    (pre post : List Char) :
    splitArguments (pre ++ '(' :: (printArguments args ++ ')' :: post)) (pre.length + 1) =
        (args, pre.length + 1 + (printArguments args).length) ∧
      splitTopLevel (printArguments args) = args := by
  obtain ⟨harguments, hused⟩ := arguments_printArguments h post
  constructor
  · have hdrop : (pre ++ '(' :: (printArguments args ++ ')' :: post)).drop (pre.length + 1) =
        printArguments args ++ ')' :: post := by
      simp [List.drop_append]
    rw [splitArguments, hdrop, harguments, hused]
  · exact (arguments_printArguments h []).1

/-- Commas and parentheses in a literal, in a call and in an index separate nothing. -/
theorem splitArguments_printArguments_nested :
    let args := ["\"%d, \\\")\"".toList, "f(x, [y])".toList]
    (∀ a ∈ args, IsArgument a) ∧
      splitArguments "  printf(\"%d, \\\")\", f(x, [y])); // )".toList 9 = (args, 29) ∧
      splitTopLevel "\"%d, \\\")\", f(x, [y])".toList = args := by
  intro args
  have hquoted : Quoted .double "%d, \\\")".toList :=
    .char (by decide) (by decide) (.char (by decide) (by decide) (.char (by decide) (by decide)
      (.char (by decide) (by decide) (.pair '"' (.char (by decide) (by decide) .nil)))))
  have hliteral : IsArgument "\"%d, \\\")\"".toList :=
    ⟨show Balanced false ('"' :: ("%d, \\\")".toList ++ ['"'])) from .literal .double hquoted .nil,
      by decide, by decide, by decide⟩
  have hindex : Balanced true "[y]".toList :=
    show Balanced true ('[' :: (['y'] ++ [']'])) from
      .group .square (.ordinary (by decide) .nil) .nil
  have hinner : Balanced true "x, [y]".toList :=
    .ordinary (by decide) (.comma (.ordinary (by decide) hindex))
  have hcall : IsArgument "f(x, [y])".toList :=
    ⟨.ordinary (by decide)
      (show Balanced false ('(' :: ("x, [y]".toList ++ [')'])) from .group .round hinner .nil),
      by decide, by decide, by decide⟩
  have hargs : ∀ a ∈ args, IsArgument a := by
    intro a ha
    rcases List.mem_cons.1 ha with rfl | ha
    · exact hliteral
    · rw [List.mem_singleton.1 ha]
      exact hcall
  obtain ⟨hcut, htop⟩ := splitArguments_printArguments args hargs "  printf".toList "; // )".toList
  exact ⟨hargs, hcut, htop⟩

end DefectScan
