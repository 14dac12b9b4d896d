import DefectScan.Proofs.Entries

/-!
# Names behind stars

Whether a line dereferences or assigns a name is decided by looking at the occurrences of the name
one by one: at the characters in front of each and at the text behind it. The module restates both
questions for single occurrences and answers them for the occurrences behind stars that stand where
an expression begins: at the start of the line, behind a punctuator, or behind `return`. The star is
read as a dereference except in one case, a single star behind `return`. The name is not taken to be
assigned except in one case, blanks between the last star and the name.
-/

namespace DefectScan

open Text

/-! ### Dereferences by a star -/

/-- What remains after a run at the start of a text. -/
theorem mem_afterRuns_iff {p : Char → Bool} {s r : List Char} :
    r ∈ afterRuns p s ↔ ∃ run, s = run ++ r ∧ ∀ c ∈ run, p c = true := by
  induction s with
  | nil =>
    rw [afterRuns, List.mem_singleton]
    constructor
    · rintro rfl
      exact ⟨[], rfl, by simp⟩
    · rintro ⟨run, hrun, -⟩
      exact (List.append_eq_nil_iff.1 hrun.symm).2
  | cons c s ih =>
    have hrest : (∃ run, c :: s = run ++ r ∧ ∀ d ∈ run, p d = true) ↔
        r = c :: s ∨ p c = true ∧ ∃ run, s = run ++ r ∧ ∀ d ∈ run, p d = true := by
      constructor
      · rintro ⟨run, hrun, hp⟩
        cases run with
        | nil => exact .inl hrun.symm
        | cons d run =>
          obtain ⟨rfl, hs⟩ := List.cons.inj hrun
          obtain ⟨hc, hp⟩ := List.forall_mem_cons.1 hp
          exact .inr ⟨hc, run, hs, hp⟩
      · rintro (rfl | ⟨hc, run, rfl, hp⟩)
        · exact ⟨[], rfl, by simp⟩
        · exact ⟨c :: run, rfl, List.forall_mem_cons.2 ⟨hc, hp⟩⟩
    rw [hrest, ← ih, afterRuns]
    split
    · next hc => simp [hc, or_comm]
    · next hc => simp [hc]

theorem isSome_closedWord?_iff {w s : List Char} :
    (closedWord? w s).isSome = true ↔ ∃ r, s = w ++ r ∧ startsWord r = false := by
  rw [Option.isSome_iff_exists]
  simp [closedWord?, Option.filter_eq_some_iff, after?_eq_some_iff]

/-- Whether a star behind a text is unary: it is empty or ends with no blank, word character,
closing parenthesis or bracket. -/
def endsNoOperand (front : List Char) : Bool :=
  front.getLast?.all fun c => !(isWord c || c == ')' || c == ']' || isBlank c)

/-- A text that ends with a run of stars, blanks around it, behind no operand. -/
def EndsUnaryStar (before : List Char) : Prop :=
  ∃ front blanks stars spaces,
    before = front ++ (blanks ++ '*' :: (stars ++ spaces)) ∧ endsNoOperand front = true ∧
      (∀ c ∈ blanks, isBlank c = true) ∧ (∀ c ∈ stars, c = '*') ∧ ∀ c ∈ spaces, isBlank c = true

/-- A text starts with a starred name if it goes on with the name behind blanks and stars. -/
theorem startsStarred_iff {name s : List Char} :
    startsStarred name s = true ↔
      ∃ blanks stars spaces after,
        s = blanks ++ '*' :: (stars ++ (spaces ++ (name ++ after))) ∧
          (∀ c ∈ blanks, isBlank c = true) ∧ (∀ c ∈ stars, c = '*') ∧
          (∀ c ∈ spaces, isBlank c = true) ∧ startsWord after = false := by
  have hbehind : ∀ t : List Char,
      ((afterRuns (· == '*') t).any fun rest =>
        (afterRuns isBlank rest).any fun rest => (closedWord? name rest).isSome) = true ↔
      ∃ stars spaces after, t = stars ++ (spaces ++ (name ++ after)) ∧ (∀ c ∈ stars, c = '*') ∧
        (∀ c ∈ spaces, isBlank c = true) ∧ startsWord after = false := by
    intro t
    simp only [List.any_eq_true, mem_afterRuns_iff, isSome_closedWord?_iff, beq_iff_eq]
    constructor
    · rintro ⟨_, ⟨stars, rfl, hstars⟩, _, ⟨spaces, rfl, hspaces⟩, after, rfl, hafter⟩
      exact ⟨stars, spaces, after, rfl, hstars, hspaces, hafter⟩
    · rintro ⟨stars, spaces, after, rfl, hstars, hspaces, hafter⟩
      exact ⟨_, ⟨stars, rfl, hstars⟩, _, ⟨spaces, rfl, hspaces⟩, after, rfl, hafter⟩
  unfold startsStarred
  constructor
  · intro h
    split at h
    · next t htrim =>
      obtain ⟨stars, spaces, after, rfl, hstars, hspaces, hafter⟩ := (hbehind t).1 h
      refine ⟨s.takeWhile isBlank, stars, spaces, after, ?_, ?_, hstars, hspaces, hafter⟩
      · rw [← htrim]
        exact List.takeWhile_append_dropWhile.symm
      · exact List.all_eq_true.1 List.all_takeWhile
    · cases h
  · rintro ⟨blanks, stars, spaces, after, rfl, hblanks, hstars, hspaces, hafter⟩
    have hstar : isBlank '*' = false := by decide
    rw [trimStart_append hblanks, trimStart_eq_self (by simpa using hstar)]
    exact (hbehind _).2 ⟨stars, spaces, after, rfl, hstars, hspaces, hafter⟩

/-- A line dereferences a name by a star if it has the name behind a unary one. -/
theorem derefByStar_iff {name code : List Char} :
    derefByStar name code = true ↔
      ∃ before after, code = before ++ (name ++ after) ∧ EndsUnaryStar before ∧
        startsWord after = false := by
  rw [derefByStar, Bool.or_eq_true, List.any_eq_true, startsStarred_iff]
  constructor
  · rintro (⟨blanks, stars, spaces, after, rfl, hblanks, hstars, hspaces, hafter⟩ | ⟨p, hp, h⟩)
    · exact ⟨blanks ++ '*' :: (stars ++ spaces), after, by simp,
        ⟨[], blanks, stars, spaces, rfl, rfl, hblanks, hstars, hspaces⟩, hafter⟩
    · obtain ⟨l, r, rfl, rfl⟩ := mem_places_iff.1 hp
      cases r with
      | nil => cases h
      | cons c rest =>
        obtain ⟨hc, hrest⟩ := Bool.and_eq_true_iff.1 h
        obtain ⟨blanks, stars, spaces, after, rfl, hblanks, hstars, hspaces, hafter⟩ :=
          startsStarred_iff.1 hrest
        refine ⟨(l ++ [c]) ++ (blanks ++ '*' :: (stars ++ spaces)), after, by simp,
          ⟨l ++ [c], blanks, stars, spaces, rfl, ?_, hblanks, hstars, hspaces⟩, hafter⟩
        rw [endsNoOperand, List.getLast?_concat]
        exact hc
  · rintro ⟨before, after, rfl,
      ⟨front, blanks, stars, spaces, rfl, hfront, hblanks, hstars, hspaces⟩, hafter⟩
    rcases List.eq_nil_or_concat' front with rfl | ⟨l, c, rfl⟩
    · exact .inl ⟨blanks, stars, spaces, after, by simp, hblanks, hstars, hspaces, hafter⟩
    · refine .inr ⟨.between l (c :: (blanks ++ '*' :: (stars ++ (spaces ++ (name ++ after))))),
        mem_places_iff.2 ⟨l, _, by simp, rfl⟩, Bool.and_eq_true_iff.2 ⟨?_, ?_⟩⟩
      · rw [endsNoOperand, List.getLast?_concat] at hfront
        exact hfront
      · exact startsStarred_iff.2
          ⟨blanks, stars, spaces, after, rfl, hblanks, hstars, hspaces, hafter⟩

/-- The last star of a text that has one, among blanks and stars. -/
theorem exists_last_star {lead : List Char} (hlead : ∀ c ∈ lead, isBlank c = true ∨ c = '*')
    (hstar : '*' ∈ lead) :
    ∃ l spaces, lead = l ++ '*' :: spaces ∧ ∀ c ∈ spaces, isBlank c = true := by
  obtain ⟨spaces, l, hreverse, hspaces⟩ := List.eq_append_cons_of_mem (List.mem_reverse.2 hstar)
  have hsplit : lead = l.reverse ++ '*' :: spaces.reverse := by
    rw [← List.reverse_reverse lead, hreverse]
    simp
  refine ⟨l.reverse, spaces.reverse, hsplit, fun c hc => ?_⟩
  rcases hlead c (by simp [hsplit, List.mem_reverse.1 hc]) with hblank | rfl
  · exact hblank
  · exact absurd (List.mem_reverse.1 hc) hspaces

/-- Stars and blanks behind a text make a unary star if there are several stars or the text ends
with no operand. -/
theorem endsUnaryStar_append_iff {front lead : List Char}
    (hfront : ∀ c ∈ front.getLast?, isBlank c = false ∧ c ≠ '*')
    (hlead : ∀ c ∈ lead, isBlank c = true ∨ c = '*') (hstar : '*' ∈ lead) :
    EndsUnaryStar (front ++ lead) ↔ 2 ≤ lead.count '*' ∨ endsNoOperand front = true := by
  constructor
  · rintro ⟨front', blanks, stars, spaces, heq, hfront', hblanks, hstars, hspaces⟩
    have hstarred : '*' ∈ blanks ++ '*' :: (stars ++ spaces) := by simp
    have hcount := List.count_pos_iff.2 hstarred
    rcases List.append_eq_append_iff.1 heq with ⟨m, rfl, rfl⟩ | ⟨m, rfl, hm⟩
    · rcases List.eq_nil_or_concat' m with rfl | ⟨m, c, rfl⟩
      · exact .inr (by simpa using hfront')
      · rw [endsNoOperand, ← List.append_assoc, List.getLast?_concat] at hfront'
        obtain rfl : c = '*' := by
          rcases hlead c (by simp) with hc | hc
          · simp [hc] at hfront'
          · exact hc
        left
        rw [List.count_append, List.count_append, List.count_singleton_self]
        omega
    · rcases List.eq_nil_or_concat' m with rfl | ⟨m, c, rfl⟩
      · exact .inr (by simpa using hfront')
      · obtain ⟨hblank, hne⟩ := hfront c (by simp)
        have hc : c ∈ blanks ++ '*' :: (stars ++ spaces) := by simp [hm]
        rcases List.mem_append.1 hc with hc | hc
        · simp [hblanks c hc] at hblank
        · rcases List.mem_cons.1 hc with hc | hc
          · exact absurd hc hne
          · rcases List.mem_append.1 hc with hc | hc
            · exact absurd (hstars c hc) hne
            · simp [hspaces c hc] at hblank
  · intro h
    obtain ⟨l, spaces, rfl, hspaces⟩ := exists_last_star hlead hstar
    by_cases hl : '*' ∈ l
    · obtain ⟨m, blanks, rfl, hblanks⟩ := exists_last_star (fun c hc => hlead c (by simp [hc])) hl
      refine ⟨front ++ (m ++ ['*']), blanks, [], spaces, by simp, ?_, hblanks, by simp, hspaces⟩
      rw [endsNoOperand, ← List.append_assoc, List.getLast?_concat]
      decide
    · have hblanks : ∀ c ∈ l, isBlank c = true := by
        intro c hc
        rcases hlead c (by simp [hc]) with hblank | rfl
        · exact hblank
        · exact absurd hc hl
      have hone : (l ++ '*' :: spaces).count '*' = 1 := by
        have hnone : '*' ∉ spaces := fun hm => absurd (hspaces '*' hm) (by decide)
        rw [List.count_append, List.count_cons_self, List.count_eq_zero_of_not_mem hl,
          List.count_eq_zero_of_not_mem hnone]
      refine ⟨front, l, [], spaces, by simp, ?_, hblanks, by simp, hspaces⟩
      exact h.resolve_left (by omega)

/-! ### Occurrences -/

/-- Whether a text goes on, after blanks, with an arrow or an index. -/
def startsAccess (s : List Char) : Bool :=
  (after? ['-', '>'] (trimStart s)).isSome || (afterBlanks? '[' s).isSome

/-- Between two texts a name is dereferenced: as a word behind a unary star, or as a word's start
before an arrow or index. -/
def DereferencedAt (before after : List Char) : Prop :=
  EndsUnaryStar before ∧ startsWord after = false ∨
    before.getLast?.any isWord = false ∧ startsAccess after = true

/-- A line dereferences a name if it does so at one of its occurrences. -/
theorem dereferences_iff {name code : List Char} :
    dereferences name code = true ↔
      ∃ before after, code = before ++ (name ++ after) ∧ DereferencedAt before after := by
  have hopen : ∀ follows : List Char → Bool,
      ((places code).any fun p => p.isOpen && (after? name p.after).any follows) = true ↔
        ∃ before after, code = before ++ (name ++ after) ∧
          before.getLast?.any isWord = false ∧ follows after = true := by
    intro follows
    rw [List.any_eq_true]
    constructor
    · rintro ⟨p, hp, h⟩
      obtain ⟨before, r, rfl, rfl⟩ := mem_places_iff.1 hp
      obtain ⟨hbefore, h⟩ := Bool.and_eq_true_iff.1 h
      obtain ⟨after, hafter, hfollows⟩ := (Option.any_eq_true _ _).1 h
      obtain rfl : r = name ++ after := after?_eq_some_iff.1 hafter
      exact ⟨before, after, rfl, by simpa [Place.isOpen, Place.between] using hbefore, hfollows⟩
    · rintro ⟨before, after, rfl, hbefore, hfollows⟩
      refine ⟨.between before (name ++ after), mem_places_iff.2 ⟨before, _, rfl, rfl⟩,
        Bool.and_eq_true_iff.2 ⟨by simpa [Place.isOpen, Place.between] using hbefore, ?_⟩⟩
      exact (Option.any_eq_true _ _).2 ⟨after, after?_eq_some_iff.2 rfl, hfollows⟩
  rw [dereferences, Bool.or_eq_true, Bool.or_eq_true, derefByStar_iff, derefByArrow, derefByIndex,
    hopen, hopen]
  simp only [DereferencedAt, startsAccess, Bool.or_eq_true]
  constructor
  · rintro ((⟨before, after, rfl, h⟩ | ⟨before, after, rfl, hbefore, h⟩) |
      ⟨before, after, rfl, hbefore, h⟩)
    · exact ⟨before, after, rfl, .inl h⟩
    · exact ⟨before, after, rfl, .inr ⟨hbefore, .inl h⟩⟩
    · exact ⟨before, after, rfl, .inr ⟨hbefore, .inr h⟩⟩
  · rintro ⟨before, after, rfl, h | ⟨hbefore, h | h⟩⟩
    · exact .inl (.inl ⟨before, after, rfl, h⟩)
    · exact .inl (.inr ⟨before, after, rfl, hbefore, h⟩)
    · exact .inr ⟨before, after, rfl, hbefore, h⟩

/-- What a name between two texts is assigned, if it is. -/
def assignedBetween? (before after : List Char) : Option (List Char) :=
  if before.getLast?.any fun c => isWord c || c == '.' || c == '>' || c == '*' then none
  else afterAssignment? after

/-- A name that is assigned between two texts is a word of its own. -/
theorem isWhole_of_assignedBetween? {before after value : List Char}
    (h : assignedBetween? before after = some value) :
    before.getLast?.any isWord = false ∧ startsWord after = false := by
  unfold assignedBetween? at h
  split at h
  · cases h
  · next hbefore =>
    refine ⟨?_, startsWord_of_afterAssignment? h⟩
    cases hc : before.getLast? with
    | none => rfl
    | some c => simp_all

/-- What `name` is assigned at a place, if it stands there and is. -/
def Text.Place.assigned? (p : Place) (name : List Char) : Option (List Char) :=
  if p.before.any fun c => isWord c || c == '.' || c == '>' || c == '*' then none
  else (after? name p.after).bind afterAssignment?

theorem Text.Place.assigned?_between (before name after : List Char) :
    (Place.between before (name ++ after)).assigned? name = assignedBetween? before after := by
  have hafter : after? name (name ++ after) = some after := after?_eq_some_iff.2 rfl
  simp only [assigned?, between, assignedBetween?, hafter, Option.bind_some]

/-- The column of the occurrence of a name that a line is found to assign, and what it is
assigned. -/
def assignmentAt? (code name : List Char) : Option (Nat × List Char) :=
  (places code).findSome? fun p => (p.assigned? name).map fun value => (p.column, value)

/-- But for the column this is what a line assigns to a name. -/
theorem map_snd_assignmentAt? (code name : List Char) :
    (assignmentAt? code name).map Prod.snd = assignmentTo? code name := by
  rw [assignmentAt?, List.map_findSome?]
  congr 1
  funext p
  rw [Function.comp_apply, Option.map_map]
  exact Option.map_id'

/-- The occurrence that is found is the first one that is assigned. -/
theorem assignmentAt?_eq_some_iff {code name value : List Char} {column : Nat} :
    assignmentAt? code name = some (column, value) ↔
      ∃ before after, code = before ++ (name ++ after) ∧ before.length = column ∧
        assignedBetween? before after = some value ∧
        ∀ before' after', code = before' ++ (name ++ after') → before'.length < before.length →
          assignedBetween? before' after' = none := by
  rw [assignmentAt?, findSome?_places_eq_some_iff]
  constructor
  · rintro ⟨before, r, rfl, hfound, hfirst⟩
    obtain ⟨value', hvalue, heq⟩ := Option.map_eq_some_iff.1 hfound
    obtain ⟨rfl, rfl⟩ := Prod.mk.inj heq
    obtain ⟨after, rfl⟩ : ∃ after, r = name ++ after := by
      unfold Place.assigned? at hvalue
      split at hvalue
      · cases hvalue
      · obtain ⟨after, hafter, -⟩ := Option.bind_eq_some_iff.1 hvalue
        exact ⟨after, after?_eq_some_iff.1 hafter⟩
    rw [Place.assigned?_between] at hvalue
    refine ⟨before, after, rfl, rfl, hvalue, fun before' after' hcode hlt => ?_⟩
    have hnone := hfirst before' (name ++ after') hcode hlt
    rwa [Option.map_eq_none_iff, Place.assigned?_between] at hnone
  · rintro ⟨before, after, rfl, rfl, hvalue, hfirst⟩
    refine ⟨before, name ++ after, rfl, ?_, fun before' r hcode hlt => ?_⟩
    · rw [Place.assigned?_between, hvalue]
      rfl
    · rw [Option.map_eq_none_iff]
      unfold Place.assigned?
      split
      · rfl
      · next hbefore =>
        rw [Option.bind_eq_none_iff]
        intro after' hafter
        obtain rfl : r = name ++ after' := after?_eq_some_iff.1 hafter
        have hnone := hfirst before' after' hcode hlt
        rw [assignedBetween?] at hnone
        exact (if_neg hbefore).symm.trans hnone

/-! ### Starred names -/

/-- The characters that end a punctuator, other than a closing parenthesis or bracket and the
star. -/
def punctuatorEnds : List Char :=
  ['[', '(', '{', '}', '.', '-', '+', '&', '~', '!', '/', '%', '<', '>', '^', '|', '?', ':', ';',
    '=', ',', '#']

/-- A text behind which an expression begins: an empty one, one that ends with a punctuator, and
one that ends with the word `return`. -/
inductive ExpectsOperand : List Char → Prop where
  | start : ExpectsOperand []
  | punctuator (front : List Char) {c : Char} (h : c ∈ punctuatorEnds) :
      ExpectsOperand (front ++ [c])
  | keyword (front : List Char) (h : front.getLast?.any isWord = false) :
      ExpectsOperand (front ++ "return".toList)

/-- An occurrence of a name as a word of its own behind stars, where an expression begins. -/
structure StarredUse (name : List Char) where
  /-- The text in front of the stars. -/
  front : List Char
  /-- The stars and the blanks around them. -/
  lead : List Char
  /-- The text behind the name. -/
  after : List Char
  /-- An expression begins behind the first text. -/
  expectsOperand : ExpectsOperand front
  /-- There is nothing but stars and blanks. -/
  isBlank_or_star : ∀ c ∈ lead, isBlank c = true ∨ c = '*'
  /-- There is a star. -/
  star_mem : '*' ∈ lead
  /-- The name ends a word. -/
  startsWord_after : startsWord after = false

namespace ExpectsOperand

variable {front : List Char} (h : ExpectsOperand front)
include h

/-- No blank and no star stands right where an expression begins. -/
theorem getLast?_ne : ∀ c ∈ front.getLast?, isBlank c = false ∧ c ≠ '*' := by
  have hends : ∀ c ∈ punctuatorEnds, (!isBlank c && c != '*') = true :=
    List.all_eq_true.1 (by decide)
  intro c hc
  cases h with
  | start => cases hc
  | punctuator front hend =>
    rw [List.getLast?_concat] at hc
    cases hc
    simpa using hends c hend
  | keyword front hword =>
    have hlast : (front ++ "return".toList).getLast? = some 'n' := by simp
    rw [hlast] at hc
    cases hc
    decide

/-- Of the texts behind which an expression begins, only `return` looks like an operand. -/
theorem endsNoOperand_iff : endsNoOperand front = true ↔ ¬"return".toList <:+ front := by
  have hends : ∀ c ∈ punctuatorEnds,
      (!(isWord c || c == ')' || c == ']' || isBlank c) && c != 'n') = true :=
    List.all_eq_true.1 (by decide)
  cases h with
  | start => simp [endsNoOperand]
  | punctuator front hend =>
    obtain ⟨hoperator, hne⟩ := Bool.and_eq_true_iff.1 (hends _ hend)
    rw [endsNoOperand, List.getLast?_concat]
    refine iff_of_true hoperator ?_
    rintro ⟨l, hl⟩
    have hlast := congrArg List.getLast? hl
    rw [List.getLast?_concat] at hlast
    exact bne_iff_ne.1 hne (Option.some.inj (hlast.symm.trans (by simp)))
  | keyword front hword =>
    have hlast : (front ++ "return".toList).getLast? = some 'n' := by simp
    rw [endsNoOperand, hlast]
    exact iff_of_false (by decide) (not_not_intro (List.suffix_append _ _))

end ExpectsOperand

namespace StarredUse

variable {name : List Char} (u : StarredUse name)

/-- The text in front of the name. -/
def before : List Char := u.front ++ u.lead

/-- The line. -/
def code : List Char := u.before ++ (name ++ u.after)

/-- Whether blanks stand between the last star and the name. -/
def isSpaced : Bool := u.lead.getLast?.any isBlank

/-- The last character in front of the name is a blank or a star. -/
theorem exists_getLast?_before :
    ∃ c, u.before.getLast? = some c ∧ u.lead.getLast? = some c ∧
      (isBlank c = true ∨ c = '*') := by
  cases hc : u.lead.getLast? with
  | none => exact absurd (List.getLast?_eq_none_iff.1 hc) (List.ne_nil_of_mem u.star_mem)
  | some c =>
    refine ⟨c, ?_, rfl, u.isBlank_or_star c (List.mem_of_getLast? hc)⟩
    rw [before, List.getLast?_append, hc]
    rfl

/-- At a starred name only a single star behind `return` is not read as a dereference. -/
theorem dereferencedAt_iff :
    DereferencedAt u.before u.after ↔
      ¬"return".toList <:+ u.front ∨ 2 ≤ u.lead.count '*' ∨ startsAccess u.after = true := by
  have hword : u.before.getLast?.any isWord = false := by
    obtain ⟨c, hc, -, hblank | rfl⟩ := u.exists_getLast?_before
    · rw [hc]
      exact isWord_of_isBlank hblank
    · rw [hc]
      decide
  have hstar := endsUnaryStar_append_iff u.expectsOperand.getLast?_ne u.isBlank_or_star u.star_mem
  rw [u.expectsOperand.endsNoOperand_iff] at hstar
  rw [DereferencedAt, before, hstar, ← before, and_iff_left u.startsWord_after,
    and_iff_right hword, or_assoc, or_left_comm]

/-- A starred name is assigned only over blanks. -/
theorem assignedBetween?_before :
    assignedBetween? u.before u.after = if u.isSpaced then afterAssignment? u.after else none := by
  obtain ⟨c, hbefore, hlead, hblank | rfl⟩ := u.exists_getLast?_before
  · have hne : ∀ d, isBlank d = false → c ≠ d := by
      rintro d hd rfl
      exact absurd hblank (Bool.eq_false_iff.1 hd)
    have hplain : (isWord c || c == '.' || c == '>' || c == '*') = false := by
      simp [isWord_of_isBlank hblank, hne '.' (by decide), hne '>' (by decide), hne '*' (by decide)]
    simp [assignedBetween?, isSpaced, hbefore, hlead, hplain, hblank]
  · rw [assignedBetween?, isSpaced, hbefore, hlead]
    rfl

theorem assignedBetween?_before_eq_some_iff {value : List Char} :
    assignedBetween? u.before u.after = some value ↔
      u.isSpaced = true ∧ afterAssignment? u.after = some value := by
  rw [u.assignedBetween?_before, Option.ite_none_right_eq_some]

/-- The text behind an occurrence follows from the text in front of it. -/
theorem eq_after {after : List Char} (h : u.code = u.before ++ (name ++ after)) :
    after = u.after :=
  (List.append_cancel_left (List.append_cancel_left h)).symm

/-- A starred name is dereferenced on its line unless a single star follows `return` and nothing
else dereferences it. -/
theorem dereferences_code_iff :
    dereferences name u.code = true ↔
      ¬"return".toList <:+ u.front ∨ 2 ≤ u.lead.count '*' ∨ startsAccess u.after = true ∨
        ∃ before after, u.code = before ++ (name ++ after) ∧ before ≠ u.before ∧
          DereferencedAt before after := by
  rw [dereferences_iff, ← or_assoc, ← or_assoc, or_assoc (a := ¬_), ← u.dereferencedAt_iff]
  constructor
  · rintro ⟨before, after, hcode, h⟩
    by_cases hbefore : before = u.before
    · subst hbefore
      rw [u.eq_after hcode] at h
      exact .inl h
    · exact .inr ⟨before, after, hcode, hbefore, h⟩
  · rintro (h | ⟨before, after, hcode, -, h⟩)
    · exact ⟨u.before, u.after, rfl, h⟩
    · exact ⟨before, after, hcode, h⟩

/-- A line assigns a starred name if blanks precede it, an operator follows it and no occurrence
before it is assigned. -/
theorem assignmentAt?_code_iff :
    (assignmentAt? u.code name).map Prod.fst = some u.before.length ↔
      u.isSpaced = true ∧ (afterAssignment? u.after).isSome = true ∧
        ∀ before after, u.code = before ++ (name ++ after) →
          before.length < u.before.length → assignedBetween? before after = none := by
  rw [Option.map_eq_some_iff]
  constructor
  · rintro ⟨⟨_, value⟩, hfound, rfl⟩
    obtain ⟨before, after, hcode, hlength, hvalue, hfirst⟩ := assignmentAt?_eq_some_iff.1 hfound
    obtain ⟨rfl, -⟩ := List.append_inj hcode hlength.symm
    rw [u.eq_after hcode, u.assignedBetween?_before_eq_some_iff] at hvalue
    exact ⟨hvalue.1, Option.isSome_of_mem hvalue.2, hfirst⟩
  · rintro ⟨hspaced, hoperator, hfirst⟩
    obtain ⟨value, hvalue⟩ := Option.isSome_iff_exists.1 hoperator
    exact ⟨(u.before.length, value), assignmentAt?_eq_some_iff.2 ⟨u.before, u.after, rfl, rfl,
      u.assignedBetween?_before_eq_some_iff.2 ⟨hspaced, hvalue⟩, hfirst⟩, rfl⟩

/-- The occurrence is the only one of the name as a word of its own. -/
def IsOnly : Prop :=
  ∀ before after, u.code = before ++ (name ++ after) → before.getLast?.any isWord = false →
    startsWord after = false → before = u.before

/-- The only occurrence of a name is the only one that can be assigned. -/
theorem IsOnly.eq_before {u : StarredUse name} (h : u.IsOnly) {before after value : List Char}
    (hcode : u.code = before ++ (name ++ after))
    (hvalue : assignedBetween? before after = some value) : before = u.before := by
  obtain ⟨hbefore, hafter⟩ := isWhole_of_assignedBetween? hvalue
  exact h before after hcode hbefore hafter

/-- If it is the only occurrence, the line assigns the name only over blanks. -/
theorem assignmentTo?_code_eq_none_iff (honly : u.IsOnly) :
    assignmentTo? u.code name = none ↔
      ¬(u.isSpaced = true ∧ (afterAssignment? u.after).isSome = true) := by
  rw [← map_snd_assignmentAt?, Option.map_eq_none_iff]
  constructor
  · rintro hnone ⟨hspaced, hoperator⟩
    have hfound := u.assignmentAt?_code_iff.2 ⟨hspaced, hoperator, fun before after hcode hlt => ?_⟩
    · rw [hnone] at hfound
      cases hfound
    · by_contra hvalue
      obtain ⟨value, hvalue⟩ := Option.ne_none_iff_exists'.1 hvalue
      rw [honly.eq_before hcode hvalue] at hlt
      exact Nat.lt_irrefl _ hlt
  · intro hplain
    by_contra hfound
    obtain ⟨⟨column, value⟩, hfound⟩ := Option.ne_none_iff_exists'.1 hfound
    obtain ⟨before, after, hcode, -, hvalue, -⟩ := assignmentAt?_eq_some_iff.1 hfound
    obtain rfl := honly.eq_before hcode hvalue
    rw [u.eq_after hcode, u.assignedBetween?_before_eq_some_iff] at hvalue
    exact hplain ⟨hvalue.1, Option.isSome_of_mem hvalue.2⟩

end StarredUse

/-- Which starred uses a line is found to dereference and which to assign: a star behind `return`
and a blank behind stars matter. -/
theorem starredUse_read {name : List Char} (u : StarredUse name) :
    (dereferences name u.code = true ↔
        ¬"return".toList <:+ u.front ∨ 2 ≤ u.lead.count '*' ∨ startsAccess u.after = true ∨
          ∃ before after, u.code = before ++ (name ++ after) ∧ before ≠ u.before ∧
            DereferencedAt before after) ∧
      ((assignmentAt? u.code name).map Prod.fst = some u.before.length ↔
        u.isSpaced = true ∧ (afterAssignment? u.after).isSome = true ∧
          ∀ before after, u.code = before ++ (name ++ after) →
            before.length < u.before.length → assignedBetween? before after = none) ∧
      (u.IsOnly → (assignmentTo? u.code name = none ↔
        ¬(u.isSpaced = true ∧ (afterAssignment? u.after).isSome = true))) :=
  ⟨u.dereferences_code_iff, u.assignmentAt?_code_iff, u.assignmentTo?_code_eq_none_iff⟩

/-- Two stars behind `return` dereference a name and do not assign it. -/
theorem starredUse_read_two_stars :
    ∃ u : StarredUse ['p'], u.code = "return **p;".toList ∧ u.IsOnly ∧
      dereferences ['p'] u.code = true ∧ assignmentTo? u.code ['p'] = none := by
  let u : StarredUse ['p'] := ⟨"return".toList, " **".toList, ";".toList, .keyword [] rfl,
    by simp [isBlank_space], by decide, by decide⟩
  have honly : u.IsOnly := fun before after hcode _ _ =>
    ((List.append_cons_inj_of_notMem (by decide) (by decide)).1 hcode).1.symm
  obtain ⟨hderef, -, hassigned⟩ := starredUse_read u
  exact ⟨u, rfl, honly, hderef.2 (.inr (.inl (by decide))), (hassigned honly).2 (by decide)⟩

/-- One star behind `return` is not read as a dereference, and a name behind a star and a blank is
taken to be assigned. -/
theorem starred_name_misread :
    (∃ u : StarredUse ['p'], u.code = "return *p;".toList ∧ u.IsOnly ∧
        dereferences ['p'] u.code = false) ∧
      ∃ u : StarredUse ['p'], u.code = "* p = 5;".toList ∧ u.IsOnly ∧
        assignmentTo? u.code ['p'] = some " 5;".toList := by
  refine ⟨⟨⟨"return".toList, " *".toList, ";".toList, .keyword [] rfl, by simp [isBlank_space],
    by decide, by decide⟩, rfl, fun before after hcode _ _ => ?_, by decide +kernel⟩,
    ⟨[], "* ".toList, " = 5;".toList, .start, by simp [isBlank_space], by decide, by decide⟩, rfl,
    fun before after hcode _ _ => ?_, by decide +kernel⟩
  · exact ((List.append_cons_inj_of_notMem (by decide) (by decide)).1 hcode).1.symm
  · exact ((List.append_cons_inj_of_notMem (by decide) (by decide)).1 hcode).1.symm

end DefectScan
