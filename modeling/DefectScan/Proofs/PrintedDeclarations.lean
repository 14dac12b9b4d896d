import DefectScan.Proofs.Declarators
import Mathlib.Data.List.Basic

/-!
# Printed declarations

A declaration is printed as the words of its type, its declarators with commas between them, and a
semicolon. Reading it gives back one variable for each declarator: the text is cut at the commas
outside of groups and literals, and the name in the first part begins at the first place from which
a name with dimensions reaches to the end.
-/

namespace DefectScan

open Text

/-- A declaration as it is printed, up to its semicolon. -/
def printDeclaration (base : List (List Char)) (ds : List Declarator) : List Char :=
  [' '].intercalate base ++ ' ' :: printArguments (ds.map Declarator.print)

/-! ### The words of the type -/

/-- The words of a type, a space behind each. -/
def spacedWords (base : List (List Char)) : List Char := base.flatMap fun w => w ++ [' ']

theorem spacedWords_cons (w : List Char) (base : List (List Char)) (rest : List Char) :
    spacedWords (w :: base) ++ rest = w ++ ' ' :: (spacedWords base ++ rest) := by
  simp [spacedWords]

/-- Words joined by spaces with one more space behind them. -/
theorem intercalate_append_space {base : List (List Char)} (h : base ≠ []) (rest : List Char) :
    [' '].intercalate base ++ ' ' :: rest = spacedWords base ++ rest := by
  induction base with
  | nil => exact absurd rfl h
  | cons w base ih =>
    cases base with
    | nil => simp [spacedWords]
    | cons v base =>
      rw [List.intercalate_cons_cons, List.append_assoc, List.append_assoc, ih (by simp),
        spacedWords_cons w, List.singleton_append]

/-- No name with dimensions begins where a word is followed by something else than dimensions. -/
theorem nameWithDimensions?_eq_none {w rest : List Char} {c : Char}
    (hw : ∀ b ∈ w, isWord b = true) (hblank : isBlank c = false) (hc : c ≠ '[') :
    nameWithDimensions? (w ++ ' ' :: c :: rest) = none := by
  have hspace : startsWord (' ' :: c :: rest) = false := (by decide : isWord ' ' = false)
  have htrim : trimStart (' ' :: c :: rest) = c :: rest := by
    rw [← List.singleton_append, trimStart_append (by simp [isBlank_space])]
    exact trimStart_eq_self (by simpa using hblank)
  have hdimensions : afterDimensions (c :: rest) = (false, c :: rest) := by
    rw [afterDimensions]
    intro s hs
    exact hc (List.cons.inj hs).1
  rw [nameWithDimensions?, (takeWhile_isWord_append hw hspace).2, htrim, hdimensions]
  simp

theorem nameWithDimensions?_star (rest : List Char) : nameWithDimensions? ('*' :: rest) = none := by
  have hstar : isNameStart '*' = false := by decide
  simp [nameWithDimensions?, hstar]

section Base

variable {base : List (List Char)} (hbase : ∀ w ∈ base, IsIdentifier w)

include hbase

theorem cases_of_mem_spacedWords {c : Char} (hc : c ∈ spacedWords base) :
    isWord c = true ∨ c = ' ' := by
  obtain ⟨w, hw, hc⟩ := List.mem_flatMap.1 hc
  rcases List.mem_append.1 hc with hc | hc
  · exact .inl ((hbase w hw).isWord c hc)
  · exact .inr (List.mem_singleton.1 hc)

theorem not_mem_spacedWords {b : Char} (hword : isWord b = false) (hb : b ≠ ' ') :
    b ∉ spacedWords base := by
  intro hmem
  rcases cases_of_mem_spacedWords hbase hmem with h | h
  · exact ne_of_isWord h hword rfl
  · exact hb h

/-- Behind words of a type a text begins with a word or as it does. -/
theorem exists_cons_spacedWords {rest : List Char}
    (hrest : ∃ c t, rest = c :: t ∧ isBlank c = false ∧ c ≠ '[') :
    ∃ c t, spacedWords base ++ rest = c :: t ∧ isBlank c = false ∧ c ≠ '[' := by
  cases base with
  | nil => exact hrest
  | cons w base =>
    obtain ⟨c, t, rfl, hc⟩ := (hbase w List.mem_cons_self).exists_cons
    exact ⟨c, _, rfl, isBlank_of_isWord hc, ne_of_isWord hc (by decide)⟩

/-- No name with dimensions begins among the words of a type and the stars behind them. -/
theorem nameWithDimensions?_of_suffix (d : Declarator) {m : List Char} (hm : m ≠ [])
    (hsuffix : m <:+ spacedWords base ++ List.replicate d.stars '*') :
    nameWithDimensions? (m ++ d.named) = none := by
  have hfront : ∃ c t, List.replicate d.stars '*' ++ d.named = c :: t ∧ isBlank c = false ∧
      c ≠ '[' := by
    cases d.stars with
    | zero =>
      obtain ⟨c, t, hnamed, hc⟩ := d.exists_named_eq_cons
      exact ⟨c, t, by simpa using hnamed, isBlank_of_isWord hc, ne_of_isWord hc (by decide)⟩
    | succ k => exact ⟨'*', _, rfl, by decide, by decide⟩
  induction base with
  | nil =>
    obtain ⟨c, t, rfl⟩ := List.exists_cons_of_ne_nil hm
    have hstar : c = '*' := List.eq_of_mem_replicate (hsuffix.subset List.mem_cons_self)
    rw [hstar]
    exact nameWithDimensions?_star (t ++ d.named)
  | cons w base ih =>
    obtain ⟨hw, hbase⟩ := List.forall_mem_cons.1 hbase
    obtain ⟨c, t, hnext, hblank, hc⟩ := exists_cons_spacedWords hbase hfront
    obtain ⟨l, hl⟩ := hsuffix
    rw [spacedWords_cons, List.append_eq_append_iff] at hl
    rcases hl with ⟨inside, rfl, rfl⟩ | ⟨front, rfl, hrest⟩
    · have hinside : ∀ b ∈ inside, isWord b = true := fun b hb =>
        hw.isWord b (List.mem_append_right l hb)
      rw [List.append_assoc, List.cons_append, List.append_assoc, hnext]
      exact nameWithDimensions?_eq_none hinside hblank hc
    · cases front with
      | nil =>
        obtain rfl : _ = m := hrest
        rw [List.cons_append, List.append_assoc, hnext]
        exact nameWithDimensions?_eq_none (List.forall_mem_nil _) hblank hc
      | cons b front =>
        exact ih hbase ⟨front, (List.cons.inj hrest).2.symm⟩

/-- The last name of a printed type and declarator is the declared one. -/
theorem lastName?_spacedWords (d : Declarator) :
    lastName? (spacedWords base ++ d.bare) =
      some (spacedWords base ++ List.replicate d.stars '*', d.name, !d.dimensions.isEmpty) := by
  rw [lastName?, findSome?_places_eq_some_iff]
  refine ⟨spacedWords base ++ List.replicate d.stars '*', d.named, ?_, ?_, ?_⟩
  · rw [Declarator.bare, List.append_assoc]
  · simp only [Place.between, d.nameWithDimensions?_named, Option.map_some]
    rw [Declarator.bare, ← List.append_assoc, List.take_left]
  · intro l r hsplit hlt
    rw [Declarator.bare, ← List.append_assoc, List.append_eq_append_iff] at hsplit
    rcases hsplit with ⟨m, rfl, -⟩ | ⟨m, hl, rfl⟩
    · rw [List.length_append] at hlt
      omega
    · have hm : m ≠ [] := by
        rintro rfl
        rw [hl, List.append_nil] at hlt
        exact Nat.lt_irrefl _ hlt
      have hnone := nameWithDimensions?_of_suffix hbase d hm ⟨l, hl.symm⟩
      simp only [Place.between, hnone, Option.map_none]

end Base

theorem words_space (s : List Char) : words (' ' :: s) = words s := by
  rw [words, if_pos isBlank_space]

/-- A text without blanks in front of a space is the first word. -/
theorem words_append_space {w : List Char} (hne : w ≠ []) (hw : ∀ c ∈ w, isBlank c = false)
    (s : List Char) : words (w ++ ' ' :: s) = w :: words s := by
  obtain ⟨c, w, rfl⟩ := List.exists_cons_of_ne_nil hne
  obtain ⟨hc, hw⟩ := List.forall_mem_cons.1 hw
  have hinside : ∀ b ∈ w, (!isBlank b) = true := fun b hb => by rw [hw b hb]; rfl
  have htake : (' ' :: s).takeWhile (!isBlank ·) = [] := List.takeWhile_cons_of_neg (by decide)
  have hdrop : (' ' :: s).dropWhile (!isBlank ·) = ' ' :: s :=
    List.dropWhile_cons_of_neg (by decide)
  rw [List.cons_append, words, if_neg (by simp [hc]), List.takeWhile_append_of_pos hinside,
    List.dropWhile_append_of_pos hinside, htake, hdrop, List.append_nil, words_space]

theorem dropWords_space (listed : List String) (s : List Char) :
    dropWords listed (' ' :: s) = ' ' :: dropWords listed s := by
  have hspace : isWord ' ' = false := by decide
  rw [dropWords, if_neg (by simp [hspace])]

/-- A listed word in front of a space is left out, any other stays. -/
theorem dropWords_append_space (listed : List String) {w : List Char} (hne : w ≠ [])
    (hw : ∀ c ∈ w, isWord c = true) (s : List Char) :
    dropWords listed (w ++ ' ' :: s) =
      (if listed.contains (String.ofList w) then [] else w) ++ ' ' :: dropWords listed s := by
  obtain ⟨c, w, rfl⟩ := List.exists_cons_of_ne_nil hne
  obtain ⟨hc, hw⟩ := List.forall_mem_cons.1 hw
  have hspace : startsWord (' ' :: s) = false := (by decide : isWord ' ' = false)
  obtain ⟨hhead, hafter⟩ := takeWhile_isWord_append hw hspace
  rw [List.cons_append, dropWords, if_pos hc, hhead, hafter, dropWords_space]

/-- The words of a printed type that are no qualifiers, whatever stars follow. -/
theorem typeWords_spacedWords {base : List (List Char)} (hbase : ∀ w ∈ base, IsIdentifier w)
    (stars : Nat) :
    typeWords (spacedWords base ++ List.replicate stars '*') = Declarator.unqualified base := by
  rw [typeWords, joinWords, Declarator.unqualified]
  congr 1
  induction base with
  | nil =>
    induction stars with
    | zero => rw [spacedWords, List.flatMap_nil]; simp [dropWords, words]
    | succ stars ih => exact (congrArg words (dropWords_space _ _)).trans ((words_space _).trans ih)
  | cons w base ih =>
    obtain ⟨hw, hbase⟩ := List.forall_mem_cons.1 hbase
    have hstars : w.map (fun c => if c == '*' then ' ' else c) = w := by
      refine (List.map_congr_left fun c hc => ?_).trans (List.map_id w)
      have hstar : c ≠ '*' := ne_of_isWord (hw.isWord c hc) (by decide)
      simp [hstar]
    rw [spacedWords_cons, List.map_append, hstars, List.map_cons]
    change words (dropWords qualifiers (w ++ ' ' :: _)) = _
    rw [dropWords_append_space _ hw.ne_nil hw.isWord]
    cases hlisted : qualifiers.contains (String.ofList w) with
    | true =>
      rw [if_pos rfl, List.nil_append, words_space, ih hbase,
        List.filter_cons_of_neg (by rw [hlisted]; decide)]
    | false =>
      have hblank : ∀ c ∈ w, isBlank c = false := fun c hc => isBlank_of_isWord (hw.isWord c hc)
      rw [if_neg Bool.false_ne_true, words_append_space hw.ne_nil hblank, ih hbase,
        List.filter_cons_of_pos (by rw [hlisted]; rfl)]

/-! ### The line -/

/-- A printed declaration is a printed list whose first argument begins with the type. -/
theorem printDeclaration_cons {base : List (List Char)} (hne : base ≠ []) (d : Declarator)
    (ds : List Declarator) :
    printDeclaration base (d :: ds) =
      printArguments ((spacedWords base ++ d.print) :: ds.map Declarator.print) := by
  rw [printDeclaration, intercalate_append_space hne, List.map_cons, append_printArguments]

section Line

variable {base : List (List Char)} (hbase : ∀ w ∈ base, IsIdentifier w)

include hbase

/-- The characters that a printed type with a bare declarator behind it is not made of. -/
theorem not_mem_spacedWords_append_bare (d : Declarator) {b : Char} (hword : isWord b = false)
    (hb : b ∉ [' ', '*', '[', ']']) : b ∉ spacedWords base ++ d.bare := by
  obtain ⟨hspace, hother⟩ : b ≠ ' ' ∧ b ∉ ['*', '[', ']'] := by simpa using hb
  rw [List.mem_append, not_or]
  exact ⟨not_mem_spacedWords hbase hword hspace, d.not_mem_bare hword hother⟩

theorem contains_star_spacedWords (stars : Nat) :
    (spacedWords base ++ List.replicate stars '*').contains '*' = decide (0 < stars) := by
  have hwords : '*' ∉ spacedWords base := not_mem_spacedWords hbase (by decide) (by decide)
  cases stars <;> simp [hwords]

variable (hne : base ≠ [])

include hne

theorem exists_spacedWords_eq_cons : ∃ c t, spacedWords base = c :: t ∧ isWord c = true := by
  obtain ⟨w, base, rfl⟩ := List.exists_cons_of_ne_nil hne
  obtain ⟨c, t, rfl, hc⟩ := (hbase w List.mem_cons_self).exists_cons
  exact ⟨c, _, rfl, hc⟩

/-- What stands in front of the first name is a type. -/
theorem typePart_spacedWords (stars : Nat) :
    ((spacedWords base ++ List.replicate stars '*').contains '\n' ||
      (spacedWords base ++ List.replicate stars '*').all isBlank) = false := by
  have hwords : '\n' ∉ spacedWords base := not_mem_spacedWords hbase (by decide) (by decide)
  obtain ⟨c, t, hcons, hc⟩ := exists_spacedWords_eq_cons hbase hne
  rw [Bool.or_eq_false_iff]
  constructor
  · simp [hwords]
  · rw [hcons, List.cons_append, List.all_cons, isBlank_of_isWord hc, Bool.false_and]

/-- A printed type in front of an argument. -/
theorem isArgument_spacedWords_append {s : List Char} (h : IsArgument s) :
    IsArgument (spacedWords base ++ s) where
  balanced := by
    have hordinary : ∀ c ∈ spacedWords base, IsOrdinary c := by
      intro c hc
      rcases cases_of_mem_spacedWords hbase hc with hword | rfl
      · exact isOrdinary_of_isWord hword
      · decide
    exact (balanced_of_isOrdinary hordinary).append h.balanced
  ne_nil := by simp [h.ne_nil]
  head := by
    obtain ⟨c, t, hcons, hc⟩ := exists_spacedWords_eq_cons hbase hne
    rw [hcons]
    exact isBlank_of_isWord hc
  last := (any_getLast?_append _ h.ne_nil).trans h.last

theorem splitInitializer_spacedWords (d : Declarator) :
    splitInitializer (spacedWords base ++ d.print) = (spacedWords base ++ d.bare, d.init) := by
  have hequals : '=' ∉ spacedWords base ++ d.bare :=
    not_mem_spacedWords_append_bare hbase d (by decide) (by decide)
  rw [Declarator.print, ← List.append_assoc, splitInitializer_printInit hequals,
    (isArgument_spacedWords_append hbase hne d.isArgument_bare).trim_eq]

variable (d : Declarator) (ds : List Declarator)

theorem isArgument_items :
    ∀ a ∈ (spacedWords base ++ d.print) :: ds.map Declarator.print, IsArgument a := by
  refine List.forall_mem_cons.2 ⟨isArgument_spacedWords_append hbase hne d.isArgument_print, ?_⟩
  intro a ha
  obtain ⟨e, -, rfl⟩ := List.mem_map.1 ha
  exact e.isArgument_print

theorem splitTopLevel_printDeclaration :
    splitTopLevel (printDeclaration base (d :: ds)) =
      (spacedWords base ++ d.print) :: ds.map Declarator.print := by
  rw [printDeclaration_cons hne]
  exact (arguments_printArguments (isArgument_items hbase hne d ds) []).1

theorem trim_printDeclaration :
    trim (printDeclaration base (d :: ds)) = printDeclaration base (d :: ds) := by
  rw [printDeclaration_cons hne]
  exact trim_printArguments (isArgument_items hbase hne d ds)

theorem semicolon_not_mem_printDeclaration : ';' ∉ printDeclaration base (d :: ds) := by
  rw [printDeclaration_cons hne]
  intro hmem
  rcases cases_of_mem_printArguments hmem with h | h | ⟨a, ha, h⟩
  · cases h
  · cases h
  · rcases List.mem_cons.1 ha with rfl | ha
    · rcases List.mem_append.1 h with h | h
      · exact not_mem_spacedWords hbase (by decide) (by decide) h
      · exact d.semicolon_not_mem_print h
    · obtain ⟨e, -, rfl⟩ := List.mem_map.1 ha
      exact e.semicolon_not_mem_print h

theorem dropLeading_printDeclaration :
    dropLeading ['{', '}'] (printDeclaration base (d :: ds)) = printDeclaration base (d :: ds) := by
  obtain ⟨c, t, hcons, hc⟩ := exists_spacedWords_eq_cons hbase hne
  have hopen : c ≠ '{' := ne_of_isWord hc (by decide)
  have hclose : c ≠ '}' := ne_of_isWord hc (by decide)
  rw [printDeclaration, intercalate_append_space hne, hcons]
  exact List.dropWhile_cons_of_neg (by simp [hopen, hclose])

/-- The head of a line is the declaration up to its semicolon. -/
theorem head_printDeclaration (trailing : List Char) :
    trim (dropLeading ['{', '}']
        (trim ((printDeclaration base (d :: ds) ++ ';' :: trailing).takeWhile (· != ';')))) =
      printDeclaration base (d :: ds) := by
  have hbefore : ∀ c ∈ printDeclaration base (d :: ds), (c != ';') = true := fun c hc =>
    bne_iff_ne.2 (ne_of_mem_of_not_mem hc (semicolon_not_mem_printDeclaration hbase hne d ds))
  have htrim := trim_printDeclaration hbase hne d ds
  rw [List.takeWhile_append_of_pos hbefore, List.takeWhile_cons_of_neg (by decide),
    List.append_nil, htrim, dropLeading_printDeclaration hbase hne, htrim]

end Line

/-- Reading a printed declaration, whatever stands behind its semicolon, gives back one variable
for each of its declarators. -/
theorem parseDeclaration_printDeclaration (base : List (List Char))
    (hbase : ∀ w ∈ base, IsIdentifier w) (hne : base ≠ []) (ds : List Declarator) (hds : ds ≠ [])
    (trailing : List Char) :
    parseDeclaration (printDeclaration base ds ++ ';' :: trailing) =
      ds.map (Declarator.toVariable base) := by
  obtain ⟨d, ds, rfl⟩ := List.exists_cons_of_ne_nil hds
  have hround : (spacedWords base ++ d.bare).contains '(' = false := by
    have hmem := not_mem_spacedWords_append_bare hbase d (b := '(') (by decide) (by decide)
    exact Bool.eq_false_iff.2 fun h => hmem (List.contains_iff_mem.1 h)
  have hfurther : (ds.map Declarator.print).filterMap
      (furtherDeclarator? (Declarator.unqualified base)) = ds.map (Declarator.toVariable base) := by
    rw [List.filterMap_map]
    exact List.filterMap_eq_map_iff_forall_eq_some.2 fun e _ => e.furtherDeclarator?_print base
  simp only [parseDeclaration, head_printDeclaration hbase hne,
    splitTopLevel_printDeclaration hbase hne, splitInitializer_spacedWords hbase hne, hround,
    lastName?_spacedWords hbase, typePart_spacedWords hbase hne, typeWords_spacedWords hbase,
    contains_star_spacedWords hbase, hfurther, List.map_cons, d.toVariable_eq_declared]
  rfl

/-- Commas, equals signs and a parenthesis inside of an initializer, a name that begins like a
qualifier, and more code behind the semicolon. -/
theorem parseDeclaration_printDeclaration_argv :
    parseDeclaration
        "const unsigned int **argv[10][2] = f(x == 1, \"a,)\"), constant, *p = NULL; y;".toList =
      [{ name := "argv".toList, typeName := "unsigned int".toList, isPointer := true,
         isArray := true, isInitialized := true },
       { name := "constant".toList, typeName := "unsigned int".toList },
       { name := "p".toList, typeName := "unsigned int".toList, isPointer := true,
         isInitialized := true, initKind := .null }] := by
  have hliteral : Balanced true "\"a,)\"".toList :=
    show Balanced true ('"' :: ("a,)".toList ++ ['"'])) from
      .literal .double (.char (by decide) (by decide) (.char (by decide) (by decide)
        (.char (by decide) (by decide) .nil))) .nil
  have hinner : Balanced true ("x == 1".toList ++ ", \"a,)\"".toList) :=
    (balanced_of_isOrdinary (by simp [IsOrdinary])).append (.comma (.ordinary (by decide) hliteral))
  have hcall : Balanced false "f(x == 1, \"a,)\")".toList :=
    .ordinary (by decide) (show Balanced false ('(' :: ("x == 1, \"a,)\"".toList ++ [')'])) from
      .group .round hinner .nil)
  have hnull : Balanced false "NULL".toList := balanced_of_isOrdinary (by simp [IsOrdinary])
  let argv : Declarator :=
    { stars := 2, name := "argv".toList, dimensions := ["10".toList, "2".toList],
      init := some "f(x == 1, \"a,)\")".toList, isIdentifier := by decide, isDigit := by decide,
      isInitializer := by
        rintro e ⟨⟩
        exact ⟨⟨hcall, by decide, by decide, by decide⟩, by decide⟩ }
  let constant : Declarator :=
    { name := "constant".toList, isIdentifier := by decide, isDigit := by decide,
      isInitializer := by simp }
  let p : Declarator :=
    { stars := 1, name := "p".toList, init := some "NULL".toList, isIdentifier := by decide,
      isDigit := by decide,
      isInitializer := by
        rintro e ⟨⟩
        exact ⟨⟨hnull, by decide, by decide, by decide⟩, by decide⟩ }
  have hparsed := parseDeclaration_printDeclaration
    ["const".toList, "unsigned".toList, "int".toList] (by decide) (by decide)
    [argv, constant, p] (List.cons_ne_nil _ _) " y;".toList
  refine (congrArg parseDeclaration ?_).trans (hparsed.trans ?_)
  · rfl
  · rfl

end DefectScan
