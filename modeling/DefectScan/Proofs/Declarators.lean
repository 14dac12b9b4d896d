import DefectScan.Proofs.ArgumentLists
import DefectScan.Proofs.Words
import DefectScan.Variable
import Mathlib.Logic.Basic

/-!
# Printed declarators

A declarator is printed as its stars, its name, its dimensions and possibly an initializer. It can
stand in a list of arguments, its initializer is what follows its first equals sign, and reading it
behind another declarator of the same declaration gives back the variable that it declares.
-/

namespace DefectScan

open Text

/-! ### Words -/

namespace Text

/-- An identifier: ASCII letters, digits and underscores, with no digit in front. -/
structure IsIdentifier (s : List Char) : Prop where
  /-- It begins with a letter or an underscore. -/
  head : s.head?.any isNameStart = true
  /-- It goes on with letters, digits and underscores. -/
  chars : (s.all fun c => isNameStart c || c.isDigit) = true

instance (s : List Char) : Decidable (IsIdentifier s) :=
  decidable_of_iff
    (s.head?.any isNameStart = true ∧ (s.all fun c => isNameStart c || c.isDigit) = true)
    ⟨fun h => ⟨h.1, h.2⟩, fun h => ⟨h.head, h.chars⟩⟩

theorem isWord_of_isDigit {c : Char} (h : c.isDigit = true) : isWord c = true := by
  have hascii : c.toNat < 128 := by
    simp only [Char.isDigit, UInt32.le_iff_toNat_le, ge_iff_le, Bool.and_eq_true,
      decide_eq_true_eq] at h
    have hval : c.val.toNat = c.toNat := rfl
    have hnine : '9'.val.toNat = 57 := rfl
    omega
  simp [isWord, isLetterOrNumber, hascii, Char.isAlphanum, h]

/-- A character of a word is none of the characters outside of words. -/
theorem ne_of_isWord {c b : Char} (h : isWord c = true) (hb : isWord b = false) : c ≠ b := by
  rintro rfl
  rw [h] at hb
  cases hb

theorem isBlank_of_isWord {c : Char} (h : isWord c = true) : isBlank c = false := by
  rw [Bool.eq_false_iff]
  intro hblank
  rw [isWord_of_isBlank hblank] at h
  cases h

namespace IsIdentifier

variable {s : List Char}

theorem isWord (h : IsIdentifier s) : ∀ c ∈ s, isWord c = true := by
  intro c hc
  rcases Bool.or_eq_true_iff.1 (List.all_eq_true.1 h.chars c hc) with hstart | hdigit
  · exact isWord_of_isNameStart hstart
  · exact isWord_of_isDigit hdigit

theorem ne_nil (h : IsIdentifier s) : s ≠ [] := by
  rintro rfl
  exact absurd h.head (by decide)

theorem exists_cons (h : IsIdentifier s) : ∃ c rest, s = c :: rest ∧ Text.isWord c = true := by
  obtain ⟨c, rest, rfl⟩ := List.exists_cons_of_ne_nil h.ne_nil
  exact ⟨c, rest, rfl, h.isWord c List.mem_cons_self⟩

end IsIdentifier

/-- A word comes first if no character of a word follows it. -/
theorem takeWhile_isWord_append {w rest : List Char} (hw : ∀ c ∈ w, isWord c = true)
    (hrest : startsWord rest = false) :
    wordHead (w ++ rest) = w ∧ afterWord (w ++ rest) = rest := by
  have hstop : rest.takeWhile isWord = [] ∧ rest.dropWhile isWord = rest := by
    cases rest with
    | nil => exact ⟨rfl, rfl⟩
    | cons c rest =>
      have hc : ¬isWord c = true := by simpa [startsWord] using hrest
      exact ⟨List.takeWhile_cons_of_neg hc, List.dropWhile_cons_of_neg hc⟩
  rw [wordHead, afterWord, List.takeWhile_append_of_pos hw, List.dropWhile_append_of_pos hw,
    hstop.1, hstop.2, List.append_nil]
  exact ⟨rfl, rfl⟩

end Text

/-! ### Declarators -/

/-- An initializer as it is printed: an argument without semicolons. -/
structure IsInitializer (s : List Char) : Prop extends IsArgument s where
  /-- The declaration does not end in it. -/
  semicolon : ';' ∉ s

/-- A declarator of a variable. -/
structure Declarator where
  /-- The number of stars. -/
  stars : Nat := 0
  /-- The declared name. -/
  name : List Char
  /-- The digits of each dimension. -/
  dimensions : List (List Char) := []
  /-- The initializer. -/
  init : Option (List Char) := none
  /-- The name is an identifier. -/
  isIdentifier : IsIdentifier name
  /-- The dimensions are numbers. -/
  isDigit : ∀ digits ∈ dimensions, digits.all Char.isDigit = true
  /-- The initializer can be printed. -/
  isInitializer : ∀ e ∈ init, IsInitializer e

namespace Declarator

/-- The dimensions as they are printed. -/
def printDimensions (dimensions : List (List Char)) : List Char :=
  dimensions.flatMap fun digits => '[' :: (digits ++ [']'])

/-- An initializer as it is printed behind a declarator. -/
def printInit : Option (List Char) → List Char
  | some e => ' ' :: '=' :: ' ' :: e
  | none => []

/-- The name with its dimensions. -/
def named (d : Declarator) : List Char := d.name ++ printDimensions d.dimensions

/-- The declarator without its initializer. -/
def bare (d : Declarator) : List Char := List.replicate d.stars '*' ++ d.named

/-- The declarator as it is printed. -/
def print (d : Declarator) : List Char := d.bare ++ printInit d.init

/-- The words of a type other than qualifiers, one space between each two. -/
def unqualified (base : List (List Char)) : List Char :=
  [' '].intercalate (base.filter fun w => !qualifiers.contains (String.ofList w))

/-- The variable that a declarator behind the given words of a type declares. -/
def toVariable (base : List (List Char)) (d : Declarator) : Variable where
  name := d.name
  typeName := unqualified base
  isPointer := 0 < d.stars
  isArray := !d.dimensions.isEmpty
  isInitialized := d.init.isSome
  initKind :=
    match d.init with
    | some e => if 0 < d.stars then pointerInitKind e else .none
    | none => .none
  nullSince := none

end Declarator

/-! ### Printed parts as arguments -/

/-- The characters of words need no quotes or brackets. -/
theorem isOrdinary_of_isWord {c : Char} (h : isWord c = true) : IsOrdinary c := by
  have houtside : ['"', '\'', '(', '[', '{', ')', ']', '}', ','].all (!isWord ·) = true := by
    decide
  intro hmem
  exact ne_of_isWord h (by simpa using List.all_eq_true.1 houtside c hmem) rfl

theorem balanced_of_isWord {commas : Bool} {s : List Char} (h : ∀ c ∈ s, isWord c = true) :
    Balanced commas s :=
  balanced_of_isOrdinary fun c hc => isOrdinary_of_isWord (h c hc)

namespace Declarator

variable (d : Declarator)

theorem balanced_printDimensions {dimensions : List (List Char)}
    (h : ∀ digits ∈ dimensions, digits.all Char.isDigit = true) :
    Balanced false (printDimensions dimensions) := by
  induction dimensions with
  | nil => exact .nil
  | cons digits dimensions ih =>
    obtain ⟨hdigits, hdimensions⟩ := List.forall_mem_cons.1 h
    have hinner : Balanced true digits :=
      balanced_of_isWord fun c hc => isWord_of_isDigit (List.all_eq_true.1 hdigits c hc)
    rw [printDimensions, List.flatMap_cons, List.cons_append, List.append_assoc,
      List.singleton_append]
    exact .group .square hinner (ih hdimensions)

theorem balanced_bare : Balanced false d.bare := by
  have hstars : Balanced false (List.replicate d.stars '*') := by
    refine balanced_of_isOrdinary fun c hc => ?_
    rw [List.eq_of_mem_replicate hc]
    decide
  have hname : Balanced false d.name := balanced_of_isWord d.isIdentifier.isWord
  exact hstars.append (hname.append (balanced_printDimensions d.isDigit))

theorem balanced_print : Balanced false d.print := by
  refine d.balanced_bare.append ?_
  have hinit := d.isInitializer
  cases hd : d.init with
  | none => exact .nil
  | some e =>
    have hordinary : ∀ c ∈ [' ', '=', ' '], IsOrdinary c := by simp [IsOrdinary]
    exact (balanced_of_isOrdinary hordinary).append (hinit e hd).balanced

/-- What a declarator without its initializer is made of. -/
theorem cases_of_mem_bare {c : Char} (hc : c ∈ d.bare) :
    isWord c = true ∨ c ∈ ['*', '[', ']'] := by
  rcases List.mem_append.1 hc with hc | hc
  · rw [List.eq_of_mem_replicate hc]
    exact .inr List.mem_cons_self
  · rcases List.mem_append.1 hc with hc | hc
    · exact .inl (d.isIdentifier.isWord c hc)
    · obtain ⟨digits, hdigits, hc⟩ := List.mem_flatMap.1 hc
      rcases List.mem_cons.1 hc with rfl | hc
      · exact .inr (by decide)
      · rcases List.mem_append.1 hc with hc | hc
        · exact .inl (isWord_of_isDigit (List.all_eq_true.1 (d.isDigit digits hdigits) c hc))
        · rw [List.mem_singleton.1 hc]
          exact .inr (by decide)

theorem not_mem_bare {b : Char} (hword : isWord b = false) (hb : b ∉ ['*', '[', ']']) :
    b ∉ d.bare := by
  intro hmem
  rcases d.cases_of_mem_bare hmem with h | h
  · exact ne_of_isWord h hword rfl
  · exact hb h

theorem isBlank_of_mem_bare {c : Char} (hc : c ∈ d.bare) : isBlank c = false := by
  rcases d.cases_of_mem_bare hc with h | h
  · exact isBlank_of_isWord h
  · have hall : ['*', '[', ']'].all (!isBlank ·) = true := by decide
    simpa using List.all_eq_true.1 hall c h

theorem exists_named_eq_cons : ∃ c rest, d.named = c :: rest ∧ isWord c = true := by
  obtain ⟨c, rest, hname, hc⟩ := d.isIdentifier.exists_cons
  exact ⟨c, rest ++ printDimensions d.dimensions, by rw [named, hname, List.cons_append], hc⟩

theorem bare_ne_nil : d.bare ≠ [] := by
  obtain ⟨c, rest, hnamed, -⟩ := d.exists_named_eq_cons
  simp [bare, hnamed]

theorem isArgument_bare : IsArgument d.bare where
  balanced := d.balanced_bare
  ne_nil := d.bare_ne_nil
  head := by
    rw [Option.any_eq_false]
    intro c hc
    simp [d.isBlank_of_mem_bare (List.mem_of_head? hc)]
  last := by
    rw [Option.any_eq_false]
    intro c hc
    simp [d.isBlank_of_mem_bare (List.mem_of_getLast? hc)]

/-- A printed declarator can stand in a list of arguments. -/
theorem isArgument_print : IsArgument d.print where
  balanced := d.balanced_print
  ne_nil := by simp [print, d.bare_ne_nil]
  head := (any_head?_append d.bare_ne_nil _).trans d.isArgument_bare.head
  last := by
    have hinit := d.isInitializer
    rw [print]
    cases hd : d.init with
    | none =>
      rw [printInit, List.append_nil]
      exact d.isArgument_bare.last
    | some e =>
      have he := (hinit e hd).toIsArgument
      have hprint : d.bare ++ printInit (some e) = (d.bare ++ [' ', '=', ' ']) ++ e := by
        simp [printInit]
      rw [hprint, any_getLast?_append _ he.ne_nil]
      exact he.last

theorem semicolon_not_mem_print : ';' ∉ d.print := by
  rw [print, List.mem_append, not_or]
  refine ⟨d.not_mem_bare (by decide) (by decide), ?_⟩
  have hinit := d.isInitializer
  cases hd : d.init with
  | none => simp [printInit]
  | some e => simp [printInit, (hinit e hd).semicolon]

end Declarator

/-! ### Names and dimensions -/

theorem trimStart_printDimensions (dimensions : List (List Char)) :
    trimStart (Declarator.printDimensions dimensions) = Declarator.printDimensions dimensions := by
  cases dimensions with
  | nil => rfl
  | cons digits dimensions => exact trimStart_eq_self (by decide : isBlank '[' = false)

/-- Printed dimensions are read to their end. -/
theorem afterDimensions_printDimensions {dimensions : List (List Char)}
    (h : ∀ digits ∈ dimensions, digits.all Char.isDigit = true) :
    afterDimensions (Declarator.printDimensions dimensions) = (!dimensions.isEmpty, []) := by
  induction dimensions with
  | nil => simp [Declarator.printDimensions, afterDimensions]
  | cons digits dimensions ih =>
    obtain ⟨hdigits, hdimensions⟩ := List.forall_mem_cons.1 h
    have hprint : Declarator.printDimensions (digits :: dimensions) =
        '[' :: (digits ++ ']' :: Declarator.printDimensions dimensions) := by
      simp [Declarator.printDimensions]
    have hinside : ∀ c ∈ digits, (c != ']') = true := by
      intro c hc
      have hword := isWord_of_isDigit (List.all_eq_true.1 hdigits c hc)
      exact bne_iff_ne.2 (ne_of_isWord hword (by decide))
    have hrest : (digits ++ ']' :: Declarator.printDimensions dimensions).dropWhile (· != ']') =
        ']' :: Declarator.printDimensions dimensions := by
      rw [List.dropWhile_append_of_pos hinside, List.dropWhile_cons_of_neg (by decide)]
    rw [hprint, afterDimensions, if_pos (by simp), hrest, List.drop_succ_cons, List.drop_zero,
      trimStart_printDimensions, ih hdimensions]
    rfl

namespace Declarator

variable (d : Declarator)

theorem nameWithDimensions?_named :
    nameWithDimensions? d.named = some (d.name, !d.dimensions.isEmpty) := by
  have hstops : startsWord (printDimensions d.dimensions) = false := by
    cases d.dimensions with
    | nil => rfl
    | cons digits dimensions => exact (by decide : isWord '[' = false)
  obtain ⟨hword, hafter⟩ := takeWhile_isWord_append d.isIdentifier.isWord hstops
  have hhead : d.named.head?.any isNameStart = true :=
    (any_head?_append d.isIdentifier.ne_nil _).trans d.isIdentifier.head
  rw [nameWithDimensions?, hhead, named, hword, hafter, trimStart_printDimensions,
    afterDimensions_printDimensions d.isDigit]
  rfl

end Declarator

/-! ### Initializers -/

/-- A printed item is cut at the equals sign before its initializer. -/
theorem splitInitializer_printInit {front : List Char} (hfront : '=' ∉ front) (d : Declarator) :
    splitInitializer (front ++ Declarator.printInit d.init) = (trim front, d.init) := by
  have hinit := d.isInitializer
  cases hd : d.init with
  | none =>
    have hbefore : ∀ c ∈ front, (c != '=') = true := fun c hc =>
      bne_iff_ne.2 (ne_of_mem_of_not_mem hc hfront)
    rw [Declarator.printInit, splitInitializer, List.takeWhile_append_of_pos hbefore,
      List.dropWhile_append_of_pos hbefore, List.takeWhile_nil, List.append_nil]
    rfl
  | some e =>
    have hspaced : '=' ∉ front ++ [' '] := by simp [hfront]
    have hbefore : ∀ c ∈ front ++ [' '], (c != '=') = true := fun c hc =>
      bne_iff_ne.2 (ne_of_mem_of_not_mem hc hspaced)
    have hprint : front ++ Declarator.printInit (some e) = (front ++ [' ']) ++ '=' :: ' ' :: e := by
      simp [Declarator.printInit]
    have htrim : trim ([] ++ (front ++ [' '])) = trim front :=
      trim_append_append (List.forall_mem_nil _) (by simp [isBlank_space])
    rw [hprint, splitInitializer, List.takeWhile_append_of_pos hbefore,
      List.dropWhile_append_of_pos hbefore, List.takeWhile_cons_of_neg (by decide),
      List.dropWhile_cons_of_neg (by decide), List.append_nil]
    exact Prod.ext htrim (congrArg some (hinit e hd).trim_space_cons)

/-! ### Declarators behind the first -/

namespace Declarator

variable (d : Declarator)

theorem toVariable_eq_declared (base : List (List Char)) :
    d.toVariable base =
      .declared (unqualified base) d.name (0 < d.stars) (!d.dimensions.isEmpty) d.init := by
  cases hd : d.init <;> simp [toVariable, Variable.declared, hd]

theorem splitInitializer_print : splitInitializer d.print = (d.bare, d.init) := by
  have hequals : '=' ∉ d.bare := d.not_mem_bare (by decide) (by decide)
  rw [print, splitInitializer_printInit hequals, d.isArgument_bare.trim_eq]

/-- The stars of a declarator are counted off before its name. -/
theorem dropWhile_star_bare : d.bare.dropWhile (· == '*') = d.named := by
  have hstars : ∀ c ∈ List.replicate d.stars '*', (c == '*') = true := fun c hc =>
    beq_iff_eq.2 (List.eq_of_mem_replicate hc)
  obtain ⟨c, rest, hnamed, hc⟩ := d.exists_named_eq_cons
  have hstar : c ≠ '*' := ne_of_isWord hc (by decide)
  rw [bare, List.dropWhile_append_of_pos hstars, hnamed,
    List.dropWhile_cons_of_neg (by simpa using hstar)]

theorem head?_bare_eq_star : (d.bare.head? == some '*') = decide (0 < d.stars) := by
  obtain ⟨c, rest, hnamed, hc⟩ := d.exists_named_eq_cons
  have hstar : c ≠ '*' := ne_of_isWord hc (by decide)
  rw [bare, hnamed]
  cases d.stars with
  | zero => simpa using hstar
  | succ k => rfl

theorem trimStart_named : trimStart d.named = d.named := by
  obtain ⟨c, rest, hnamed, hc⟩ := d.exists_named_eq_cons
  rw [hnamed]
  exact trimStart_eq_self (isBlank_of_isWord hc)

/-- A printed declarator behind the first one is read back. -/
theorem furtherDeclarator?_print (base : List (List Char)) :
    furtherDeclarator? (unqualified base) d.print = some (d.toVariable base) := by
  have hround : d.bare.contains '(' = false := by
    simpa using d.not_mem_bare (b := '(') (by decide) (by decide)
  rw [furtherDeclarator?, d.splitInitializer_print]
  dsimp only
  rw [hround, trimStart_eq_self d.isArgument_bare.head, d.dropWhile_star_bare, d.trimStart_named,
    d.nameWithDimensions?_named, d.head?_bare_eq_star, d.toVariable_eq_declared]
  rfl

end Declarator

end DefectScan
