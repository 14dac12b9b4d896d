import DefectScan.Proofs.PrintedDeclarations
import DefectScan.Scope.Tracking
import Mathlib.Data.List.Basic

/-!
# Printed function headers

A function header is printed as the words of its type, its name, its parameters between parentheses
with commas between them, and an opening brace. It has no other brace and neither semicolon nor
equals sign, so it declares and assigns nothing. Reading it gives back one variable with a value for
each parameter.
-/

namespace DefectScan

open Text

/-- No listed word stands alone at the start of a word that is not listed. -/
theorem closedOneOf?_eq_none {listed : List String} {w : List Char}
    (hw : ∀ c ∈ w, isWord c = true) (hlisted : String.ofList w ∉ listed) :
    closedOneOf? listed w = none := by
  refine List.findSome?_eq_none_iff.2 fun v hv => ?_
  rw [closedWord?, Option.filter_eq_none_iff]
  intro rest hrest
  rw [after?_eq_some_iff] at hrest
  cases rest with
  | nil =>
    rw [List.append_nil] at hrest
    rw [hrest, String.ofList_toList] at hlisted
    exact absurd hv hlisted
  | cons c rest =>
    have hc : isWord c = true := hw c (by simp [hrest])
    simp [startsWord, hc]

/-! ### Parameters -/

/-- A parameter of a function. -/
structure Parameter extends Declarator where
  /-- The words of its type. -/
  base : List (List Char)
  /-- There is at least one. -/
  base_ne_nil : base ≠ []
  /-- They are identifiers. -/
  isIdentifier_base : ∀ w ∈ base, IsIdentifier w
  /-- There is no initializer. -/
  init_eq : init = none

namespace Parameter

/-- The parameter as it is printed. -/
def text (p : Parameter) : List Char := spacedWords p.base ++ p.toDeclarator.print

/-- The variable of a parameter. It has a value. -/
def entry (p : Parameter) : Variable where
  name := p.name
  typeName :=
    if (Declarator.unqualified p.base).isEmpty then "int".toList else Declarator.unqualified p.base
  isPointer := 0 < p.stars
  isArray := !p.dimensions.isEmpty
  isInitialized := true

variable (p : Parameter)

theorem text_eq : p.text = spacedWords p.base ++ p.bare := by
  rw [text, Declarator.print, p.init_eq, Declarator.printInit, List.append_nil]

theorem isArgument_text : IsArgument p.text := by
  rw [text_eq]
  exact isArgument_spacedWords_append p.isIdentifier_base p.base_ne_nil p.isArgument_bare

theorem not_mem_text {b : Char} (hword : isWord b = false) (hb : b ∉ [' ', '*', '[', ']']) :
    b ∉ p.text := by
  rw [text_eq]
  exact not_mem_spacedWords_append_bare p.isIdentifier_base p.toDeclarator hword hb

/-- A parameter with a type is not the word for no parameters. -/
theorem text_ne_void : p.text ≠ "void".toList := by
  obtain ⟨w, base, hbase⟩ := List.exists_cons_of_ne_nil p.base_ne_nil
  have hspace : ' ' ∈ p.text := by
    rw [text, hbase, spacedWords_cons]
    simp
  intro hvoid
  rw [hvoid] at hspace
  exact absurd hspace (by decide)

/-- A bracket stands in a parameter only if it has dimensions. -/
theorem contains_bracket_text : p.text.contains '[' = !p.dimensions.isEmpty := by
  have hwords : '[' ∉ spacedWords p.base :=
    not_mem_spacedWords p.isIdentifier_base (by decide) (by decide)
  have hname : '[' ∉ p.name := fun hmem =>
    ne_of_isWord (p.isIdentifier.isWord '[' hmem) (by decide) rfl
  have hstars : '[' ∉ List.replicate p.stars '*' := fun hmem => by
    cases List.eq_of_mem_replicate hmem
  rw [text_eq, Declarator.bare, Declarator.named, Bool.eq_iff_iff, List.contains_iff_mem,
    List.mem_append, or_iff_right hwords, List.mem_append, or_iff_right hstars, List.mem_append,
    or_iff_right hname]
  cases p.dimensions with
  | nil => simp [Declarator.printDimensions]
  | cons digits dimensions => simp [Declarator.printDimensions]

/-- A printed parameter is read back. -/
theorem parameter?_text : Scope.parameter? p.text = some p.entry := by
  have hlast := lastName?_spacedWords p.isIdentifier_base p.toDeclarator
  rw [← text_eq] at hlast
  rw [Scope.parameter?, hlast, p.contains_bracket_text]
  simp only [Option.bind_eq_bind, Option.bind_some, Option.pure_def, entry,
    typeWords_spacedWords p.isIdentifier_base, contains_star_spacedWords p.isIdentifier_base]

end Parameter

/-! ### Headers -/

/-- The header of a function that takes parameters. -/
structure FunctionHeader where
  /-- The words of its type. -/
  base : List (List Char)
  /-- Its name. -/
  name : List Char
  /-- Its parameters. -/
  parameters : List Parameter
  /-- There is a word of its type. -/
  base_ne_nil : base ≠ []
  /-- The words of its type are identifiers. -/
  isIdentifier_base : ∀ w ∈ base, IsIdentifier w
  /-- The first of them begins no control statement. -/
  no_control : ∀ w ∈ base.head?, String.ofList w ∉ Scope.controlWords
  /-- The name is an identifier. -/
  isIdentifier_name : IsIdentifier name
  /-- There is a parameter. -/
  parameters_ne_nil : parameters ≠ []
  /-- The parameters have different names. -/
  nodup_names : (parameters.map fun p => p.name).Nodup

namespace FunctionHeader

/-- What stands in front of the parameters. -/
def lead (h : FunctionHeader) : List Char := spacedWords h.base ++ h.name

/-- What stands in front of the brace. -/
def front (h : FunctionHeader) : List Char :=
  h.lead ++ '(' :: (printArguments (h.parameters.map Parameter.text) ++ [')', ' '])

/-- The header as it is printed. -/
def text (h : FunctionHeader) : List Char := h.front ++ ['{']

variable (h : FunctionHeader)

theorem text_eq :
    h.text = h.lead ++ '(' ::
      (printArguments (h.parameters.map Parameter.text) ++ ')' :: [' ', '{']) := by
  simp [text, front]

theorem isArgument_parameters : ∀ a ∈ h.parameters.map Parameter.text, IsArgument a := by
  intro a ha
  obtain ⟨p, -, rfl⟩ := List.mem_map.1 ha
  exact p.isArgument_text

theorem not_mem_lead {b : Char} (hword : isWord b = false) (hb : b ≠ ' ') : b ∉ h.lead := by
  rw [lead, List.mem_append, not_or]
  refine ⟨not_mem_spacedWords h.isIdentifier_base hword hb, fun hmem => ?_⟩
  exact ne_of_isWord (h.isIdentifier_name.isWord b hmem) hword rfl

/-- The characters that a header is not made of, its brace aside. -/
theorem not_mem_front {b : Char} (hword : isWord b = false)
    (hb : b ∉ [' ', '*', '[', ']', '(', ',', ')']) : b ∉ h.front := by
  simp only [List.mem_cons, List.not_mem_nil, or_false, not_or] at hb
  obtain ⟨hspace, hstar, hopen, hclose, hround, hcomma, hend⟩ := hb
  simp only [front, List.mem_append, List.mem_cons, List.not_mem_nil, or_false, not_or]
  refine ⟨h.not_mem_lead hword hspace, hround, fun hmem => ?_, hend, hspace⟩
  rcases cases_of_mem_printArguments hmem with hb | hb | ⟨a, ha, hb⟩
  · exact hcomma hb
  · exact hspace hb
  · obtain ⟨p, -, rfl⟩ := List.mem_map.1 ha
    exact p.not_mem_text hword (by simp [hspace, hstar, hopen, hclose]) hb

theorem not_mem_text {b : Char} (hword : isWord b = false)
    (hb : b ∉ [' ', '*', '[', ']', '(', ',', ')', '{']) : b ∉ h.text := by
  have hbrace : b ≠ '{' := by
    rintro rfl
    exact hb (by simp)
  rw [text, List.mem_append, List.mem_singleton, not_or]
  exact ⟨h.not_mem_front hword fun hmem => hb (by simp at hmem ⊢; tauto), hbrace⟩

theorem isLikelyDeclaration_text : isLikelyDeclaration h.text = false := by
  have hsemicolon : ';' ∉ h.text := h.not_mem_text (by decide) (by decide)
  simp [isLikelyDeclaration, hsemicolon]

/-- A header begins with the first word of its type, which begins no control statement. -/
theorem startsWithControl_text : Scope.startsWithControl h.text = false := by
  obtain ⟨w, base, hbase⟩ := List.exists_cons_of_ne_nil h.base_ne_nil
  have hw : IsIdentifier w := h.isIdentifier_base w (by simp [hbase])
  have hcontrol : String.ofList w ∉ Scope.controlWords := h.no_control w (by simp [hbase])
  obtain ⟨c, rest, hcons, hc⟩ := hw.exists_cons
  obtain ⟨t, htext⟩ : ∃ t, h.text = w ++ ' ' :: t := by
    rw [text_eq, lead, hbase, List.append_assoc, spacedWords_cons]
    exact ⟨_, rfl⟩
  have htrim : trimStart h.text = h.text := by
    rw [htext, hcons]
    exact trimStart_eq_self (isBlank_of_isWord hc)
  have hhead : (h.text.head? == some '}') = false := by
    have hbrace : c ≠ '}' := ne_of_isWord hc (by decide)
    simp [htext, hcons, hbrace]
  have hclosed : closedOneOf? Scope.controlWords h.text = none := by
    rw [htext, closedOneOf?_append_cons (by decide) (by decide),
      closedOneOf?_eq_none hw.isWord hcontrol, Option.map_none]
  simp only [Scope.startsWithControl, htrim, hhead, Bool.false_eq_true, if_false, hclosed,
    Option.isSome_none]

/-- The parameters of a printed header are read back. -/
theorem openedParameters_text :
    Scope.openedParameters h.text = h.parameters.map Parameter.entry := by
  have hround : '(' ∉ h.lead := h.not_mem_lead (by decide) (by decide)
  have hindex : h.text.idxOf '(' = h.lead.length := by
    rw [text_eq, List.idxOf_append_of_notMem hround, List.idxOf_cons_self, Nat.add_zero]
  have hsplit : (splitArguments h.text (h.text.idxOf '(' + 1)).1 =
      h.parameters.map Parameter.text := by
    have hdrop : h.text.drop (h.lead.length + 1) =
        printArguments (h.parameters.map Parameter.text) ++ ')' :: [' ', '{'] := by
      rw [text_eq]
      simp [List.drop_append]
    rw [hindex, splitArguments, hdrop]
    exact (arguments_printArguments h.isArgument_parameters _).1
  have hlast : (trimEnd h.text).getLast? = some '{' := by
    have hblank : h.text.getLast?.any isBlank = false := by
      rw [text, List.getLast?_concat]
      decide
    rw [trimEnd_eq_self hblank, text, List.getLast?_concat]
  have hvoid : h.parameters.map Parameter.text ≠ ["void".toList] := by
    intro hvoid
    obtain ⟨p, ps, hps⟩ := List.exists_cons_of_ne_nil h.parameters_ne_nil
    rw [hps, List.map_cons] at hvoid
    exact p.text_ne_void (List.cons.inj hvoid).1
  have hopen : h.text.contains '(' = true := by simp [text_eq]
  have hclose : h.text.contains ')' = true := by simp [text_eq]
  rw [Scope.openedParameters, hopen, hclose, hlast, h.startsWithControl_text, hsplit]
  simp only [BEq.rfl, Bool.and_true, Bool.not_false, if_pos, if_neg hvoid, List.filterMap_map]
  rw [← List.filterMap_eq_map]
  congr 1
  funext p
  exact p.parameter?_text

end FunctionHeader

end DefectScan
