import DefectScan.Proofs.MissingHeaders
import DefectScan.Proofs.UnsetReads

/-!
# Targets of formatted input

A target of `scanf` that names a variable has to be written as an address unless it is an array or
a pointer of characters. Two checks apply this rule, each with its own notion of what a name means:
the check of a tree takes the closest declaration, the scope check the entry in scope. The module
reads both off one target. The check of a tree follows the rule; the scope check passes over every
target of a character type, and so departs from the rule at plain characters and nowhere else.
-/

namespace DefectScan

open Text

/-! ### What a target says -/

/-- Whether a target names something and is not written as an address. -/
def isByValue (target : List Char) : Bool :=
  !((argumentName target).isEmpty || (trim target).head? == some '&')

/-- The defect of a target that is passed by value. -/
def Defect.ofTarget (target : List Char) : Defect :=
  .notByAddress (trim target) (argumentName target)

theorem targetDefect?_eq_some_iff {isCharBuffer : List Char → Bool} {target : List Char}
    {d : Defect} :
    targetDefect? isCharBuffer target = some d ↔
      isByValue target = true ∧ isCharBuffer (argumentName target) = false ∧
        d = .ofTarget target := by
  rw [targetDefect?, Option.ite_none_left_eq_some, Bool.not_eq_true, Bool.or_eq_false_iff,
    Option.some_inj, isByValue, Bool.not_eq_true', and_assoc, Defect.ofTarget, eq_comm (a := d)]

/-- The defects of a formatted call: those in the number of its arguments, and if it is one of
`scanf` those of its targets. -/
theorem FormatCall.mem_defects_iff {isCharBuffer : List Char → Bool} {call : FormatCall}
    {d : Defect} :
    d ∈ call.defects isCharBuffer ↔
      d ∈ call.countDefects ∨ call.callee = "scanf".toList ∧ ∃ target ∈ call.arguments.tail,
        isByValue target = true ∧ isCharBuffer (argumentName target) = false ∧
          d = .ofTarget target := by
  rw [defects, List.mem_append]
  refine or_congr_right ?_
  split
  · next hcallee => simp only [List.mem_filterMap, targetDefect?_eq_some_iff, hcallee, true_and]
  · next hcallee => exact iff_of_false List.not_mem_nil fun h => hcallee h.1

/-! ### Messages -/

theorem isWord_of_mem_argumentName {target : List Char} {c : Char}
    (h : c ∈ argumentName target) : isWord c = true := by
  unfold argumentName at h
  dsimp only at h
  split at h
  · cases h
  · exact List.all_eq_true.1 List.all_takeWhile c h

/-- A target is named by its text without the blanks around it. -/
theorem argumentName_eq_of_trim_eq {target target' : List Char} (h : trim target = trim target') :
    argumentName target = argumentName target' := by
  rw [argumentName, argumentName, h]

/-- The last word of a text and the character in front of it can be read off. -/
theorem append_cons_word_inj {l l' w w' : List Char} {c c' : Char} (hc : isWord c = false)
    (hc' : isWord c' = false) (hw : ∀ d ∈ w, isWord d = true) (hw' : ∀ d ∈ w', isWord d = true)
    (h : l ++ c :: w = l' ++ c' :: w') : l = l' ∧ c = c' ∧ w = w' := by
  rcases List.append_eq_append_iff.1 h with ⟨m, rfl, hm⟩ | ⟨m, rfl, hm⟩
  · cases m with
    | nil =>
      obtain ⟨rfl, rfl⟩ := List.cons.inj hm
      exact ⟨(List.append_nil l).symm, rfl, rfl⟩
    | cons a m =>
      obtain ⟨-, rfl⟩ := List.cons.inj hm
      exact absurd (hw c' (by simp)) (Bool.eq_false_iff.1 hc')
  · cases m with
    | nil =>
      obtain ⟨rfl, rfl⟩ := List.cons.inj hm
      exact ⟨List.append_nil l', rfl, rfl⟩
    | cons a m =>
      obtain ⟨-, rfl⟩ := List.cons.inj hm
      exact absurd (hw' c (by simp)) (Bool.eq_false_iff.1 hc)

/-- The message about a target ends with its name behind an ampersand. -/
theorem toList_message_ofTarget (target : List Char) :
    (Defect.ofTarget target).message.toList =
      ("scanf argument '".toList ++ (trim target ++
        "' should be passed by address (use ".toList)) ++ '&' :: argumentName target ++ [')'] := by
  have hmessage : (Defect.ofTarget target).message =
      "scanf argument '" ++ String.ofList (trim target) ++
        "' should be passed by address (use &" ++ String.ofList (argumentName target) ++ ")" := rfl
  have hampersand : "' should be passed by address (use &".toList =
      "' should be passed by address (use ".toList ++ ['&'] := by decide
  have hclose : ")".toList = [')'] := by decide
  simp only [hmessage, String.toList_append, String.toList_ofList, hampersand, hclose,
    List.append_assoc, List.cons_append, List.nil_append]

/-- A message about the number of arguments ends with a word behind a blank. -/
theorem FormatCall.exists_message_of_mem_countDefects {call : FormatCall} {d : Defect}
    (h : d ∈ call.countDefects) :
    ∃ l, d.message.toList = l ++ ' ' :: "expected".toList ++ [')'] := by
  have hcount : ∀ given expected, ∃ l,
      (Defect.argumentCount given expected).toList = l ++ ' ' :: "expected".toList ++ [')'] := by
    intro given expected
    have hend : " expected)".toList = ' ' :: "expected".toList ++ [')'] := by decide
    refine ⟨"(".toList ++ (toString given).toList ++ " given, ".toList ++
      (toString expected).toList, ?_⟩
    rw [Defect.argumentCount, String.toList_append, String.toList_append, String.toList_append,
      String.toList_append, hend, List.append_assoc _ (_ :: _)]
  have hmessage : ∀ front : String, ∀ given expected, ∃ l,
      (front ++ Defect.argumentCount given expected).toList =
        l ++ ' ' :: "expected".toList ++ [')'] := by
    intro front given expected
    obtain ⟨l, hl⟩ := hcount given expected
    exact ⟨front.toList ++ l, by rw [String.toList_append, hl, List.append_assoc,
      List.append_assoc, List.append_assoc]⟩
  unfold countDefects at h
  split at h
  · dsimp only at h
    split at h
    · cases List.mem_singleton.1 h
      exact hmessage _ _ _
    · split at h
      · cases List.mem_singleton.1 h
        exact hmessage _ _ _
      · cases h
  · cases h

/-- A defect of a formatted call that has the message of a target is that of the target. -/
theorem FormatCall.of_message_eq {isCharBuffer : List Char → Bool} {call : FormatCall}
    {d : Defect} {target : List Char} (hd : d ∈ call.defects isCharBuffer)
    (h : d.message = (Defect.ofTarget target).message) :
    d = .ofTarget target ∧ isByValue target = true ∧
      isCharBuffer (argumentName target) = false := by
  have hname : ∀ target : List Char, ∀ c ∈ argumentName target, isWord c = true :=
    fun target c hc => isWord_of_mem_argumentName hc
  have hlist := congrArg String.toList h
  rw [toList_message_ofTarget] at hlist
  rcases mem_defects_iff.1 hd with hcount | ⟨-, target', -, hvalue, hbuffer, rfl⟩
  · obtain ⟨l, hl⟩ := exists_message_of_mem_countDefects hcount
    rw [hl] at hlist
    have hexpected : ∀ c ∈ "expected".toList, isWord c = true := List.all_eq_true.1 (by decide)
    obtain ⟨-, hc, -⟩ := append_cons_word_inj (by decide) (by decide) hexpected (hname target)
      (List.append_cancel_right hlist)
    cases hc
  · rw [toList_message_ofTarget] at hlist
    obtain ⟨hfront, -, -⟩ := append_cons_word_inj (by decide) (by decide) (hname target')
      (hname target) (List.append_cancel_right hlist)
    have htrim := List.append_cancel_right (List.append_cancel_left hfront)
    have hargument := argumentName_eq_of_trim_eq htrim
    refine ⟨?_, ?_, ?_⟩
    · rw [Defect.ofTarget, Defect.ofTarget, htrim, hargument]
    · rw [isByValue, ← htrim, ← hargument]
      exact hvalue
    · rw [← hargument]
      exact hbuffer

theorem FormatCall.ofTarget_mem_defects_iff {isCharBuffer : List Char → Bool} {call : FormatCall}
    (hcallee : call.callee = "scanf".toList) {target : List Char}
    (htarget : target ∈ call.arguments.tail) :
    .ofTarget target ∈ call.defects isCharBuffer ↔
      isByValue target = true ∧ isCharBuffer (argumentName target) = false := by
  constructor
  · exact fun h => (of_message_eq h rfl).2
  · rintro ⟨hvalue, hbuffer⟩
    exact mem_defects_iff.2 (.inr ⟨hcallee, target, htarget, hvalue, hbuffer, rfl⟩)

/-! ### Types of targets -/

/-- What the rule asks about the variable that a target names. -/
structure TargetType where
  /-- The type is `char` up to signedness and constness. -/
  isChar : Bool
  /-- The variable is an array or a pointer. -/
  isBuffer : Bool
  deriving DecidableEq, Repr

/-- Whether the rule exempts the target: it is an array or a pointer of characters. -/
def TargetType.isExempt (type : TargetType) : Bool := type.isChar && type.isBuffer

def Variable.targetType (v : Variable) : TargetType :=
  ⟨isCharType v.typeName, v.isArray || v.isPointer⟩

def Declaration.targetType (d : Declaration) : TargetType :=
  ⟨isCharType d.declaredType, d.isArray || d.isPointer⟩

/-- In a tree the exempt names are those of arrays and pointers of characters. -/
theorem isCharBufferAt_eq_any (ds : List Declaration) (row : Nat) (name : List Char) :
    isCharBufferAt ds row name =
      ((closestDeclaration? name row ds).map Declaration.targetType).any TargetType.isExempt := by
  rw [Option.any_map]
  rfl

/-- In a scope the exempt names are those of all variables of a character type. -/
theorem Scope.isCharBuffer_eq_any (scope : Scope) (name : List Char) :
    scope.isCharBuffer name =
      ((scope.lookup name).map Variable.targetType).any TargetType.isChar := by
  rw [Option.any_map]
  rfl

/-- Exempting all characters differs from the rule at a plain character that is passed by value. -/
theorem TargetType.exempt_agree_iff (type? : Option TargetType) (byValue : Prop) :
    ((byValue ∧ type?.any isChar = false) ↔ (byValue ∧ type?.any isExempt = false)) ↔
      ¬(byValue ∧ type? = some ⟨true, false⟩) := by
  rcases type? with _ | ⟨_ | _, _ | _⟩ <;> simp [isExempt]

/-! ### Reports of targets -/

/-- The tree checks report a target unless it names an array or a pointer of characters. -/
theorem issue_ofTarget_mem_loopAndFormatCheck_iff (path : String) (ds : List Declaration)
    (loops : List Loop) {formats : List FormatCall} {call : FormatCall} (hcall : call ∈ formats)
    (hcallee : call.callee = "scanf".toList) {target : List Char}
    (htarget : target ∈ call.arguments.tail) :
    Sighting.issue path ⟨call.position.row, .ofTarget target⟩ ∈
        (loopAndFormatCheck ds loops formats).map (Sighting.issue path) ↔
      isByValue target = true ∧
        isCharBufferAt ds call.position.row (argumentName target) = false := by
  constructor
  · intro h
    obtain ⟨s, hs, hissue⟩ := List.mem_map.1 h
    obtain ⟨hrow, hcategory, hmessage⟩ := Sighting.eq_of_issue_eq hissue
    rcases List.mem_append.1 hs with hs | hs
    · cases (category_of_mem_loopCheck hs).symm.trans hcategory
    · obtain ⟨call', -, hs⟩ := List.mem_flatMap.1 hs
      obtain ⟨d, hd, rfl⟩ := List.mem_map.1 hs
      rw [← show call'.position.row = call.position.row from hrow]
      exact (FormatCall.of_message_eq hd hmessage).2
  · intro h
    refine List.mem_map_of_mem (List.mem_append_right _ (List.mem_flatMap.2 ⟨call, hcall, ?_⟩))
    exact List.mem_map_of_mem ((FormatCall.ofTarget_mem_defects_iff hcallee htarget).2 h)

namespace Checkpoint

variable {flow : Bool} {lines : List (List Char)} {c : Checkpoint}

/-- Assignments leave the types of targets as they are. -/
theorem isCharBuffer_assigned (flow : Bool) (c : Checkpoint) :
    (c.assigned flow).isCharBuffer = c.scope.isCharBuffer := by
  funext name
  have hfixed := congrArg (Option.any fun v => isCharType v.typeName)
    (map_fixed_lookup_assigned flow c name)
  rw [Option.any_map, Option.any_map] at hfixed
  exact hfixed

/-- The scope check reports a target unless it names a variable of a character type. -/
theorem issue_ofTarget_mem_scopeCheck_iff (path : String) (hc : c ∈ checkpoints flow lines)
    (hline : c.isDeclaration = false) {call : FormatCall} (hcall : call ∈ c.line.formatCalls)
    (hcallee : call.callee = "scanf".toList) {target : List Char}
    (htarget : target ∈ call.arguments.tail) :
    Sighting.issue path ⟨c.line.row, .ofTarget target⟩ ∈
        (scopeCheck flow lines).map (Sighting.issue path) ↔
      isByValue target = true ∧ c.scope.isCharBuffer (argumentName target) = false := by
  have hrows := (pairwise_row_scanLines lines).filter CodeLine.isChecked
  obtain ⟨pre, post, hsplit, hcheckpoint⟩ := exists_split_of_mem_checkpointsFrom hc
  have hheader : (Defect.ofTarget target).category ≠ .header := by
    intro h
    cases h
  have hformats : c.line.formatDefects (c.assigned flow) =
      c.line.formatCalls.flatMap (FormatCall.defects c.scope.isCharBuffer) := by
    rw [CodeLine.formatDefects, isCharBuffer_assigned]
    exact if_neg (Bool.eq_false_iff.1 hline)
  rw [issue_mem_scopeCheck_iff path lines c.line.row hheader, scopeSteps, hsplit,
    mem_sightings_iff {} (hsplit ▸ hrows), Scope.lineDefects_eq_append, List.mem_append,
    afterLine_eq_assigned hcheckpoint hline, hformats, List.mem_flatMap]
  · constructor
    · rintro (h | ⟨call', -, h⟩)
      · exact absurd rfl (Scope.category_ne_of_mem_codeDefects h).2
      · exact (FormatCall.of_message_eq h rfl).2
    · exact fun h => .inr ⟨call, hcall, (FormatCall.ofTarget_mem_defects_iff hcallee htarget).2 h⟩
  · intro start line d hd hcategory hmessage
    rw [Scope.lineDefects_eq_append] at hd
    rcases List.mem_append.1 hd with hd | hd
    · exact absurd hcategory (Scope.category_ne_of_mem_codeDefects hd).2
    · unfold CodeLine.formatDefects at hd
      split at hd
      · cases hd
      · obtain ⟨call', -, hd⟩ := List.mem_flatMap.1 hd
        exact (FormatCall.of_message_eq hd hmessage).1

/-- What a line stores has a name. -/
theorem ne_nil_of_stored? {name : List Char} {v : Variable} (h : c.stored? name = some v) :
    name ≠ [] := by
  rw [← name_of_lastNamed? h]
  rcases List.mem_append.1 (mem_of_lastNamed? h) with hv | hv
  · unfold Scope.broughtIn at hv
    split at hv
    · cases hv
    · obtain ⟨_, _, _, _, hname, rfl⟩ := exists_named_of_mem_openedParameters hv
      exact hname
  · obtain ⟨u, hu, rfl⟩ := List.mem_map.1 hv
    rw [Variable.name_sinceRow]
    unfold declared Scope.declaredOn at hu
    split at hu
    · split at hu
      · cases hu
      · obtain ⟨_, _, _, _, _, hname, rfl⟩ := exists_named_of_mem_parseDeclaration hu
        exact hname
    · cases hu

/-- What means something on a line has a name. -/
theorem ne_nil_of_lookup (hc : c ∈ checkpoints flow lines) (hline : c.isDeclaration = false)
    {name : List Char} {v : Variable} (h : c.scope.lookup name = some v) : name ≠ [] := by
  have hrows := (pairwise_row_scanLines lines).filter CodeLine.isChecked
  have hfixed := map_fixed_lookup_assigned flow c name
  rw [h, Option.map_some, Option.map_eq_some_iff] at hfixed
  obtain ⟨w, hw, -⟩ := hfixed
  obtain ⟨d, -, hd⟩ := exists_explains_of_lookup hrows hc hline hw
  obtain ⟨u, hu, -⟩ := hd.stored
  exact ne_nil_of_stored? hu

end Checkpoint

/-- A target passed by value is reported by either check unless the type of its variable exempts it;
they differ on plain characters only. -/
theorem scanf_target_reported_iff (flow : Bool) (path : String) (lines : List (List Char))
    {c : Checkpoint} (hc : c ∈ checkpoints flow lines) (hline : c.isDeclaration = false)
    {call : FormatCall} (hcall : call ∈ c.line.formatCalls)
    (hcallee : call.callee = "scanf".toList) {target : List Char}
    (htarget : target ∈ call.arguments.tail) :
    let type? := (c.scope.lookup (argumentName target)).map Variable.targetType
    let issue := Sighting.issue path ⟨c.line.row, .ofTarget target⟩
    let reported := issue ∈ (scopeCheck flow lines).map (Sighting.issue path)
    let due := isByValue target = true ∧ type?.any TargetType.isExempt = false
    (reported ↔ isByValue target = true ∧ type?.any TargetType.isChar = false) ∧
      (∀ (ds : List Declaration) (loops : List Loop) (formats : List FormatCall),
        call ∈ formats →
        (closestDeclaration? (argumentName target) c.line.row ds).map Declaration.targetType =
          type? →
        (issue ∈ (loopAndFormatCheck ds loops formats).map (Sighting.issue path) ↔ due)) ∧
      ((reported ↔ due) ↔ ¬(isByValue target = true ∧ type? = some ⟨true, false⟩)) ∧
      ∀ v, c.scope.lookup (argumentName target) = some v → (trim target).head? ≠ some '&' →
        (reported ↔ isCharType v.typeName = false) := by
  intro type? issue reported due
  have hreported : reported ↔ isByValue target = true ∧ type?.any TargetType.isChar = false := by
    rw [← Scope.isCharBuffer_eq_any]
    exact c.issue_ofTarget_mem_scopeCheck_iff path hc hline hcall hcallee htarget
  refine ⟨hreported, fun ds loops formats hmem htype => ?_, ?_, fun v hv haddress => ?_⟩
  · have hdirective : c.line.isDirective = false := by
      have hchecked := (List.mem_filter.1 (line_mem_of_mem_checkpointsFrom hc)).2
      simpa using (Bool.and_eq_true_iff.1 hchecked).2
    have hrow : call.position.row = c.line.row :=
      CodeLine.row_of_mem_calls (CodeLine.call_mem_calls hdirective hcall).1
    have htree := issue_ofTarget_mem_loopAndFormatCheck_iff path ds loops hmem hcallee htarget
    rw [hrow, isCharBufferAt_eq_any, htype] at htree
    exact htree
  · rw [hreported]
    exact TargetType.exempt_agree_iff type? _
  · have hname := c.ne_nil_of_lookup hc hline hv
    have hvalue : isByValue target = true := by simpa [isByValue, hname] using haddress
    have hchar : type?.any TargetType.isChar = isCharType v.typeName := by
      rw [show type? = some v.targetType from congrArg (Option.map _) hv]
      rfl
    rw [hreported, hchar, and_iff_right hvalue]

/-- Of an array of characters and a number, passed by value, both checks report the number. -/
theorem scanf_target_reported_iff_number :
    let lines := ["char s[9];", "int n = 0;", "scanf(\"%8s %d\", s, n);"].map String.toList
    let array : Variable := { name := ['s'], typeName := "char".toList, isArray := true }
    let number : Variable := { name := ['n'], typeName := "int".toList, isInitialized := true }
    let c : Checkpoint :=
      { line := ⟨2, "scanf(\"%8s %d\", s, n);".toList, "scanf(\"      \", s, n);".toList⟩
        scope := { globals := [(['s'], array), (['n'], number)] } }
    let call : FormatCall :=
      { callee := "scanf".toList
        position := ⟨2, 0⟩
        format := some "%8s %d".toList
        arguments := ["\"%8s %d\"".toList, ['s'], ['n']] }
    let declaration : Declaration :=
      { name := ['n'], declaredType := "int".toList, position := ⟨1, 4⟩, isInitialized := true }
    let issues := (scopeCheck false lines).map (Sighting.issue "a.c")
    c ∈ checkpoints false lines ∧ c.isDeclaration = false ∧ call ∈ c.line.formatCalls ∧
      Sighting.issue "a.c" ⟨2, .ofTarget ['s']⟩ ∉ issues ∧
      Sighting.issue "a.c" ⟨2, .ofTarget ['n']⟩ ∈ issues ∧
      Sighting.issue "a.c" ⟨2, .ofTarget ['n']⟩ ∈
        (loopAndFormatCheck [declaration] [] [call]).map (Sighting.issue "a.c") := by
  intro lines array number c call declaration issues
  have hc : c ∈ checkpoints false lines := by decide +kernel
  have hline : c.isDeclaration = false := by decide +kernel
  have hcall : call ∈ c.line.formatCalls := by decide +kernel
  have hs : ['s'] ∈ call.arguments.tail := by decide
  have hn : ['n'] ∈ call.arguments.tail := by decide
  have harray := (scanf_target_reported_iff false "a.c" lines hc hline hcall rfl hs).1
  obtain ⟨-, htree, -, hnumber⟩ :=
    scanf_target_reported_iff false "a.c" lines hc hline hcall rfl hn
  refine ⟨hc, hline, hcall, fun h => ?_, ?_, ?_⟩
  · exact absurd (harray.1 h).2 (by decide +kernel)
  · exact (hnumber number (by decide) (by decide)).2 (by decide +kernel)
  · exact (htree [declaration] [] [call] (by decide) (by decide +kernel)).2 (by decide +kernel)

/-- A plain character that is passed by value is passed over, although the check of a tree reports
it. -/
theorem plain_char_target_passed_over :
    let lines := ["char c = 0;", "scanf(\"%c\", c);"].map String.toList
    let char : Variable := { name := ['c'], typeName := "char".toList, isInitialized := true }
    let c : Checkpoint :=
      { line := ⟨1, "scanf(\"%c\", c);".toList, "scanf(\"  \", c);".toList⟩
        scope := { globals := [(['c'], char)] } }
    let call : FormatCall :=
      { callee := "scanf".toList
        position := ⟨1, 0⟩
        format := some "%c".toList
        arguments := ["\"%c\"".toList, ['c']] }
    let declaration : Declaration :=
      { name := ['c'], declaredType := "char".toList, position := ⟨0, 5⟩, isInitialized := true }
    let issue := Sighting.issue "a.c" ⟨1, .ofTarget ['c']⟩
    c ∈ checkpoints false lines ∧ c.isDeclaration = false ∧ call ∈ c.line.formatCalls ∧
      c.scope.lookup (argumentName ['c']) = some char ∧
      issue ∉ (scopeCheck false lines).map (Sighting.issue "a.c") ∧
      issue ∈ (loopAndFormatCheck [declaration] [] [call]).map (Sighting.issue "a.c") := by
  decide +kernel

end DefectScan
