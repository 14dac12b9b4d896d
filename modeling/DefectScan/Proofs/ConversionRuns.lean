import DefectScan.Format
import Mathlib.Data.Set.Card

/-!
# Conversions as runs of percent signs

The conversions of a format string are counted in one pass that skips percent signs in pairs. What
it counts are the maximal runs of percent signs of odd length: a pair in front lengthens the run it
stands before or is a run of even length itself, and in a run of odd length one sign is left over.
The number of arguments of a formatted call is compared with that number.
-/

namespace DefectScan

/-! ### Runs -/

/-- Percent signs that stand side by side, `length` of them from `start` on, and no other one next
to them. -/
structure IsPercentRun (s : List Char) (start length : Nat) : Prop where
  /-- There is at least one. -/
  pos : 0 < length
  /-- All of them are percent signs. -/
  signs : ∀ i < length, s[start + i]? = some '%'
  /-- None stands in front of them. -/
  left : ∀ i, i + 1 = start → s[i]? ≠ some '%'
  /-- None follows them. -/
  right : s[start + length]? ≠ some '%'

/-- The runs of odd length in a text, by their start and length. -/
def oddRuns (s : List Char) : Set (Nat × Nat) := {run | IsPercentRun s run.1 run.2 ∧ Odd run.2}

theorem mem_oddRuns {s : List Char} {start length : Nat} :
    (start, length) ∈ oddRuns s ↔ IsPercentRun s start length ∧ Odd length :=
  Iff.rfl

section Cons

variable {c : Char} {s : List Char} {start length : Nat}

/-- A run that does not begin at the first character is one of the rest, and not the one that the
first character belongs to. -/
theorem isPercentRun_cons_succ :
    IsPercentRun (c :: s) (start + 1) length ↔
      IsPercentRun s start length ∧ (start = 0 → c ≠ '%') := by
  constructor
  · intro h
    refine ⟨⟨h.pos, fun i hi => ?_, fun i hi => ?_, ?_⟩, fun hstart hc => ?_⟩
    · simpa [Nat.add_right_comm] using h.signs i hi
    · exact h.left (i + 1) (by omega)
    · simpa [Nat.add_right_comm] using h.right
    · exact h.left 0 (by omega) (by simpa using hc)
  · rintro ⟨h, hc⟩
    refine ⟨h.pos, fun i hi => ?_, fun i hi => ?_, ?_⟩
    · simpa [Nat.add_right_comm] using h.signs i hi
    · cases i with
      | zero => simpa using hc (by omega)
      | succ i => simpa using h.left i (by omega)
    · simpa [Nat.add_right_comm] using h.right

/-- A run that begins at the first character ends with it or goes on as a run of the rest. -/
theorem isPercentRun_cons_zero :
    IsPercentRun (c :: s) 0 length ↔
      c = '%' ∧ (length = 1 ∧ s.head? ≠ some '%' ∨ ∃ n, length = n + 1 ∧ IsPercentRun s 0 n) := by
  constructor
  · intro h
    obtain ⟨n, rfl⟩ : ∃ n, length = n + 1 := Nat.exists_eq_succ_of_ne_zero h.pos.ne'
    have hright : s[n]? ≠ some '%' := by simpa using h.right
    refine ⟨by simpa using h.signs 0 h.pos, ?_⟩
    cases n with
    | zero => exact .inl ⟨rfl, by simpa [List.head?_eq_getElem?] using hright⟩
    | succ n =>
      refine .inr ⟨n + 1, rfl, by omega, fun i hi => ?_, fun i hi => by omega,
        by simpa using hright⟩
      simpa using h.signs (i + 1) (by omega)
  · rintro ⟨rfl, ⟨rfl, hs⟩ | ⟨n, rfl, h⟩⟩
    · refine ⟨by omega, fun i hi => ?_, fun i hi => by omega,
        by simpa [List.head?_eq_getElem?] using hs⟩
      obtain rfl : i = 0 := by omega
      rfl
    · refine ⟨by omega, fun i hi => ?_, fun i hi => by omega, by simpa using h.right⟩
      cases i with
      | zero => rfl
      | succ i => simpa using h.signs i (by omega)

theorem IsPercentRun.head?_eq (h : IsPercentRun s 0 length) : s.head? = some '%' := by
  simpa [List.head?_eq_getElem?] using h.signs 0 h.pos

end Cons

/-! ### Runs of odd length -/

/-- Where a run lies with one more character in front of the text. -/
def shiftRun (run : Nat × Nat) : Nat × Nat := (run.1 + 1, run.2)

/-- What becomes of a run with two more percent signs in front of the text: they belong to a run at
its start. -/
def lengthenRun : Nat × Nat → Nat × Nat
  | (0, length) => (0, length + 2)
  | (start + 1, length) => (start + 3, length)

theorem injective_shiftRun : Function.Injective shiftRun := by
  rintro ⟨i, m⟩ ⟨j, n⟩ h
  simpa [shiftRun] using h

theorem injective_lengthenRun : Function.Injective lengthenRun := by
  rintro ⟨i, m⟩ ⟨j, n⟩ h
  cases i <;> cases j <;> simp [lengthenRun] at h <;> simp [h]

theorem mem_image_shiftRun {s : List Char} {start length : Nat} :
    (start, length) ∈ shiftRun '' oddRuns s ↔
      ∃ i, start = i + 1 ∧ IsPercentRun s i length ∧ Odd length := by
  constructor
  · rintro ⟨⟨i, n⟩, h, heq⟩
    cases heq
    exact ⟨i, rfl, h⟩
  · rintro ⟨i, rfl, h⟩
    exact ⟨(i, length), h, rfl⟩

theorem oddRuns_nil : oddRuns [] = ∅ := by
  refine Set.eq_empty_of_forall_notMem ?_
  rintro run ⟨h, -⟩
  cases h.signs 0 h.pos

theorem oddRuns_cons_of_ne {c : Char} (hc : c ≠ '%') (s : List Char) :
    oddRuns (c :: s) = shiftRun '' oddRuns s := by
  ext ⟨start, length⟩
  rw [mem_image_shiftRun, mem_oddRuns]
  cases start with
  | zero => simp [isPercentRun_cons_zero, hc]
  | succ start => simp [isPercentRun_cons_succ, hc]

/-- A percent sign that no other one follows is a run of its own. -/
theorem oddRuns_percent {s : List Char} (hs : s.head? ≠ some '%') :
    oddRuns ('%' :: s) = insert (0, 1) (shiftRun '' oddRuns s) := by
  have hstart : ∀ length, ¬IsPercentRun s 0 length := fun length h => hs h.head?_eq
  ext ⟨start, length⟩
  rw [Set.mem_insert_iff, mem_image_shiftRun, mem_oddRuns]
  cases start with
  | zero =>
    rw [isPercentRun_cons_zero]
    constructor
    · rintro ⟨⟨-, ⟨rfl, -⟩ | ⟨n, -, h⟩⟩, -⟩
      · exact .inl rfl
      · exact absurd h (hstart n)
    · rintro (heq | ⟨i, heq, -⟩)
      · cases heq
        exact ⟨⟨rfl, .inl ⟨rfl, hs⟩⟩, odd_one⟩
      · cases heq
  | succ start =>
    rw [isPercentRun_cons_succ]
    constructor
    · rintro ⟨⟨h, -⟩, hodd⟩
      exact .inr ⟨start, rfl, h, hodd⟩
    · rintro (heq | ⟨i, heq, h, hodd⟩)
      · cases heq
      · cases heq
        refine ⟨⟨h, ?_⟩, hodd⟩
        rintro rfl
        exact absurd h (hstart length)

/-- Two percent signs in front of a text make no new run of odd length. -/
theorem oddRuns_percent_percent (s : List Char) :
    oddRuns ('%' :: '%' :: s) = lengthenRun '' oddRuns s := by
  ext ⟨start, length⟩
  constructor
  · intro hrun
    obtain ⟨h, hodd⟩ := mem_oddRuns.1 hrun
    cases start with
    | zero =>
      obtain ⟨-, ⟨-, hnext⟩ | ⟨n, rfl, hrest⟩⟩ := isPercentRun_cons_zero.1 h
      · exact absurd rfl hnext
      · obtain ⟨-, ⟨rfl, -⟩ | ⟨m, rfl, hs⟩⟩ := isPercentRun_cons_zero.1 hrest
        · exact absurd hodd (by decide)
        · have hm : Odd m := by
            rw [Nat.odd_add_one, Nat.not_odd_iff_even, Nat.even_add_one] at hodd
            simpa using hodd
          exact ⟨(0, m), ⟨hs, hm⟩, rfl⟩
    | succ start =>
      obtain ⟨h, hfirst⟩ := isPercentRun_cons_succ.1 h
      cases start with
      | zero => exact absurd rfl (hfirst rfl)
      | succ start =>
        obtain ⟨h, hsecond⟩ := isPercentRun_cons_succ.1 h
        cases start with
        | zero => exact absurd rfl (hsecond rfl)
        | succ start => exact ⟨(start + 1, length), ⟨h, hodd⟩, rfl⟩
  · rintro ⟨⟨start', length'⟩, ⟨h, hodd⟩, heq⟩
    cases start' with
    | zero =>
      cases heq
      have hnext : IsPercentRun ('%' :: s) 0 (length' + 1) :=
        isPercentRun_cons_zero.2 ⟨rfl, .inr ⟨length', rfl, h⟩⟩
      exact ⟨isPercentRun_cons_zero.2 ⟨rfl, .inr ⟨length' + 1, rfl, hnext⟩⟩,
        hodd.add_even even_two⟩
    | succ start' =>
      cases heq
      have hnext : IsPercentRun ('%' :: s) (start' + 2) length :=
        isPercentRun_cons_succ.2 ⟨h, by omega⟩
      exact ⟨isPercentRun_cons_succ.2 ⟨hnext, by omega⟩, hodd⟩

/-- A format string has as many conversions as runs of odd length. -/
theorem encard_oddRuns (s : List Char) : (oddRuns s).encard = countConversions s := by
  fun_induction countConversions s with
  | case1 => rw [oddRuns_nil, Set.encard_empty, Nat.cast_zero]
  | case2 s ih => rw [oddRuns_percent_percent, injective_lengthenRun.encard_image, ih]
  | case3 s hs ih =>
    have hhead : s.head? ≠ some '%' := by
      intro h
      obtain ⟨t, rfl⟩ := List.head?_eq_some_iff.1 h
      exact hs t rfl
    have hnew : (0, 1) ∉ shiftRun '' oddRuns s := by
      rw [mem_image_shiftRun]
      rintro ⟨i, heq, -⟩
      cases heq
    rw [oddRuns_percent hhead, Set.encard_insert_of_notMem hnew, injective_shiftRun.encard_image,
      ih, Nat.cast_add, Nat.cast_one]
  | case4 c s _ hc ih => rw [oddRuns_cons_of_ne hc, injective_shiftRun.encard_image, ih]

theorem ncard_oddRuns (s : List Char) : (oddRuns s).ncard = countConversions s := by
  rw [Set.ncard_def, encard_oddRuns, ENat.toNat_natCast]

/-! ### Formatted calls -/

/-- The complaints about the number of arguments of a formatted call. -/
inductive CountComplaint where
  | tooFew
  | tooMany
  deriving DecidableEq, Repr

/-- The words of a complaint, behind the called function. -/
def CountComplaint.words : CountComplaint → String
  | tooFew => ": too few arguments for format string "
  | tooMany => ": too many arguments for format string "

/-- Whether the numbers of given and expected arguments call for a complaint. -/
def CountComplaint.isDue (given expected : Nat) : CountComplaint → Bool
  | tooFew => given < expected
  | tooMany => expected < given

/-- The defect that a complaint is about. -/
def CountComplaint.defect (callee : List Char) (given expected : Nat) : CountComplaint → Defect
  | tooFew => .tooFewArguments callee given expected
  | tooMany => .tooManyArguments callee given expected

/-- Whether the message of an issue begins with the called function and the words of a
complaint. -/
def Issue.complains (callee : List Char) (complaint : CountComplaint) (issue : Issue) : Bool :=
  (callee ++ complaint.words.toList).isPrefixOf issue.message.toList

section Complaints

variable {callee : List Char} {words tail : String} {d : Defect}
  (hmessage : d.message = String.ofList callee ++ words ++ tail) (path : String) (row : Nat)
include hmessage

theorem complains_issue (complaint : CountComplaint) :
    (Sighting.issue path ⟨row, d⟩).complains callee complaint =
      complaint.words.toList.isPrefixOf (words.toList ++ tail.toList) := by
  have hlist : d.message.toList = callee ++ (words.toList ++ tail.toList) := by
    rw [hmessage, String.toList_append, String.toList_append, String.toList_ofList,
      List.append_assoc]
  rw [Issue.complains, Sighting.issue, Issue.atRow, hlist, Bool.eq_iff_iff,
    List.isPrefixOf_iff_prefix, List.isPrefixOf_iff_prefix, List.prefix_append_right_inj]

/-- A message that goes on with the words of a complaint makes it. -/
theorem complains_issue_of_eq {complaint : CountComplaint} (h : words = complaint.words) :
    (Sighting.issue path ⟨row, d⟩).complains callee complaint = true := by
  rw [complains_issue hmessage, h]
  exact List.isPrefixOf_iff_prefix.2 (List.prefix_append _ _)

/-- A message that goes on with other letters does not. -/
theorem complains_issue_of_take_ne {complaint : CountComplaint} (n : Nat)
    (hn : n ≤ words.toList.length ∧ n ≤ complaint.words.toList.length)
    (hne : words.toList.take n ≠ complaint.words.toList.take n) :
    (Sighting.issue path ⟨row, d⟩).complains callee complaint = false := by
  rw [complains_issue hmessage, Bool.eq_false_iff]
  intro hprefix
  obtain ⟨rest, hrest⟩ := List.isPrefixOf_iff_prefix.1 hprefix
  have htake := congrArg (List.take n) hrest
  rw [List.take_append_of_le_length hn.1, List.take_append_of_le_length hn.2] at htake
  exact hne htake.symm

end Complaints

section Messages

variable (path : String) (row : Nat)

/-- A defect in the number of arguments makes its own complaint and not the other one. -/
theorem complains_defect (callee : List Char) (given expected : Nat)
    (made complaint : CountComplaint) :
    (Sighting.issue path ⟨row, made.defect callee given expected⟩).complains callee complaint =
      decide (complaint = made) := by
  have hmessage : (made.defect callee given expected).message =
      String.ofList callee ++ made.words ++ Defect.argumentCount given expected := by
    cases made <;> rfl
  by_cases heq : complaint = made
  · rw [decide_eq_true heq]
    exact complains_issue_of_eq hmessage path row (congrArg CountComplaint.words heq.symm)
  · rw [decide_eq_false heq]
    have hlength : 7 ≤ made.words.toList.length ∧ 7 ≤ complaint.words.toList.length := by
      cases made <;> cases complaint <;> simp [CountComplaint.words]
    refine complains_issue_of_take_ne hmessage path row 7 hlength ?_
    cases made <;> cases complaint <;> first | exact absurd rfl heq | decide

/-- What is wrong with a target is no matter of the number of arguments. -/
theorem complains_notByAddress (target name : List Char) (complaint : CountComplaint) :
    (Sighting.issue path ⟨row, .notByAddress target name⟩).complains "scanf".toList complaint =
      false := by
  have hmessage : (Defect.notByAddress target name).message =
      String.ofList "scanf".toList ++ " argument '" ++ (String.ofList target ++
        "' should be passed by address (use &" ++ String.ofList name ++ ")") := by
    have hstart : String.ofList "scanf".toList ++ " argument '" = "scanf argument '" := by decide
    have hwords : (Defect.notByAddress target name).message = "scanf argument '" ++
        String.ofList target ++ "' should be passed by address (use &" ++ String.ofList name ++
          ")" := rfl
    rw [hstart, hwords, String.append_assoc, String.append_assoc, String.append_assoc,
      String.append_assoc, String.append_assoc]
  cases complaint with
  | tooFew =>
    exact complains_issue_of_take_ne hmessage path row 1 (by simp [CountComplaint.words])
      (by decide)
  | tooMany =>
    exact complains_issue_of_take_ne hmessage path row 1 (by simp [CountComplaint.words])
      (by decide)

end Messages

namespace FormatCall

variable (path : String) (isCharBuffer : List Char → Bool) (complaint : CountComplaint)

/-- The issues of a formatted call that make a complaint about the number of its arguments. -/
def complaints (call : FormatCall) : List Issue :=
  ((call.check isCharBuffer).map (Sighting.issue path)).filter
    (Issue.complains call.callee complaint)

/-- Such complaints come from comparing the numbers only. -/
theorem complaints_eq_filter_countDefects (call : FormatCall) :
    call.complaints path isCharBuffer complaint =
      (call.countDefects.map fun d => Sighting.issue path ⟨call.position.row, d⟩).filter
        (Issue.complains call.callee complaint) := by
  rw [complaints, check, defects, List.map_append, List.map_append, List.filter_append,
    List.map_map]
  refine (congrArg _ ?_).trans (List.append_nil _)
  rw [List.filter_eq_nil_iff]
  intro issue hissue
  simp only [List.mem_map] at hissue
  obtain ⟨_, ⟨d, hd, rfl⟩, rfl⟩ := hissue
  split at hd
  · next hcallee =>
    obtain ⟨target, -, htarget⟩ := List.mem_filterMap.1 hd
    obtain ⟨-, heq⟩ := Option.ite_none_left_eq_some.1 htarget
    cases heq
    rw [hcallee, complains_notByAddress]
    exact Bool.false_ne_true
  · cases hd

variable (callee : List Char) (position : Position) (format first : List Char)
  (given : List (List Char))

/-- The defects in the number of arguments are those of the complaints that are due. -/
theorem countDefects_eq :
    countDefects ⟨callee, position, some format, first :: given⟩ =
      ([.tooFew, .tooMany].filter
        (CountComplaint.isDue given.length (countConversions format))).map
        (CountComplaint.defect callee given.length (countConversions format)) := by
  rw [countDefects]
  dsimp only
  by_cases hfew : given.length < countConversions format
  · have hmany : ¬countConversions format < given.length := by omega
    simp [CountComplaint.isDue, CountComplaint.defect, hfew, hmany]
  · by_cases hmany : countConversions format < given.length
    · simp [CountComplaint.isDue, CountComplaint.defect, hfew, hmany]
    · simp [CountComplaint.isDue, hfew, hmany]

/-- A complaint is made once if it is due, and else not at all. -/
theorem complaints_eq :
    complaints path isCharBuffer complaint ⟨callee, position, some format, first :: given⟩ =
      if complaint.isDue given.length (countConversions format) then
        [Sighting.issue path ⟨position.row,
          complaint.defect callee given.length (countConversions format)⟩]
      else [] := by
  rw [complaints_eq_filter_countDefects, countDefects_eq, List.map_map, List.filter_map]
  simp only [Function.comp_def, complains_defect]
  cases hfew : CountComplaint.tooFew.isDue given.length (countConversions format) <;>
    cases hmany : CountComplaint.tooMany.isDue given.length (countConversions format) <;>
    cases complaint <;> simp [hfew, hmany]

theorem complaints_of_format_eq_none {call : FormatCall} (h : call.format = none) :
    call.complaints path isCharBuffer complaint = [] := by
  rw [complaints_eq_filter_countDefects, countDefects, h]
  cases call.arguments <;> rfl

end FormatCall

/-- A call has an argument for each maximal run of percent signs of odd length, or is reported once
for too few or too many. -/
theorem arguments_compared_with_oddRuns (path : String) (isCharBuffer : List Char → Bool) :
    (∀ s, (oddRuns s).Finite ∧ countConversions s = (oddRuns s).ncard) ∧
      (∀ (callee : List Char) (position : Position) (format first : List Char)
          (given : List (List Char)),
        let call : FormatCall := ⟨callee, position, some format, first :: given⟩
        let tooFew := call.complaints path isCharBuffer .tooFew
        let tooMany := call.complaints path isCharBuffer .tooMany
        let expected := (oddRuns format).ncard
        (tooFew = if given.length < expected then
            [Sighting.issue path ⟨position.row, .tooFewArguments callee given.length expected⟩]
          else []) ∧
        (tooMany = if expected < given.length then
            [Sighting.issue path ⟨position.row, .tooManyArguments callee given.length expected⟩]
          else []) ∧
        (tooFew = [] ∧ tooMany = [] ↔ given.length = expected)) ∧
      ∀ (callee : List Char) (position : Position) (arguments : List (List Char)) complaint,
        let call : FormatCall := ⟨callee, position, none, arguments⟩
        call.complaints path isCharBuffer complaint = [] := by
  refine ⟨fun s => ⟨?_, (ncard_oddRuns s).symm⟩, fun callee position format first given => ?_,
    fun callee position arguments complaint => ?_⟩
  · exact Set.finite_of_encard_eq_coe (encard_oddRuns s)
  · intro call tooFew tooMany expected
    have hcomplaints : ∀ complaint, call.complaints path isCharBuffer complaint =
        if complaint.isDue given.length expected then
          [Sighting.issue path ⟨position.row, complaint.defect callee given.length expected⟩]
        else [] := by
      intro complaint
      rw [FormatCall.complaints_eq, ← ncard_oddRuns]
    have hfew := hcomplaints .tooFew
    have hmany := hcomplaints .tooMany
    simp only [CountComplaint.isDue, decide_eq_true_eq] at hfew hmany
    refine ⟨hfew, hmany, ?_⟩
    change call.complaints path isCharBuffer .tooFew = [] ∧
      call.complaints path isCharBuffer .tooMany = [] ↔ _
    rw [hfew, hmany, ite_eq_right_iff, ite_eq_right_iff]
    simp only [List.cons_ne_nil, imp_false, not_lt]
    exact and_comm.trans Nat.le_antisymm_iff.symm
  · exact FormatCall.complaints_of_format_eq_none path isCharBuffer complaint rfl

end DefectScan
