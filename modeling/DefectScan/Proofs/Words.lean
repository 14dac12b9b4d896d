import DefectScan.Text.Word

/-!
# Words at the start of a text

Looking for a word is not disturbed by what stands behind a character that belongs to no word, and
what follows a word is an end of the text, as is what follows a place. The places of a text are the
cuts between two parts of it, and a search finds the first of them that fits.
-/

namespace DefectScan.Text

/-- A character that is not among those looked for can be appended with anything behind it. -/
theorem after?_append_cons {w : List Char} {b : Char} (hb : b ∉ w) (s t : List Char) :
    after? w (s ++ b :: t) = (after? w s).map (· ++ b :: t) := by
  induction w generalizing s with
  | nil => rfl
  | cons a w ih =>
    obtain ⟨ha, hw⟩ : b ≠ a ∧ b ∉ w := by simpa using hb
    cases s with
    | nil => simp [after?, Ne.symm ha]
    | cons c s =>
      by_cases hac : a = c
      · simp [after?, hac, ih hw]
      · simp [after?, hac]

/-- The same for a whole word, which the character must not prolong. -/
theorem closedWord?_append_cons {w : List Char} {b : Char} (hb : b ∉ w)
    (hword : isWord b = false) (s t : List Char) :
    closedWord? w (s ++ b :: t) = (closedWord? w s).map (· ++ b :: t) := by
  rw [closedWord?, closedWord?, after?_append_cons hb]
  cases after? w s with
  | none => rfl
  | some r =>
    have hstart : startsWord (r ++ b :: t) = startsWord r := by
      cases r <;> simp [startsWord, hword]
    by_cases hr : startsWord r <;> simp [Option.filter, hstart, hr]

/-- The same for one of several words. -/
theorem closedOneOf?_append_cons {ws : List String} {b : Char} (hb : ∀ w ∈ ws, b ∉ w.toList)
    (hword : isWord b = false) (s t : List Char) :
    closedOneOf? ws (s ++ b :: t) = (closedOneOf? ws s).map (· ++ b :: t) := by
  unfold closedOneOf?
  induction ws with
  | nil => rfl
  | cons w ws ih =>
    rw [List.findSome?_cons, List.findSome?_cons,
      closedWord?_append_cons (hb w List.mem_cons_self) hword]
    cases closedWord? w.toList s with
    | none => exact ih fun v hv => hb v (List.mem_cons_of_mem _ hv)
    | some r => rfl

/-- The same for one of several words at a place. -/
theorem Place.oneOf?_append_cons {ws : List String} {b : Char} (hb : ∀ w ∈ ws, b ∉ w.toList)
    (hword : isWord b = false) (column : Nat) (before : Option Char) (s t : List Char) :
    (⟨column, before, s ++ b :: t⟩ : Place).oneOf? ws =
      ((⟨column, before, s⟩ : Place).oneOf? ws).map (· ++ b :: t) := by
  have hopen : (⟨column, before, s ++ b :: t⟩ : Place).isOpen =
      (⟨column, before, s⟩ : Place).isOpen := rfl
  rw [oneOf?, oneOf?, hopen]
  split
  · exact closedOneOf?_append_cons hb hword s t
  · rfl

/-- What follows a listed word at a place is an end of the text there. -/
theorem Place.suffix_of_oneOf? {p : Place} {ws : List String} {r : List Char}
    (h : p.oneOf? ws = some r) : r <:+ p.after := by
  unfold oneOf? at h
  split at h
  · obtain ⟨w, -, hw⟩ := List.exists_of_findSome?_eq_some h
    have hafter : after? w.toList p.after = some r := (Option.filter_eq_some_iff.1 hw).1
    exact ⟨w.toList, (after?_eq_some_iff.1 hafter).symm⟩
  · cases h

/-- What follows a place is an end of the text. -/
theorem Place.suffix_of_mem_placesFrom {column : Nat} {before : Option Char} {s : List Char}
    {p : Place} (h : p ∈ placesFrom column before s) : p.after <:+ s := by
  induction s generalizing column before with
  | nil =>
    cases List.mem_singleton.1 h
    exact List.suffix_rfl
  | cons c s ih =>
    rcases List.mem_cons.1 h with rfl | h
    · exact List.suffix_rfl
    · exact (ih h).trans (List.suffix_cons c s)

/-! ### Places as cuts -/

/-- The place between two parts of a text. -/
def Place.between (l r : List Char) : Place := ⟨l.length, l.getLast?, r⟩

private theorem getElem?_placesFrom_append (l m r : List Char) :
    (placesFrom l.length l.getLast? (m ++ r))[m.length]? = some (.between (l ++ m) r) := by
  induction m generalizing l with
  | nil => cases r <;> simp [placesFrom, Place.between]
  | cons c m ih =>
    have hplace := ih (l ++ [c])
    rw [List.length_append, List.getLast?_concat, List.append_assoc] at hplace
    exact hplace

/-- The place behind a first part of a text has its length as its number. -/
theorem getElem?_places_append (l r : List Char) :
    (places (l ++ r))[l.length]? = some (.between l r) :=
  getElem?_placesFrom_append [] l r

/-- The places of a text are the cuts between two parts of it. -/
theorem exists_between_of_getElem?_places {s : List Char} {k : Nat} {p : Place}
    (h : (places s)[k]? = some p) : ∃ l r, s = l ++ r ∧ l.length = k ∧ p = .between l r := by
  have hk : k ≤ s.length := by
    have hlt := (List.getElem?_eq_some_iff.1 h).1
    rw [places, length_placesFrom] at hlt
    omega
  have hlength : (s.take k).length = k := List.length_take_of_le hk
  have hplace := getElem?_places_append (s.take k) (s.drop k)
  rw [List.take_append_drop, hlength, h] at hplace
  exact ⟨s.take k, s.drop k, (List.take_append_drop k s).symm, hlength, Option.some.inj hplace⟩

theorem mem_places_iff {p : Place} {s : List Char} :
    p ∈ places s ↔ ∃ l r, s = l ++ r ∧ p = .between l r := by
  constructor
  · intro h
    obtain ⟨k, hk⟩ := List.mem_iff_getElem?.1 h
    obtain ⟨l, r, hs, -, hp⟩ := exists_between_of_getElem?_places hk
    exact ⟨l, r, hs, hp⟩
  · rintro ⟨l, r, rfl, rfl⟩
    exact List.mem_of_getElem? (getElem?_places_append l r)

/-- Searching the places of a text finds the first one that has what is looked for. -/
theorem findSome?_places_eq_some_iff {α : Type} {f : Place → Option α} {a : α} {s : List Char} :
    (places s).findSome? f = some a ↔
      ∃ l r, s = l ++ r ∧ f (.between l r) = some a ∧
        ∀ l' r', s = l' ++ r' → l'.length < l.length → f (.between l' r') = none := by
  rw [List.findSome?_eq_some_iff]
  constructor
  · rintro ⟨front, p, back, hplaces, hp, hfront⟩
    have hfound : (places s)[front.length]? = some p := by simp [hplaces]
    obtain ⟨l, r, rfl, hl, rfl⟩ := exists_between_of_getElem?_places hfound
    refine ⟨l, r, rfl, hp, fun l' r' hs hlt => hfront _ ?_⟩
    have hplace := getElem?_places_append l' r'
    rw [← hs, hplaces, List.getElem?_append_left (hl ▸ hlt)] at hplace
    exact List.mem_of_getElem? hplace
  · rintro ⟨l, r, rfl, hfound, hfirst⟩
    obtain ⟨hlength, hplace⟩ := List.getElem?_eq_some_iff.1 (getElem?_places_append l r)
    refine ⟨(places (l ++ r)).take l.length, .between l r, (places (l ++ r)).drop (l.length + 1),
      ?_, hfound, fun p hp => ?_⟩
    · rw [← hplace, ← List.drop_eq_getElem_cons, List.take_append_drop]
    · obtain ⟨k, hk⟩ := List.mem_iff_getElem?.1 hp
      rw [List.getElem?_take] at hk
      split at hk
      · next hlt =>
        obtain ⟨l', r', hs, rfl, rfl⟩ := exists_between_of_getElem?_places hk
        exact hfirst l' r' hs hlt
      · cases hk

/-! ### Names -/

/-- What begins a name is part of a word. -/
theorem isWord_of_isNameStart {c : Char} (h : isNameStart c = true) : isWord c = true := by
  have hascii : c.toNat < 128 := by
    rcases Bool.or_eq_true_iff.1 h with h | h
    · delta Char.isAlpha Char.isUpper Char.isLower at h
      simp only [UInt32.le_iff_toNat_le, ge_iff_le, ↓Char.isValue, Char.reduceVal,
        UInt32.reduceToNat, Char.toNat_val, Bool.decide_and, Bool.or_eq_true, Bool.and_eq_true,
        decide_eq_true_eq] at h
      omega
    · rw [beq_iff_eq.1 h]
      decide
  have hall : ∀ n < 128, isNameStart (Char.ofNat n) = true → isWord (Char.ofNat n) = true := by
    decide +kernel
  have hchar := hall c.toNat hascii
  rw [Char.ofNat_toNat] at hchar
  exact hchar h

/-! ### Blanks -/

/-- No name begins with a blank. -/
theorem isNameStart_of_isBlank {c : Char} (h : isBlank c = true) : isNameStart c = false := by
  have hunderscore : c ≠ '_' := by
    rintro rfl
    exact absurd h (by decide)
  have halpha : c.isAlpha = false := by
    simp only [isBlank, inRanges, blankRanges, List.any_cons, List.any_nil, Bool.or_false,
      Bool.or_eq_true, Bool.and_eq_true, decide_eq_true_eq] at h
    delta Char.isAlpha Char.isUpper Char.isLower
    simp only [UInt32.le_iff_toNat_le, ge_iff_le, ↓Char.isValue, Char.reduceVal,
      UInt32.reduceToNat, Char.toNat_val, Bool.decide_and, Bool.or_eq_false_iff,
      Bool.and_eq_false_imp, decide_eq_true_eq, decide_eq_false_iff_not, Nat.not_le]
    omega
  simp [isNameStart, hunderscore, halpha]

/-- No word has a blank in it. -/
theorem isWord_of_isBlank {c : Char} (h : isBlank c = true) : isWord c = false := by
  by_cases hc : c.toNat < 128
  · have hascii : ∀ n < 128, isBlank (Char.ofNat n) = true → isWord (Char.ofNat n) = false := by
      decide +kernel
    have hchar := hascii c.toNat hc
    rw [Char.ofNat_toNat] at hchar
    exact hchar h
  · have hdisjoint : ∀ b ∈ blankRanges, ∀ w ∈ wordRanges, b.2 < w.1 ∨ w.2 < b.1 := by
      decide +kernel
    obtain ⟨b, hb, hin⟩ := List.any_eq_true.1 h
    have hunderscore : c ≠ '_' := by
      rintro rfl
      exact hc (by decide)
    rw [isWord, isLetterOrNumber, if_neg hc, Bool.or_eq_false_iff]
    refine ⟨List.any_eq_false.2 fun w hw => ?_, beq_eq_false_iff_ne.2 hunderscore⟩
    have := hdisjoint b hb w hw
    simp only [Bool.and_eq_true, decide_eq_true_eq] at hin ⊢
    omega

end DefectScan.Text
