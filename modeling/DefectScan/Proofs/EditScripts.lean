import DefectScan.Text.EditDistance
import Mathlib.Order.Bounds.Defs

/-!
# Edit scripts

An edit inserts, deletes or substitutes one character of a text, and a script is a list of edits
carried out one after another. The edit distance of two texts is the length of a shortest script
from one to the other. Scripts are compared with alignments, which go through both texts from left
to right; the least alignment satisfies the recursion that the rows of the distance table follow.
-/

namespace DefectScan.Text

/-- A change of one character. -/
inductive Edit where
  /-- Insert a character, so that it stands at the place. -/
  | insert (place : Nat) (c : Char)
  /-- Delete the character at the place. -/
  | delete (place : Nat)
  /-- Put a character in place of the one at the place. -/
  | substitute (place : Nat) (c : Char)
  deriving DecidableEq, Repr

/-- The text after an edit. An edit beyond the end of the text leaves it as it is. -/
def Edit.apply : Edit → List Char → List Char
  | insert place c, s => s.insertIdx place c
  | delete place, s => s.eraseIdx place
  | substitute place c, s => s.set place c

/-- The text after the edits of a script, the first one first. -/
def applyScript (script : List Edit) (s : List Char) : List Char :=
  script.foldl (fun s edit => edit.apply s) s

/-! ### Edits behind the first character -/

/-- The same edit one place further on. -/
def Edit.shift : Edit → Edit
  | insert place c => insert (place + 1) c
  | delete place => delete (place + 1)
  | substitute place c => substitute (place + 1) c

/-- A shifted edit leaves the first character alone. -/
@[simp] theorem Edit.apply_shift_cons (edit : Edit) (c : Char) (s : List Char) :
    edit.shift.apply (c :: s) = c :: edit.apply s := by
  cases edit <;> simp [shift, apply]

/-- A shifted edit does nothing to the empty text. -/
@[simp] theorem Edit.apply_shift_nil (edit : Edit) : edit.shift.apply [] = [] := by
  cases edit <;> simp [shift, apply]

/-- An edit is at the first place, or is a shifted one. -/
theorem Edit.cases_place (edit : Edit) :
    (∃ c, edit = insert 0 c) ∨ edit = delete 0 ∨ (∃ c, edit = substitute 0 c) ∨
      ∃ inner : Edit, edit = inner.shift := by
  cases edit with
  | insert place c =>
    cases place with
    | zero => exact .inl ⟨c, rfl⟩
    | succ place => exact .inr (.inr (.inr ⟨insert place c, rfl⟩))
  | delete place =>
    cases place with
    | zero => exact .inr (.inl rfl)
    | succ place => exact .inr (.inr (.inr ⟨delete place, rfl⟩))
  | substitute place c =>
    cases place with
    | zero => exact .inr (.inr (.inl ⟨c, rfl⟩))
    | succ place => exact .inr (.inr (.inr ⟨substitute place c, rfl⟩))

/-- A shifted script works behind the first character. -/
theorem applyScript_map_shift (script : List Edit) (c : Char) (s : List Char) :
    applyScript (script.map Edit.shift) (c :: s) = c :: applyScript script s := by
  induction script generalizing s with
  | nil => rfl
  | cons edit script ih =>
    simp only [applyScript, List.map_cons, List.foldl_cons, Edit.apply_shift_cons] at ih ⊢
    exact ih (edit.apply s)

/-! ### Alignments -/

/-- Two texts gone through together from left to right, with so many characters inserted, deleted
or substituted on the way. -/
inductive Aligned : Nat → List Char → List Char → Prop where
  | nil : Aligned 0 [] []
  | keep {n : Nat} {a b : List Char} (c : Char) : Aligned n a b → Aligned n (c :: a) (c :: b)
  | substitute {n : Nat} {a b : List Char} (c d : Char) :
      Aligned n a b → Aligned (n + 1) (c :: a) (d :: b)
  | insert {n : Nat} {a b : List Char} (d : Char) : Aligned n a b → Aligned (n + 1) a (d :: b)
  | delete {n : Nat} {a b : List Char} (c : Char) : Aligned n a b → Aligned (n + 1) (c :: a) b

namespace Aligned

variable {m n : Nat} {a b a' b' : List Char}

/-- A text is aligned with itself. -/
theorem refl (a : List Char) : Aligned 0 a a := by
  induction a with
  | nil => exact nil
  | cons c a ih => exact keep c ih

theorem symm (h : Aligned n a b) : Aligned n b a := by
  induction h with
  | nil => exact nil
  | keep c _ ih => exact keep c ih
  | substitute c d _ ih => exact substitute d c ih
  | insert d _ ih => exact delete d ih
  | delete c _ ih => exact insert c ih

theorem append (h : Aligned n a b) (h' : Aligned m a' b') :
    Aligned (n + m) (a ++ a') (b ++ b') := by
  induction h with
  | nil => simpa using h'
  | keep c _ ih => exact keep c ih
  | substitute c d _ ih =>
    rw [Nat.succ_add]
    exact substitute c d ih
  | insert d _ ih =>
    rw [Nat.succ_add]
    exact insert d ih
  | delete c _ ih =>
    rw [Nat.succ_add]
    exact delete c ih

/-- Texts can as well be gone through from right to left. -/
theorem reverse (h : Aligned n a b) : Aligned n a.reverse b.reverse := by
  induction h with
  | nil => exact nil
  | keep c _ ih => simpa using ih.append (keep c nil)
  | substitute c d _ ih => simpa using ih.append (substitute c d nil)
  | insert d _ ih => simpa using ih.append (insert d nil)
  | delete c _ ih => simpa using ih.append (delete c nil)

/-- Each edit brings in one character at most. -/
theorem length_le (h : Aligned n a b) : b.length ≤ a.length + n := by
  induction h with
  | nil => simp
  | keep c _ ih => simp only [List.length_cons]; omega
  | substitute c d _ ih => simp only [List.length_cons]; omega
  | insert d _ ih => simp only [List.length_cons]; omega
  | delete c _ ih => simp only [List.length_cons]; omega

/-- One more edit costs at most one more. -/
theorem exists_apply (h : Aligned n a b) (edit : Edit) :
    ∃ m ≤ n + 1, Aligned m a (edit.apply b) := by
  induction h generalizing edit with
  | nil =>
    obtain ⟨c, rfl⟩ | rfl | ⟨c, rfl⟩ | ⟨inner, rfl⟩ := edit.cases_place
    · exact ⟨1, by omega, insert c nil⟩
    · exact ⟨0, by omega, nil⟩
    · exact ⟨0, by omega, nil⟩
    · exact ⟨0, by omega, by simpa using nil⟩
  | @keep n a b c h ih =>
    obtain ⟨d, rfl⟩ | rfl | ⟨d, rfl⟩ | ⟨inner, rfl⟩ := edit.cases_place
    · exact ⟨n + 1, by omega, insert d (keep c h)⟩
    · exact ⟨n + 1, by omega, delete c h⟩
    · exact ⟨n + 1, by omega, substitute c d h⟩
    · obtain ⟨m, hm, h'⟩ := ih inner
      exact ⟨m, hm, inner.apply_shift_cons c b ▸ keep c h'⟩
  | @substitute n a b c d h ih =>
    obtain ⟨e, rfl⟩ | rfl | ⟨e, rfl⟩ | ⟨inner, rfl⟩ := edit.cases_place
    · exact ⟨n + 2, by omega, insert e (substitute c d h)⟩
    · exact ⟨n + 1, by omega, delete c h⟩
    · exact ⟨n + 1, by omega, substitute c e h⟩
    · obtain ⟨m, hm, h'⟩ := ih inner
      exact ⟨m + 1, by omega, inner.apply_shift_cons d b ▸ substitute c d h'⟩
  | @insert n a b d h ih =>
    obtain ⟨e, rfl⟩ | rfl | ⟨e, rfl⟩ | ⟨inner, rfl⟩ := edit.cases_place
    · exact ⟨n + 2, by omega, insert e (insert d h)⟩
    · exact ⟨n, by omega, h⟩
    · exact ⟨n + 1, by omega, insert e h⟩
    · obtain ⟨m, hm, h'⟩ := ih inner
      exact ⟨m + 1, by omega, inner.apply_shift_cons d b ▸ insert d h'⟩
  | @delete n a b c h ih =>
    obtain ⟨m, hm, h'⟩ := ih edit
    exact ⟨m + 1, by omega, delete c h'⟩

/-- Equal first characters can be taken off. -/
theorem exists_tail {c : Char} (h : Aligned n (c :: a) (c :: b)) : ∃ m ≤ n, Aligned m a b := by
  cases h with
  | keep _ h => exact ⟨n, Nat.le_refl n, h⟩
  | @substitute k _ _ _ _ h => exact ⟨k, by omega, h⟩
  | insert _ h =>
    obtain ⟨m, hm, h'⟩ := h.symm.exists_apply (.delete 0)
    exact ⟨m, hm, h'.symm⟩
  | delete _ h => exact h.exists_apply (.delete 0)

/-- The edits of an alignment, carried out in order, make a script. -/
theorem exists_script (h : Aligned n a b) :
    ∃ script : List Edit, script.length = n ∧ applyScript script a = b := by
  induction h with
  | nil => exact ⟨[], rfl, rfl⟩
  | keep c _ ih =>
    obtain ⟨script, hlength, rfl⟩ := ih
    exact ⟨script.map .shift, by simp [hlength], applyScript_map_shift script c _⟩
  | substitute c d _ ih =>
    obtain ⟨script, hlength, rfl⟩ := ih
    exact ⟨.substitute 0 d :: script.map .shift, by simp [hlength],
      applyScript_map_shift script d _⟩
  | insert d _ ih =>
    obtain ⟨script, hlength, rfl⟩ := ih
    exact ⟨.insert 0 d :: script.map .shift, by simp [hlength], applyScript_map_shift script d _⟩
  | delete c _ ih =>
    obtain ⟨script, hlength, rfl⟩ := ih
    exact ⟨.delete 0 :: script, by simp [hlength], rfl⟩

/-- A script costs at most its length. -/
theorem exists_applyScript (h : Aligned n a b) (script : List Edit) :
    ∃ m ≤ n + script.length, Aligned m a (applyScript script b) := by
  induction script generalizing n b with
  | nil => exact ⟨n, by simp, h⟩
  | cons edit script ih =>
    obtain ⟨k, hk, hedit⟩ := h.exists_apply edit
    obtain ⟨m, hm, hscript⟩ := ih hedit
    exact ⟨m, by simp only [List.length_cons]; omega, hscript⟩

end Aligned

/-! ### The least alignment -/

/-- The least number of edits that align two texts, by their first characters: equal ones are kept
at once. -/
def leastEdits : List Char → List Char → Nat
  | [], b => b.length
  | _ :: a, [] => a.length + 1
  | x :: a, y :: b =>
    if x = y then leastEdits a b
    else min (min (leastEdits a b) (leastEdits (x :: a) b)) (leastEdits a (y :: b)) + 1
  termination_by a b => a.length + b.length

@[simp] theorem leastEdits_nil_right (a : List Char) : leastEdits a [] = a.length := by
  cases a <;> simp [leastEdits]

/-- There is an alignment with the least number of edits. -/
theorem aligned_leastEdits (a b : List Char) : Aligned (leastEdits a b) a b := by
  fun_induction leastEdits a b with
  | case1 b =>
    induction b with
    | nil => exact .nil
    | cons d b ih => exact .insert d ih
  | case2 c a =>
    induction a generalizing c with
    | nil => exact .delete c .nil
    | cons d a ih => exact .delete c (ih d)
  | case3 a x b ih => exact .keep x ih
  | case4 x a y b hne ihboth ihleft ihright =>
    rcases Nat.le_total (leastEdits a b) (leastEdits (x :: a) b) with h | h
    · rw [Nat.min_eq_left h]
      rcases Nat.le_total (leastEdits a b) (leastEdits a (y :: b)) with h' | h'
      · rw [Nat.min_eq_left h']
        exact .substitute x y ihboth
      · rw [Nat.min_eq_right h']
        exact .delete x ihright
    · rw [Nat.min_eq_right h]
      rcases Nat.le_total (leastEdits (x :: a) b) (leastEdits a (y :: b)) with h' | h'
      · rw [Nat.min_eq_left h']
        exact .insert y ihleft
      · rw [Nat.min_eq_right h']
        exact .delete x ihright

/-- No alignment has fewer edits. -/
theorem Aligned.leastEdits_le {n : Nat} {a b : List Char} (h : Aligned n a b) :
    leastEdits a b ≤ n := by
  fun_induction leastEdits a b generalizing n with
  | case1 b => simpa using h.length_le
  | case2 c a => simpa using h.symm.length_le
  | case3 a x b ih =>
    obtain ⟨m, hm, htail⟩ := h.exists_tail
    exact Nat.le_trans (ih htail) hm
  | case4 x a y b hne ihboth ihleft ihright =>
    cases h with
    | keep => exact absurd rfl hne
    | substitute _ _ h =>
      have := ihboth h
      omega
    | insert _ h =>
      have := ihleft h
      omega
    | delete _ h =>
      have := ihright h
      omega

/-! ### The rows of the distance table -/

/-- The least numbers of edits from `a` to `p` and to its extensions by the characters of `s`, last
character first. -/
def rowFrom (a p : List Char) : List Char → List Nat
  | [] => [leastEdits a p]
  | y :: s => leastEdits a p :: rowFrom a (y :: p) s

theorem rowFrom_eq_cons (a p s : List Char) :
    rowFrom a p s = leastEdits a p :: (rowFrom a p s).tail := by
  cases s <;> rfl

/-- The first row of the table. -/
theorem rowFrom_nil_left (p s : List Char) :
    rowFrom [] p s = List.range' p.length (s.length + 1) := by
  induction s generalizing p with
  | nil => simp [rowFrom, leastEdits]
  | cons y s ih => simp [rowFrom, leastEdits, ih, List.range'_succ]

/-- The entries of the next row, from the second one on. -/
theorem nextEntries_rowFrom (c : Char) (a p s : List Char) :
    nextEntries c (leastEdits (c :: a) p) (rowFrom a p s) s = (rowFrom (c :: a) p s).tail := by
  induction s generalizing p with
  | nil => rfl
  | cons y s ih =>
    have hentry : (if c = y then leastEdits a p
        else min (min (leastEdits a p) (leastEdits (c :: a) p)) (leastEdits a (y :: p)) + 1) =
        leastEdits (c :: a) (y :: p) := by
      rw [leastEdits]
    rw [rowFrom, rowFrom_eq_cons a (y :: p), nextEntries, hentry, ← rowFrom_eq_cons, ih, rowFrom,
      List.tail_cons, ← rowFrom_eq_cons]

/-- The row after one more character. -/
theorem nextRow_rowFrom (b : List Char) (c : Char) (a : List Char) :
    nextRow b c (rowFrom a [] b) = rowFrom (c :: a) [] b := by
  have hstart : (rowFrom a [] b).headD 0 + 1 = leastEdits (c :: a) [] := by
    rw [rowFrom_eq_cons]
    simp
  rw [nextRow, hstart, nextEntries_rowFrom, ← rowFrom_eq_cons]

/-- The row after a text holds the least numbers of edits from it. -/
theorem distanceRow_eq (b a : List Char) : distanceRow b a = rowFrom a.reverse [] b := by
  have hfirst : List.range (b.length + 1) = rowFrom [] [] b := by
    rw [rowFrom_nil_left, List.range_eq_range']
    rfl
  have hrun : ∀ pre : List Char, a.foldl (fun row c => nextRow b c row) (rowFrom pre [] b) =
      rowFrom (a.reverse ++ pre) [] b := by
    induction a with
    | nil => intro pre; rfl
    | cons c a ih =>
      intro pre
      rw [List.foldl_cons, nextRow_rowFrom, ih, List.reverse_cons, List.append_assoc]
      rfl
  rw [distanceRow, hfirst, hrun, List.append_nil]

theorem getLastD_rowFrom (a p s : List Char) :
    (rowFrom a p s).getLastD 0 = leastEdits a (s.reverse ++ p) := by
  induction s generalizing p with
  | nil => rfl
  | cons y s ih =>
    have hlast : (rowFrom a p (y :: s)).getLastD 0 = (rowFrom a (y :: p) s).getLastD 0 := by
      rw [rowFrom, rowFrom_eq_cons a (y :: p)]
      rfl
    rw [hlast, ih, List.reverse_cons, List.append_assoc]
    rfl

/-- The distance is the least number of edits that align the texts from right to left. -/
theorem editDistance_eq_leastEdits (a b : List Char) :
    editDistance a b = leastEdits a.reverse b.reverse := by
  rw [editDistance, distanceRow_eq, getLastD_rowFrom, List.append_nil]

/-- The edit distance of two texts is the length of a shortest script that turns one into the
other. -/
theorem editDistance_isLeast_length_script (a b : List Char) :
    IsLeast {n | ∃ script : List Edit, script.length = n ∧ applyScript script a = b}
      (editDistance a b) := by
  rw [editDistance_eq_leastEdits]
  constructor
  · have haligned := (aligned_leastEdits a.reverse b.reverse).reverse
    rw [List.reverse_reverse, List.reverse_reverse] at haligned
    exact haligned.exists_script
  · rintro n ⟨script, rfl, rfl⟩
    obtain ⟨m, hm, haligned⟩ := (Aligned.refl a).exists_applyScript script
    have hle := haligned.reverse.leastEdits_le
    omega

example : editDistance "kitten".toList "sitting".toList = 3 := by decide

end DefectScan.Text
