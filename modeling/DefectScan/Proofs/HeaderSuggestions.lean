import DefectScan.Headers

/-!
# Suggested headers

The search for the header that was probably meant goes through the candidates once and keeps the
best one so far: a later candidate takes its place only if it is strictly closer. What is left at
the end stands at the first place of the whole list where the distance is least. The bound with
which the search begins is one above the largest distance that counts, so nothing is found exactly
if every candidate is further away.
-/

namespace DefectScan

open Text

/-- How far a candidate is from a name, both in small letters. -/
def candidateDistance (name candidate : List Char) : Nat :=
  editDistance (lower name) (lower candidate)

/-- A candidate stands at the first place of a list whose distance from the name is least. -/
structure IsFirstClosest (name : List Char) (candidates : List (List Char)) (place : Nat)
    (c : List Char) : Prop where
  /-- The candidate stands at the place. -/
  at_place : candidates[place]? = some c
  /-- No candidate is closer. -/
  least (j : Nat) (d : List Char) (h : candidates[j]? = some d) :
    candidateDistance name c ≤ candidateDistance name d
  /-- The candidates before it are further away. -/
  first (j : Nat) (d : List Char) (h : candidates[j]? = some d) (hj : j < place) :
    candidateDistance name c < candidateDistance name d

namespace IsFirstClosest

variable {name c d x : List Char} {candidates : List (List Char)} {i j : Nat}

/-- There is only one such place, and so only one such candidate. -/
theorem unique (hc : IsFirstClosest name candidates i c) (hd : IsFirstClosest name candidates j d) :
    c = d := by
  have hle := hc.least j d hd.at_place
  have hge := hd.least i c hc.at_place
  have hij : i = j := by
    rcases Nat.lt_trichotomy i j with hlt | heq | hgt
    · have := hd.first i c hc.at_place hlt
      omega
    · exact heq
    · have := hc.first j d hd.at_place hgt
      omega
  have hplace : some c = some d := by rw [← hc.at_place, ← hd.at_place, hij]
  exact Option.some.inj hplace

/-- A candidate that nothing behind it beats, put in front of the list. -/
theorem head (h : ∀ a ∈ candidates, candidateDistance name x ≤ candidateDistance name a) :
    IsFirstClosest name (x :: candidates) 0 x where
  at_place := rfl
  least j d hd := by
    rcases List.mem_cons.1 (List.mem_of_getElem? hd) with rfl | hmem
    · exact Nat.le_refl _
    · exact h d hmem
  first j d _ hj := absurd hj (Nat.not_lt_zero j)

/-- A candidate that is further away, put in front of the list, changes the place only. -/
theorem cons (h : IsFirstClosest name candidates i c)
    (hx : candidateDistance name c < candidateDistance name x) :
    IsFirstClosest name (x :: candidates) (i + 1) c where
  at_place := h.at_place
  least j d hd := by
    cases j with
    | zero =>
      obtain rfl : x = d := Option.some.inj hd
      exact Nat.le_of_lt hx
    | succ j => exact h.least j d hd
  first j d hd hj := by
    cases j with
    | zero =>
      obtain rfl : x = d := Option.some.inj hd
      exact hx
    | succ j => exact h.first j d hd (by omega)

end IsFirstClosest

/-! ### The search -/

variable {name c : List Char} {bound : Nat} {candidates : List (List Char)}

/-- The search goes on with the distance of a candidate that beats the bound. -/
theorem closest_cons_of_lt {x : List Char} (h : candidateDistance name x < bound) :
    closest name bound (x :: candidates) =
      some ((closest name (candidateDistance name x) candidates).getD x) :=
  if_pos h

/-- A candidate that does not beat the bound is passed over. -/
theorem closest_cons_of_le {x : List Char} (h : bound ≤ candidateDistance name x) :
    closest name bound (x :: candidates) = closest name bound candidates :=
  if_neg (Nat.not_lt.2 h)

/-- Nothing is found if and only if no candidate beats the bound. -/
theorem closest_eq_none_iff :
    closest name bound candidates = none ↔
      ∀ c ∈ candidates, bound ≤ candidateDistance name c := by
  induction candidates with
  | nil => simp [closest]
  | cons x candidates ih =>
    rw [List.forall_mem_cons]
    by_cases hx : candidateDistance name x < bound
    · rw [closest_cons_of_lt hx]
      have hnot : ¬bound ≤ candidateDistance name x := by omega
      simp only [hnot, false_and, reduceCtorEq]
    · have hle : bound ≤ candidateDistance name x := by omega
      rw [closest_cons_of_le hle, ih]
      simp only [hle, true_and]

/-- What is found beats the bound and is the first of the closest candidates. -/
theorem isFirstClosest_of_closest (h : closest name bound candidates = some c) :
    ∃ place, IsFirstClosest name candidates place c ∧ candidateDistance name c < bound := by
  induction candidates generalizing bound with
  | nil => cases h
  | cons x candidates ih =>
    by_cases hx : candidateDistance name x < bound
    · rw [closest_cons_of_lt hx, Option.some.injEq] at h
      cases hrest : closest name (candidateDistance name x) candidates with
      | none =>
        rw [hrest, Option.getD_none] at h
        subst h
        exact ⟨0, .head (closest_eq_none_iff.1 hrest), hx⟩
      | some d =>
        rw [hrest, Option.getD_some] at h
        subst h
        obtain ⟨place, hfirst, hcloser⟩ := ih hrest
        exact ⟨place + 1, hfirst.cons hcloser, by omega⟩
    · have hle : bound ≤ candidateDistance name x := by omega
      rw [closest_cons_of_le hle] at h
      obtain ⟨place, hfirst, hcloser⟩ := ih h
      exact ⟨place + 1, hfirst.cons (by omega), hcloser⟩

/-- A header is suggested exactly if it stands at the first place of least distance and this
distance is at most two. -/
theorem suggestHeader_first_closest (name : List Char) (candidates : List (List Char)) :
    (∀ c, suggestHeader name candidates = some c ↔
        ∃ place, IsFirstClosest name candidates place c ∧ candidateDistance name c ≤ 2) ∧
      (suggestHeader name candidates = none ↔
        ∀ c ∈ candidates, 2 < candidateDistance name c) := by
  have hnone : suggestHeader name candidates = none ↔
      ∀ c ∈ candidates, 2 < candidateDistance name c := closest_eq_none_iff
  refine ⟨fun c => ⟨fun h => ?_, ?_⟩, hnone⟩
  · obtain ⟨place, hfirst, hclose⟩ := isFirstClosest_of_closest h
    exact ⟨place, hfirst, Nat.le_of_lt_succ hclose⟩
  · rintro ⟨place, hfirst, hclose⟩
    cases hfound : suggestHeader name candidates with
    | none =>
      have hfar := hnone.1 hfound c (List.mem_of_getElem? hfirst.at_place)
      omega
    | some d =>
      obtain ⟨_, hfirst', -⟩ := isFirstClosest_of_closest hfound
      rw [hfirst.unique hfirst']

/-- Of two candidates at distance one the earlier is taken, also behind a worse one. -/
example : suggestHeader "STDLB.h".toList
    ["string.h".toList, "stdlib.h".toList, "stdlb.hh".toList] = some "stdlib.h".toList := by
  decide +kernel

end DefectScan
