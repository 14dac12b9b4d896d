import DefectScan.Tree.Check
import Mathlib.Data.List.Induction

/-!
# Closest declarations

The check of formatted input asks which declaration a name means at a row. The search goes through
all declarations once, in whatever order they are listed, and keeps the best one so far: a later
declaration of the name at or above the row takes its place unless it stands higher up. What is left
at the end stands furthest down, and of several on one row it is the last of the list.
-/

namespace DefectScan

/-- A declaration of a name at or above a row. -/
structure Declaration.Reaches (d : Declaration) (name : List Char) (row : Nat) : Prop where
  /-- It declares the name. -/
  name_eq : d.name = name
  /-- It is not below the row. -/
  row_le : d.position.row ≤ row

/-- At this place of a list the name is declared closest to the row from above, of several on one
row the last. -/
structure IsClosestDeclaration (name : List Char) (row : Nat) (ds : List Declaration) (place : Nat)
    (d : Declaration) : Prop where
  /-- The declaration stands at the place. -/
  at_place : ds[place]? = some d
  /-- It declares the name at or above the row. -/
  reaches : d.Reaches name row
  /-- No other one is closer. -/
  closest (j : Nat) (e : Declaration) (he : ds[j]? = some e) (hreaches : e.Reaches name row)
    (hj : j ≠ place) : e.position.row < d.position.row ∨
      e.position.row = d.position.row ∧ j < place

variable {name : List Char} {row : Nat} {ds : List Declaration} {d e : Declaration}

/-- What stands at a place of a list with one more entry. -/
private theorem cases_getElem?_concat {j : Nat} (h : (ds ++ [e])[j]? = some d) :
    ds[j]? = some d ∨ j = ds.length ∧ d = e := by
  rcases Nat.lt_trichotomy j ds.length with hlt | rfl | hgt
  · rw [List.getElem?_append_left hlt] at h
    exact .inl h
  · rw [List.getElem?_concat_length, Option.some.injEq] at h
    exact .inr ⟨rfl, h.symm⟩
  · have := (List.getElem?_eq_some_iff.1 h).1
    rw [List.length_append, List.length_singleton] at this
    omega

namespace IsClosestDeclaration

variable {i j : Nat}

/-- The name is not declared further down. -/
theorem row_le_row (h : IsClosestDeclaration name row ds i d) (he : e ∈ ds)
    (hreaches : e.Reaches name row) : e.position.row ≤ d.position.row := by
  obtain ⟨j, hj⟩ := List.mem_iff_getElem?.1 he
  by_cases hplace : j = i
  · subst hplace
    rw [h.at_place, Option.some.injEq] at hj
    exact Nat.le_of_eq (by rw [hj])
  · rcases h.closest j e hj hreaches hplace with hlt | ⟨heq, -⟩ <;> omega

/-- There is only one such place, and so only one such declaration. -/
theorem unique (hd : IsClosestDeclaration name row ds i d)
    (he : IsClosestDeclaration name row ds j e) : i = j ∧ d = e := by
  have hplace : i = j := by
    by_contra hne
    have hlow := hd.closest j e he.at_place he.reaches (Ne.symm hne)
    have hhigh := he.closest i d hd.at_place hd.reaches hne
    omega
  have hsame : some d = some e := by rw [← hd.at_place, ← he.at_place, hplace]
  exact ⟨hplace, Option.some.inj hsame⟩

/-- A declaration that no earlier one is below, put at the end of the list. -/
theorem last (he : e.Reaches name row)
    (h : ∀ b ∈ ds, b.Reaches name row → b.position.row ≤ e.position.row) :
    IsClosestDeclaration name row (ds ++ [e]) ds.length e where
  at_place := List.getElem?_concat_length
  reaches := he
  closest j b hb hreaches hj := by
    rcases cases_getElem?_concat hb with hb | ⟨hlast, -⟩
    · have hle := h b (List.mem_of_getElem? hb) hreaches
      have hlt := (List.getElem?_eq_some_iff.1 hb).1
      omega
    · exact absurd hlast hj

/-- A declaration that is not as close, put at the end of the list, changes nothing. -/
theorem concat (hd : IsClosestDeclaration name row ds i d)
    (he : e.Reaches name row → e.position.row < d.position.row) :
    IsClosestDeclaration name row (ds ++ [e]) i d where
  at_place := by
    rw [List.getElem?_append_left (List.getElem?_eq_some_iff.1 hd.at_place).1, hd.at_place]
  reaches := hd.reaches
  closest j b hb hreaches hj := by
    rcases cases_getElem?_concat hb with hb | ⟨-, rfl⟩
    · exact hd.closest j b hb hreaches hj
    · exact .inl (he hreaches)

end IsClosestDeclaration

/-! ### The search -/

/-- A declaration of the name at or above the row is taken unless the best one so far is below
it. -/
theorem closestDeclaration?_concat_of_reaches (h : e.Reaches name row) :
    closestDeclaration? name row (ds ++ [e]) =
      if (closestDeclaration? name row ds).all fun b => b.position.row ≤ e.position.row then some e
      else closestDeclaration? name row ds := by
  have hkept : [e].filter (fun d => d.name == name && d.position.row ≤ row) = [e] := by
    simp [h.name_eq, h.row_le]
  rw [closestDeclaration?, List.filter_append, hkept, List.foldl_append]
  rfl

/-- Any other declaration is passed over. -/
theorem closestDeclaration?_concat_of_not_reaches (h : ¬e.Reaches name row) :
    closestDeclaration? name row (ds ++ [e]) = closestDeclaration? name row ds := by
  have hdropped : [e].filter (fun d => d.name == name && d.position.row ≤ row) = [] := by
    simpa using fun hname hrow => h ⟨hname, hrow⟩
  rw [closestDeclaration?, List.filter_append, hdropped, List.append_nil]
  rfl

/-- Nothing is found if and only if the name is not declared at or above the row. -/
theorem closestDeclaration?_eq_none_iff :
    closestDeclaration? name row ds = none ↔ ∀ d ∈ ds, ¬d.Reaches name row := by
  induction ds using List.reverseRecOn with
  | nil => exact iff_of_true rfl fun d hd => absurd hd List.not_mem_nil
  | append_singleton ds e ih =>
    rw [List.forall_mem_append, List.forall_mem_singleton, ← ih]
    by_cases he : e.Reaches name row
    · rw [closestDeclaration?_concat_of_reaches he]
      refine iff_of_false ?_ fun h => h.2 he
      split
      · exact Option.some_ne_none e
      · next hbest =>
        intro hnone
        exact hbest (by rw [hnone, Option.all_none])
    · rw [closestDeclaration?_concat_of_not_reaches he, and_iff_left he]

/-- What is found is the closest declaration. -/
theorem isClosestDeclaration_of_closestDeclaration? (h : closestDeclaration? name row ds = some d) :
    ∃ place, IsClosestDeclaration name row ds place d := by
  induction ds using List.reverseRecOn generalizing d with
  | nil => cases h
  | append_singleton ds e ih =>
    by_cases he : e.Reaches name row
    · rw [closestDeclaration?_concat_of_reaches he] at h
      cases hbest : closestDeclaration? name row ds with
      | none =>
        rw [hbest, Option.all_none, if_pos rfl, Option.some.injEq] at h
        subst h
        have hnone := closestDeclaration?_eq_none_iff.1 hbest
        exact ⟨ds.length, .last he fun b hb hreaches => absurd hreaches (hnone b hb)⟩
      | some b =>
        obtain ⟨place, hplace⟩ := ih hbest
        rw [hbest, Option.all_some] at h
        by_cases hle : b.position.row ≤ e.position.row
        · rw [if_pos (decide_eq_true hle), Option.some.injEq] at h
          subst h
          refine ⟨ds.length, .last he fun a ha hreaches => ?_⟩
          exact Nat.le_trans (hplace.row_le_row ha hreaches) hle
        · rw [if_neg (by simpa using hle), Option.some.injEq] at h
          subst h
          exact ⟨place, hplace.concat fun _ => Nat.lt_of_not_le hle⟩
    · rw [closestDeclaration?_concat_of_not_reaches he] at h
      obtain ⟨place, hplace⟩ := ih h
      exact ⟨place, hplace.concat fun hreaches => absurd hreaches he⟩

/-- A declaration is found if and only if it stands where the name is declared closest to the
row. -/
theorem closestDeclaration?_eq_some_iff :
    closestDeclaration? name row ds = some d ↔
      ∃ place, IsClosestDeclaration name row ds place d := by
  refine ⟨isClosestDeclaration_of_closestDeclaration?, ?_⟩
  rintro ⟨place, hd⟩
  cases hfound : closestDeclaration? name row ds with
  | none =>
    have hnone := closestDeclaration?_eq_none_iff.1 hfound d (List.mem_of_getElem? hd.at_place)
    exact absurd hd.reaches hnone
  | some e =>
    obtain ⟨_, he⟩ := isClosestDeclaration_of_closestDeclaration? hfound
    rw [(hd.unique he).2]

/-- A name means the declaration closest above the row or on it, of several on one row the last, in
whatever order they are listed. -/
theorem lookup_finds_closest_declaration (name : List Char) (row : Nat) (ds : List Declaration) :
    (∀ d, closestDeclaration? name row ds = some d ↔
        ∃ place, IsClosestDeclaration name row ds place d) ∧
      (closestDeclaration? name row ds = none ↔ ∀ d ∈ ds, ¬d.Reaches name row) ∧
      (isCharBufferAt ds row name = true ↔ ∃ place d, IsClosestDeclaration name row ds place d ∧
        isCharType d.declaredType = true ∧ (d.isArray = true ∨ d.isPointer = true)) := by
  refine ⟨fun d => closestDeclaration?_eq_some_iff, closestDeclaration?_eq_none_iff, ?_⟩
  rw [isCharBufferAt, Option.any_eq_true]
  constructor
  · rintro ⟨d, hfound, hbuffer⟩
    obtain ⟨place, hplace⟩ := closestDeclaration?_eq_some_iff.1 hfound
    exact ⟨place, d, hplace, by simpa using hbuffer⟩
  · rintro ⟨place, d, hplace, hbuffer⟩
    exact ⟨d, closestDeclaration?_eq_some_iff.2 ⟨place, hplace⟩, by simpa using hbuffer⟩

/-- On the rows 3, 1, 3 and 9, listed so: at row 5 the second one on row 3 is meant. -/
example :
    let declaredAt (row column : Nat) : Declaration :=
      { name := ['b'], declaredType := "char".toList, position := ⟨row, column⟩ }
    (closestDeclaration? ['b'] 5
      [declaredAt 3 0, declaredAt 1 0, declaredAt 3 7, declaredAt 9 0]).map Declaration.position =
        some ⟨3, 7⟩ := by
  decide

end DefectScan
