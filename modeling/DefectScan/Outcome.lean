/-!
# Outcomes

An outcome is a value or a failure. Of several outcomes in a row the first failure counts.
-/

namespace DefectScan

variable {ε α β : Type}

/-- The values of some outcomes, or the first failure among them. -/
def collect : List (Except ε α) → Except ε (List α)
  | [] => .ok []
  | x :: xs => x >>= fun a => (collect xs).map (a :: ·)

theorem bind_eq_ok_iff {x : Except ε α} {f : α → Except ε β} {b : β} :
    x >>= f = .ok b ↔ ∃ a, x = .ok a ∧ f a = .ok b := by
  cases x <;> simp [bind, Except.bind]

theorem map_eq_ok_iff {x : Except ε α} {f : α → β} {b : β} :
    x.map f = .ok b ↔ ∃ a, x = .ok a ∧ f a = b := by
  cases x <;> simp [Except.map]

section Failures

variable {ε' : Type} {f : ε → ε'}

@[simp] theorem mapError_ok (a : α) : (Except.ok a).mapError f = .ok a := rfl

@[simp] theorem mapError_error (e : ε) : (Except.error e : Except ε α).mapError f = .error (f e) :=
  rfl

theorem mapError_eq_ok_iff {x : Except ε α} {a : α} : x.mapError f = .ok a ↔ x = .ok a := by
  cases x <;> simp

end Failures

theorem collect_append (xs ys : List (Except ε α)) :
    collect (xs ++ ys) = collect xs >>= fun as => (collect ys).map (as ++ ·) := by
  induction xs with
  | nil =>
    rw [List.nil_append, collect]
    cases collect ys <;> rfl
  | cons x xs ih =>
    rw [List.cons_append, collect, collect, ih]
    cases x with
    | error e => rfl
    | ok a => cases collect xs <;> cases collect ys <;> rfl

/-- What was collected are the values of the outcomes. -/
theorem mem_iff_of_collect {xs : List (Except ε α)} {as : List α} (h : collect xs = .ok as)
    {a : α} : a ∈ as ↔ .ok a ∈ xs := by
  induction xs generalizing as with
  | nil =>
    cases h
    simp
  | cons x xs ih =>
    rw [collect, bind_eq_ok_iff] at h
    obtain ⟨b, rfl, h⟩ := h
    obtain ⟨bs, hbs, rfl⟩ := map_eq_ok_iff.1 h
    simp [ih hbs]

/-- Where values were collected, every outcome is one of them. -/
theorem exists_mem_of_collect {xs : List (Except ε α)} {as : List α} (h : collect xs = .ok as)
    {x : Except ε α} (hx : x ∈ xs) : ∃ a ∈ as, x = .ok a := by
  induction xs generalizing as with
  | nil => cases hx
  | cons y xs ih =>
    rw [collect, bind_eq_ok_iff] at h
    obtain ⟨b, rfl, h⟩ := h
    obtain ⟨bs, hbs, rfl⟩ := map_eq_ok_iff.1 h
    rcases List.mem_cons.1 hx with rfl | hx
    · exact ⟨b, List.mem_cons_self, rfl⟩
    · obtain ⟨a, ha, rfl⟩ := ih hbs hx
      exact ⟨a, List.mem_cons_of_mem _ ha, rfl⟩

end DefectScan
