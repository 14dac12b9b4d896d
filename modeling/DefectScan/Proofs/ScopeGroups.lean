import DefectScan.Proofs.RepeatedCheck
import Mathlib.Data.List.Induction

/-!
# Declarations by scope

The variable check puts the declarations under their scopes, one after another: a declaration goes
behind the others of its scope, and a scope that is new comes last. The groups that this leaves are
a stable partition of the declarations. The check then visits the declarations group by group and
changes their marks on the way. Since every declaration is visited once, each visit finds the
declaration as it was read, and the visits together find what the check finds.
-/

namespace DefectScan

/-! ### Grouping -/

section Grouping

variable {α β κ : Type} [BEq κ]

/-- Put an entry behind the others under its key; a new key comes last. -/
def addUnder (k : κ) (a : α) : List (κ × List α) → List (κ × List α)
  | [] => [(k, [a])]
  | g :: groups => if k == g.1 then (g.1, g.2 ++ [a]) :: groups else g :: addUnder k a groups

/-- The entries of a list, put under their keys one after another. -/
def grouped (key : α → κ) (l : List α) : List (κ × List α) :=
  l.foldl (fun groups a => addUnder (key a) a groups) []

/-- Groups that hold the entries of a list by their keys and in their order. -/
structure IsStablePartition (key : α → κ) (l : List α) (groups : List (κ × List α)) : Prop where
  /-- No key has two groups. -/
  nodup_keys : (groups.map Prod.fst).Nodup
  /-- The keys are those of the entries. -/
  mem_keys_iff : ∀ k, k ∈ groups.map Prod.fst ↔ k ∈ l.map key
  /-- They come in the order in which they first appear in the list. -/
  keys_by_appearance :
    (groups.map Prod.fst).Pairwise fun k k' => (l.map key).idxOf k < (l.map key).idxOf k'
  /-- A group holds the entries with its key, in the order of the list. -/
  group_eq : ∀ g ∈ groups, g.2 = l.filter fun a => key a == g.1
  /-- Together the groups hold the entries of the list. -/
  perm : (groups.flatMap Prod.snd).Perm l

/-- The entries with a key in a list with one more entry. -/
theorem filter_key_concat (key : α → κ) (l : List α) (a : α) (k : κ) :
    (l ++ [a]).filter (fun b => key b == k) =
      if key a == k then l.filter (fun b => key b == k) ++ [a]
      else l.filter fun b => key b == k := by
  rw [List.filter_append, List.filter_singleton]
  cases key a == k <;> simp

theorem grouped_concat (key : α → κ) (l : List α) (a : α) :
    grouped key (l ++ [a]) = addUnder (key a) a (grouped key l) := by
  rw [grouped, List.foldl_append]
  rfl

variable [LawfulBEq κ]

/-- A new key comes last. -/
theorem addUnder_of_not_mem {k : κ} {a : α} {groups : List (κ × List α)}
    (h : k ∉ groups.map Prod.fst) : addUnder k a groups = groups ++ [(k, [a])] := by
  induction groups with
  | nil => rfl
  | cons g groups ih =>
    rw [List.map_cons, List.mem_cons, not_or] at h
    have hne : ¬(k == g.1) = true := fun heq => h.1 (beq_iff_eq.1 heq)
    rw [addUnder, if_neg hne, ih h.2, List.cons_append]

/-- A key that has a group keeps its place, and the entry goes behind the others of the group. -/
theorem addUnder_of_mem {k : κ} {a : α} {groups : List (κ × List α)}
    (hnodup : (groups.map Prod.fst).Nodup) (h : k ∈ groups.map Prod.fst) :
    addUnder k a groups =
      groups.map fun g => (g.1, if k == g.1 then g.2 ++ [a] else g.2) := by
  induction groups with
  | nil => cases h
  | cons g groups ih =>
    rw [List.map_cons, List.nodup_cons] at hnodup
    rw [List.map_cons, addUnder]
    by_cases heq : k = g.1
    · have hothers : ∀ g' ∈ groups, (g'.1, if k == g'.1 then g'.2 ++ [a] else g'.2) = g' := by
        intro g' hg'
        have hne : ¬(k == g'.1) = true := by
          intro heq'
          have hsame : g'.1 = g.1 := by rw [← beq_iff_eq.1 heq', heq]
          exact hnodup.1 (hsame ▸ List.mem_map_of_mem hg')
        rw [if_neg hne]
      have hbeq : (k == g.1) = true := beq_iff_eq.2 heq
      rw [if_pos hbeq, if_pos hbeq, List.map_congr_left hothers, List.map_id']
    · have hmem : k ∈ groups.map Prod.fst := (List.mem_cons.1 h).resolve_left heq
      have hne : ¬(k == g.1) = true := fun hbeq => heq (beq_iff_eq.1 hbeq)
      rw [if_neg hne, if_neg hne, ih hnodup.2 hmem]

/-! ### Keys -/

theorem eraseDups_concat_of_mem {ks : List κ} {k : κ} (h : k ∈ ks) :
    (ks ++ [k]).eraseDups = ks.eraseDups := by
  rw [List.eraseDups_append]
  simp [List.removeAll, h]

theorem eraseDups_concat_of_not_mem {ks : List κ} {k : κ} (h : k ∉ ks) :
    (ks ++ [k]).eraseDups = ks.eraseDups ++ [k] := by
  rw [List.eraseDups_append]
  simp [List.removeAll, h, List.eraseDups_cons]

/-- Without its repetitions, a list has its entries in the order in which they first appear. -/
theorem pairwise_idxOf_eraseDups (ks : List κ) :
    ks.eraseDups.Pairwise fun k k' => ks.idxOf k < ks.idxOf k' := by
  induction ks using List.reverseRecOn with
  | nil => exact List.Pairwise.nil
  | append_singleton ks k ih =>
    have hidx : ∀ k' ∈ ks, (ks ++ [k]).idxOf k' = ks.idxOf k' := by
      intro k' hk'
      rw [List.idxOf_append, if_pos hk']
    have hold : ks.eraseDups.Pairwise fun k₁ k₂ =>
        (ks ++ [k]).idxOf k₁ < (ks ++ [k]).idxOf k₂ := by
      refine ih.imp_of_mem fun {k₁ k₂} h₁ h₂ hlt => ?_
      rwa [hidx k₁ (List.mem_eraseDups.1 h₁), hidx k₂ (List.mem_eraseDups.1 h₂)]
    by_cases hk : k ∈ ks
    · rwa [eraseDups_concat_of_mem hk]
    · rw [eraseDups_concat_of_not_mem hk, List.pairwise_append]
      refine ⟨hold, List.pairwise_singleton _ k, fun k₁ h₁ k₂ h₂ => ?_⟩
      have hmem := List.mem_eraseDups.1 h₁
      rw [List.mem_singleton.1 h₂, hidx k₁ hmem, List.idxOf_append, if_neg hk]
      have := List.idxOf_lt_length_iff.2 hmem
      omega

/-- The entries with each of several keys, one key after another, are all entries. -/
theorem perm_flatMap_filter (key : α → κ) {ks : List κ} (hnodup : ks.Nodup) {l : List α}
    (h : ∀ a ∈ l, key a ∈ ks) : (ks.flatMap fun k => l.filter fun a => key a == k).Perm l := by
  induction ks generalizing l with
  | nil =>
    obtain rfl : l = [] := List.eq_nil_iff_forall_not_mem.2 fun a ha => by simpa using h a ha
    exact List.Perm.nil
  | cons k ks ih =>
    obtain ⟨hk, hnodup⟩ := List.nodup_cons.1 hnodup
    have hothers : (ks.flatMap fun k' => l.filter fun a => key a == k') =
        ks.flatMap fun k' => (l.filter fun a => !(key a == k)).filter fun a => key a == k' := by
      refine List.flatMap_congr fun k' hk' => ?_
      rw [List.filter_filter]
      refine List.filter_congr fun a _ => ?_
      by_cases ha : key a = k'
      · have hne : k' ≠ k := fun heq => hk (heq ▸ hk')
        simp [ha, hne]
      · simp [ha]
    have hrest := ih hnodup (l := l.filter fun a => !(key a == k)) fun a ha => by
      obtain ⟨ha, hne⟩ := List.mem_filter.1 ha
      exact (List.mem_cons.1 (h a ha)).resolve_left (by simpa using hne)
    rw [List.flatMap_cons, hothers]
    exact (hrest.append_left _).trans (List.filter_append_perm _ l)

/-! ### Groups -/

/-- The groups by the keys in the order of their first appearance are a stable partition. -/
theorem isStablePartition_filter (key : α → κ) (l : List α) :
    IsStablePartition key l
      ((l.map key).eraseDups.map fun k => (k, l.filter fun a => key a == k)) := by
  have hkeys : ((l.map key).eraseDups.map fun k => (k, l.filter fun a => key a == k)).map Prod.fst =
      (l.map key).eraseDups := by
    rw [List.map_map]
    exact List.map_id' _
  have horder := pairwise_idxOf_eraseDups (l.map key)
  have hnodup : (l.map key).eraseDups.Nodup := by
    refine horder.imp fun {k k'} hlt heq => ?_
    rw [heq] at hlt
    exact Nat.lt_irrefl _ hlt
  constructor
  case nodup_keys => rwa [hkeys]
  case mem_keys_iff =>
    intro k
    rw [hkeys, List.mem_eraseDups]
  case keys_by_appearance => rwa [hkeys]
  case group_eq =>
    intro g hg
    obtain ⟨k, -, rfl⟩ := List.mem_map.1 hg
    rfl
  case perm =>
    rw [List.flatMap_map]
    exact perm_flatMap_filter key hnodup fun a ha =>
      List.mem_eraseDups.2 (List.mem_map_of_mem ha)

/-- Putting the entries under their keys one after another leaves the groups by the keys in the
order of their first appearance. -/
theorem grouped_eq (key : α → κ) (l : List α) :
    grouped key l = (l.map key).eraseDups.map fun k => (k, l.filter fun a => key a == k) := by
  induction l using List.reverseRecOn with
  | nil => rfl
  | append_singleton l a ih =>
    have hpartition := ih ▸ isStablePartition_filter key l
    rw [grouped_concat, List.map_append, List.map_singleton]
    by_cases hmem : key a ∈ l.map key
    · rw [addUnder_of_mem hpartition.nodup_keys ((hpartition.mem_keys_iff _).2 hmem),
        eraseDups_concat_of_mem hmem, ih, List.map_map]
      refine List.map_congr_left fun k _ => ?_
      rw [filter_key_concat]
      rfl
    · rw [addUnder_of_not_mem (mt (hpartition.mem_keys_iff _).1 hmem),
        eraseDups_concat_of_not_mem hmem, ih, List.map_append, List.map_singleton]
      have hnone : l.filter (fun b => key b == key a) = [] := by
        rw [List.filter_eq_nil_iff]
        intro b hb heq
        exact hmem (beq_iff_eq.1 heq ▸ List.mem_map_of_mem hb)
      have hold : ∀ k ∈ (l.map key).eraseDups,
          (l ++ [a]).filter (fun b => key b == k) = l.filter fun b => key b == k := by
        intro k hk
        rw [filter_key_concat, if_neg]
        intro heq
        exact hmem (beq_iff_eq.1 heq ▸ List.mem_eraseDups.1 hk)
      rw [filter_key_concat, if_pos (beq_self_eq_true (key a)), hnone, List.nil_append,
        List.map_congr_left fun k hk => congrArg (Prod.mk k) (hold k hk)]

/-- Entries that stand for others are grouped as those. -/
theorem grouped_map (key : β → κ) (f : α → β) (l : List α) :
    grouped key (l.map f) = (grouped (fun a => key (f a)) l).map fun g => (g.1, g.2.map f) := by
  rw [grouped_eq, grouped_eq, List.map_map, List.map_map]
  refine List.map_congr_left fun k _ => ?_
  rw [List.filter_map]
  rfl

end Grouping

/-- The declarations by scope are what putting them under their scopes leaves. -/
theorem grouped_scope (ds : List Declaration) : grouped Declaration.scope ds = groupByScope ds :=
  grouped_eq Declaration.scope ds

/-! ### Visits -/

/-- The declarations with their places in the list, put under their scopes. -/
def placesByScope (ds : List Declaration) : List (List Char × List (Declaration × Nat)) :=
  grouped (fun p => p.1.scope) ds.zipIdx

/-- The places of the declarations in the order in which the variable check visits them. -/
def visitOrder (ds : List Declaration) : List Nat :=
  (placesByScope ds).flatMap fun g => g.2.map Prod.snd

theorem isStablePartition_placesByScope (ds : List Declaration) :
    IsStablePartition (fun p : Declaration × Nat => p.1.scope) ds.zipIdx (placesByScope ds) := by
  rw [placesByScope, grouped_eq]
  exact isStablePartition_filter _ _

/-- Without the places these are the groups of the check. -/
theorem map_placesByScope (ds : List Declaration) :
    (placesByScope ds).map (fun g => (g.1, g.2.map Prod.fst)) = groupByScope ds := by
  rw [placesByScope, ← grouped_map Declaration.scope Prod.fst, List.zipIdx_map_fst, grouped_scope]

/-- Every place is visited once. -/
theorem perm_visitOrder (ds : List Declaration) :
    (visitOrder ds).Perm (List.range ds.length) := by
  have hperm := (isStablePartition_placesByScope ds).perm.map Prod.snd
  rwa [List.map_flatMap, List.zipIdx_map_snd, ← List.range_eq_range'] at hperm

/-- A place in a group is one where its declaration stands. -/
theorem getElem?_of_mem_placesByScope {ds : List Declaration}
    {g : List Char × List (Declaration × Nat)} (hg : g ∈ placesByScope ds) {p : Declaration × Nat}
    (hp : p ∈ g.2) : ds[p.2]? = some p.1 := by
  have hmem : p ∈ (placesByScope ds).flatMap Prod.snd := List.mem_flatMap.2 ⟨g, hg, hp⟩
  rw [(isStablePartition_placesByScope ds).perm.mem_iff] at hmem
  exact List.mem_zipIdx_iff_getElem?.1 hmem

/-- The visits of the variable check so far. -/
structure VisitRun where
  /-- The declarations as the visits left them. -/
  declarations : List Declaration
  /-- What the visits found. -/
  found : List Sighting := []

namespace SyntaxTree

/-- Check the uses of the declaration at a place, as the visits before left it, and mark it. -/
def visit (tree : SyntaxTree) (flow : Bool) (run : VisitRun) (place : Nat) : VisitRun where
  declarations := run.declarations.modify place tree.afterCheck
  found := run.found ++ (run.declarations[place]?).toList.flatMap (tree.useSightings flow)

/-- The places that were visited are marked, the others are as they were read. -/
structure HasVisited (tree : SyntaxTree) (flow : Bool) (ds : List Declaration) (order : List Nat)
    (run : VisitRun) : Prop where
  /-- The declarations that were visited are marked. -/
  declarations : ∀ i, run.declarations[i]? =
    if i ∈ order then (ds[i]?).map tree.afterCheck else ds[i]?
  /-- Each of them was reported as it was read. -/
  found : run.found = order.flatMap fun i => (ds[i]?).toList.flatMap (tree.useSightings flow)

section Visits

variable {tree : SyntaxTree} {flow : Bool} {ds : List Declaration} {order : List Nat}
  {run : VisitRun}

/-- A visit to a new place. -/
theorem HasVisited.visit (h : tree.HasVisited flow ds order run) {place : Nat}
    (hplace : place ∉ order) :
    tree.HasVisited flow ds (order ++ [place]) (tree.visit flow run place) where
  declarations i := by
    rw [SyntaxTree.visit, List.getElem?_modify, h.declarations]
    by_cases hi : i = place
    · subst hi
      simp [hplace]
    · simp [hi, Ne.symm hi]
  found := by
    have hread : run.declarations[place]? = ds[place]? := by
      rw [h.declarations, if_neg hplace]
    rw [SyntaxTree.visit, h.found, hread, List.flatMap_append, List.flatMap_singleton]

/-- Visits to places that are all different. -/
theorem hasVisited_foldl (tree : SyntaxTree) (flow : Bool) (ds : List Declaration)
    (hnodup : order.Nodup) :
    tree.HasVisited flow ds order (order.foldl (tree.visit flow) { declarations := ds }) := by
  induction order using List.reverseRecOn with
  | nil => exact ⟨fun i => by simp, rfl⟩
  | append_singleton order place ih =>
    obtain ⟨horder, -, hnew⟩ := List.nodup_append.1 hnodup
    rw [List.foldl_append]
    exact (ih horder).visit fun hmem => hnew place hmem place (List.mem_singleton_self place) rfl

/-- Visits to all places mark every declaration. -/
theorem HasVisited.declarations_eq (h : tree.HasVisited flow ds order run)
    (hperm : order.Perm (List.range ds.length)) : run.declarations = ds.map tree.afterCheck := by
  refine List.ext_getElem? fun i => ?_
  rw [h.declarations, List.getElem?_map]
  split
  · rfl
  · next hi =>
    rw [hperm.mem_iff, List.mem_range, Nat.not_lt] at hi
    rw [List.getElem?_eq_none hi, Option.map_none]

end Visits

end SyntaxTree

/-- The visits go through the groups one after another. -/
theorem map_visitOrder (ds : List Declaration) :
    (visitOrder ds).map (ds[·]?) = ((groupByScope ds).flatMap Prod.snd).map some := by
  rw [visitOrder, ← map_placesByScope, List.map_flatMap, List.flatMap_map, List.map_flatMap]
  refine List.flatMap_congr fun g hg => ?_
  rw [List.map_map, List.map_map]
  exact List.map_congr_left fun p hp => getElem?_of_mem_placesByScope hg hp

/-- Grouping by scope is a stable partition of the declarations, and the check visits each once,
group by group, with the same result. -/
theorem groupByScope_stable_partition (ds : List Declaration) :
    grouped Declaration.scope ds = groupByScope ds ∧
      IsStablePartition Declaration.scope ds (groupByScope ds) ∧
      (visitOrder ds).map (ds[·]?) = ((groupByScope ds).flatMap Prod.snd).map some ∧
      (visitOrder ds).Perm (List.range ds.length) ∧
      ∀ (path : String) (tree : SyntaxTree) (flow : Bool),
        let run := (variableCheck flow).run path { tree := some tree, declarations := ds }
        let visits := (visitOrder ds).foldl (tree.visit flow) { declarations := ds }
        run.found = .ok (visits.found ++ visits.declarations.flatMap (tree.nullSightings flow)) ∧
          run.declarations = visits.declarations := by
  refine ⟨grouped_scope ds, isStablePartition_filter Declaration.scope ds, map_visitOrder ds,
    perm_visitOrder ds, fun path tree flow => ?_⟩
  intro run visits
  have hnodup : (visitOrder ds).Nodup := (perm_visitOrder ds).nodup_iff.2 List.nodup_range
  have hvisited := tree.hasVisited_foldl flow ds hnodup
  have hmarks : visits.declarations = ds.map tree.afterCheck :=
    hvisited.declarations_eq (perm_visitOrder ds)
  have hfound : visits.found =
      (groupByScope ds).flatMap fun g => g.2.flatMap (tree.useSightings flow) := by
    calc visits.found
        = ((visitOrder ds).map (ds[·]?)).flatMap fun d? =>
            d?.toList.flatMap (tree.useSightings flow) := by
          rw [hvisited.found, List.flatMap_map]
      _ = ((groupByScope ds).flatMap Prod.snd).flatMap (tree.useSightings flow) := by
          rw [map_visitOrder, List.flatMap_map]
          simp
      _ = (groupByScope ds).flatMap fun g => g.2.flatMap (tree.useSightings flow) :=
          List.flatMap_assoc
  refine ⟨?_, hmarks.symm⟩
  have hnull : visits.declarations.flatMap (tree.nullSightings flow) =
      ds.flatMap (tree.nullSightings flow) := by
    rw [hmarks, List.flatMap_map]
    exact List.flatMap_congr fun d _ => tree.nullSightings_afterCheck d flow
  rw [hfound, hnull]
  rfl

/-- A declaration of another scope stands between two of one scope, which are visited first. -/
example :
    let declaredIn (scope : String) : Declaration :=
      { name := ['x'], declaredType := "int".toList, position := ⟨0, 0⟩, scope := scope.toList }
    visitOrder [declaredIn "f:1", declaredIn "global", declaredIn "f:1"] = [0, 2, 1] := by
  decide

end DefectScan
