import ControlPlane.Proofs.Rollout.Steps

/-!
# The order of a plan

Sorting puts the steps of a plan in the order of the slots they are for (`pairwise_ascending`,
`pairwise_descending`), and no two steps are for one slot (`pairwise_pending`), so the slots go strictly
up and strictly down. Only the surplus may share an ordinal.

* `ordinal_of_slotStep`: the step that a slot needs has the slot's number as its ordinal.
* `map_skipAllButFirst`, `skipped_skipAllButFirst`: leaving steps for later changes nothing else about
  them, and only the first is not left.
-/

namespace ControlPlane

namespace Deployment

variable {d : Deployment} {owner : OwnerReference} {l : List Instance} {k : Nat} {i : Instance}
  {actions : List Action} {a b : Action}

/-! ## Sorting -/

theorem pairwise_ascending (actions : List Action) :
    (ascending actions).Pairwise fun a b => a.ordinal ≤ b.ordinal := by
  have hsorted : (ascending actions).Pairwise fun a b => decide (a.ordinal ≤ b.ordinal) = true :=
    List.pairwise_mergeSort (fun a b c hab hbc => by simp only [decide_eq_true_eq] at *; omega)
      (fun a b => by simp only [Bool.or_eq_true, decide_eq_true_eq]; omega) actions
  exact hsorted.imp of_decide_eq_true

theorem pairwise_descending (actions : List Action) :
    (descending actions).Pairwise fun a b => b.ordinal ≤ a.ordinal := by
  have hsorted : (descending actions).Pairwise fun a b => decide (b.ordinal ≤ a.ordinal) = true :=
    List.pairwise_mergeSort (fun a b c hab hbc => by simp only [decide_eq_true_eq] at *; omega)
      (fun a b => by simp only [Bool.or_eq_true, decide_eq_true_eq]; omega) actions
  exact hsorted.imp of_decide_eq_true

/-- Sorting keeps ordinals distinct. -/
theorem pairwise_ne_mergeSort {le : Action → Action → Bool}
    (h : actions.Pairwise fun a b => a.ordinal ≠ b.ordinal) :
    (actions.mergeSort le).Pairwise fun a b => a.ordinal ≠ b.ordinal :=
  ((List.mergeSort_perm actions le).pairwise_iff fun hne => hne.symm).2 h

theorem pairwise_lt_ascending (h : actions.Pairwise fun a b => a.ordinal ≠ b.ordinal) :
    (ascending actions).Pairwise fun a b => a.ordinal < b.ordinal := by
  refine ((pairwise_ascending actions).and (pairwise_ne_mergeSort h)).imp fun {a b} hab => ?_
  obtain ⟨hle, hne⟩ := hab
  omega

theorem pairwise_lt_descending (h : actions.Pairwise fun a b => a.ordinal ≠ b.ordinal) :
    (descending actions).Pairwise fun a b => b.ordinal < a.ordinal := by
  refine ((pairwise_descending actions).and (pairwise_ne_mergeSort h)).imp fun {a b} hab => ?_
  obtain ⟨hle, hne⟩ := hab
  omega

theorem mem_ascending : a ∈ ascending actions ↔ a ∈ actions :=
  (List.mergeSort_perm ..).mem_iff

theorem mem_descending : a ∈ descending actions ↔ a ∈ actions :=
  (List.mergeSort_perm ..).mem_iff

/-- The first item of a list that is in order comes before all others. -/
theorem rel_of_head? {α : Type} {R : α → α → Prop} {l : List α} {a b : α} (h : l.Pairwise R)
    (hb : l.head? = some b) (ha : a ∈ l) : a = b ∨ R b a := by
  obtain ⟨rest, rfl⟩ := List.head?_eq_some_iff.1 hb
  exact (List.mem_cons.1 ha).imp_right fun hrest => (List.pairwise_cons.1 h).1 a hrest

/-- The first action in ascending order is one of the lowest slot. -/
theorem head_ascending_le_ordinal (hb : (ascending actions).head? = some b) (ha : a ∈ actions) :
    b.ordinal ≤ a.ordinal := by
  obtain rfl | hle := rel_of_head? (pairwise_ascending actions) hb (mem_ascending.2 ha)
  · exact Int.le_refl _
  · exact hle

/-- The first action in descending order is one of the highest slot. -/
theorem ordinal_le_head_descending (hb : (descending actions).head? = some b) (ha : a ∈ actions) :
    a.ordinal ≤ b.ordinal := by
  obtain rfl | hle := rel_of_head? (pairwise_descending actions) hb (mem_descending.2 ha)
  · exact Int.le_refl _
  · exact hle

theorem mem_of_head_mergeSort {le : Action → Action → Bool}
    (h : (actions.mergeSort le).head? = some a) : a ∈ actions :=
  (List.mergeSort_perm ..).mem_iff.1 (List.mem_of_head? h)

theorem mergeSort_eq_nil_iff {le : Action → Action → Bool} :
    actions.mergeSort le = [] ↔ actions = [] := by
  rw [← List.length_eq_zero_iff, List.length_mergeSort, List.length_eq_zero_iff]

/-! ## The slots of the steps -/

theorem ordinal_create (owner : OwnerReference) (hk : k < d.slotCount) :
    Action.ordinal ⟨.create, d.newInstance k owner, false⟩ = k := by
  show ControlPlane.ordinal (d.slotName k) = k
  exact ordinal_eq_natCast (d.slotOf?_slotName hk)

theorem ordinal_wait (hh : (d.slots l).holder k = some i) :
    Action.ordinal ⟨.wait, i, false⟩ = k := by
  show ControlPlane.ordinal i.name = k
  exact ordinal_eq_natCast (d.holder_mem hh).2.2

theorem ordinal_update (hh : (d.slots l).holder k = some i) :
    Action.ordinal ⟨.update, d.renewedInstance k i, false⟩ = k := by
  show ControlPlane.ordinal i.name = k
  exact ordinal_eq_natCast (d.holder_mem hh).2.2

/-- The step that a slot needs is for that slot. -/
theorem ordinal_of_slotStep (hk : k < d.slotCount)
    (h : d.slotStep owner k ((d.slots l).holder k) = some a) : a.ordinal = k := by
  cases hh : (d.slots l).holder k with
  | none =>
    rw [hh] at h
    cases h
    exact ordinal_create owner hk
  | some i =>
    rw [hh, slotStep] at h
    split at h
    · cases h
      exact ordinal_wait hh
    · split at h
      · cases h
        exact ordinal_update hh
      · cases h

/-- What the slots need comes in the order of the slots, and no two steps are for one slot. -/
theorem pairwise_pending : (d.pending owner l).Pairwise fun a b => a.ordinal < b.ordinal := by
  rw [pending, List.pairwise_filterMap]
  refine List.pairwise_lt_range.imp_of_mem fun {j k} hj hk hlt a ha b hb => ?_
  rw [ordinal_of_slotStep (List.mem_range.1 hj) ha, ordinal_of_slotStep (List.mem_range.1 hk) hb]
  omega

theorem pairwise_ne_pending (p : Action → Bool) :
    ((d.pending owner l).filter p).Pairwise fun a b => a.ordinal ≠ b.ordinal :=
  (pairwise_pending.sublist List.filter_sublist).imp fun {a b} hlt => by omega

/-! ## Steps that are left for later -/

theorem map_skipAllButFirst {β : Type} {f : Action → β} (hf : ∀ a : Action, f a.skip = f a)
    (actions : List Action) : (skipAllButFirst actions).map f = actions.map f := by
  cases actions with
  | nil => rfl
  | cons a rest => simp [skipAllButFirst, Function.comp_def, hf]

/-- Of steps none of which is left for later, all but the first are. -/
theorem skipped_skipAllButFirst (h : ∀ a ∈ actions, a.skipped = false) {n : Nat}
    (hn : (skipAllButFirst actions)[n]? = some a) : a.skipped = false ↔ n = 0 := by
  cases actions with
  | nil => cases hn
  | cons first rest =>
    cases n with
    | zero =>
      cases hn
      exact iff_of_true (h _ List.mem_cons_self) rfl
    | succ n =>
      rw [skipAllButFirst, List.getElem?_cons_succ, List.getElem?_map] at hn
      obtain ⟨b, -, rfl⟩ := Option.map_eq_some_iff.1 hn
      simp [Action.skip]

end Deployment

end ControlPlane
