import ControlPlane.Proofs.Rollout.Order

/-!
# When an instance is renewed

A plan begins with an update exactly when there is nothing to create and nothing to wait for: every slot
is held by a ready instance that is not being deleted. Then the outdated instance in the highest slot
is renewed (`head_inOrder_eq_update_iff`). What the runtime has observed of an instance's template has
no part in this.
-/

namespace ControlPlane

namespace Deployment

variable {d : Deployment} {owner : OwnerReference} {l : List Instance} {k : Nat} {i : Instance}

/-- The instance in a slot is the next to be renewed. -/
structure Due (d : Deployment) (l : List Instance) (k : Nat) (i : Instance) : Prop where
  all_ready : ∀ j < d.slotCount, ∃ h ∈ (d.slots l).holder j, h.isDeleting = false ∧ h.isReady = true
  holds : (d.slots l).holder k = some i
  outdated : d.isOutdated i = true
  highest : ∀ j < d.slotCount, k < j → ∀ h ∈ (d.slots l).holder j, d.isOutdated h = false

instance : Decidable (d.Due l k i) :=
  decidable_of_iff
    ((∀ j < d.slotCount, ∃ h ∈ (d.slots l).holder j, h.isDeleting = false ∧ h.isReady = true) ∧
      (d.slots l).holder k = some i ∧ d.isOutdated i = true ∧
        ∀ j < d.slotCount, k < j → ∀ h ∈ (d.slots l).holder j, d.isOutdated h = false)
    ⟨fun ⟨hall, hh, hout, hhigh⟩ => ⟨hall, hh, hout, hhigh⟩,
      fun h => ⟨h.all_ready, h.holds, h.outdated, h.highest⟩⟩

/-- The updates of a plan are those of the slots whose instances are ready and outdated. -/
theorem mem_updates_iff {a : Action} :
    a ∈ (d.pending owner l).filter (·.type = .update) ↔ ∃ k i, (d.slots l).holder k = some i ∧
      i.isDeleting = false ∧ i.isReady = true ∧ d.isOutdated i = true ∧
        a = ⟨.update, d.renewedInstance k i, false⟩ := by
  rw [List.mem_filter, decide_eq_true_eq]
  constructor
  · rintro ⟨ha, htype⟩
    cases step_of_mem_pending ha with
    | update hh hdel hready hout => exact ⟨_, _, hh, hdel, hready, hout, rfl⟩
    | create _ _ => cases htype
    | wait _ _ => cases htype
    | delete _ => cases htype
  · rintro ⟨k, i, hh, hdel, hready, hout, rfl⟩
    refine ⟨List.mem_filterMap.2 ⟨k, List.mem_range.2 (d.holder_mem hh).1, ?_⟩, rfl⟩
    simp [hh, slotStep, hdel, hready, hout]

/-- A slot needs nothing but an update exactly when a ready instance holds it. -/
theorem forall_slotStep_update_iff {held : Option Instance} :
    (∀ a, d.slotStep owner k held = some a → a.type = .update) ↔
      ∃ h ∈ held, h.isDeleting = false ∧ h.isReady = true := by
  constructor
  · intro hstep
    cases held with
    | none => cases hstep _ rfl
    | some h =>
      rw [slotStep] at hstep
      split at hstep
      · cases hstep _ rfl
      · next hready => exact ⟨h, rfl, by simpa using hready⟩
  · rintro ⟨h, hh, hdel, hready⟩ a hstep
    rw [Option.mem_def.1 hh, slotStep, hdel, hready, if_neg (by decide)] at hstep
    split at hstep
    · cases hstep
      rfl
    · cases hstep

/-- Nothing is to be created or waited for exactly when all slots are held by ready instances. -/
theorem no_other_step_iff : (d.pending owner l).filter (·.type ≠ .update) = [] ↔
    ∀ j < d.slotCount, ∃ h ∈ (d.slots l).holder j, h.isDeleting = false ∧ h.isReady = true := by
  simp only [List.filter_eq_nil_iff, pending, List.mem_filterMap, List.mem_range]
  constructor
  · intro hnone j hj
    refine (@forall_slotStep_update_iff d owner j _).1 fun a ha => ?_
    simpa using hnone a ⟨j, hj, ha⟩
  · rintro hready a ⟨j, hj, ha⟩
    simp [forall_slotStep_update_iff.2 (hready j hj) a ha]

/-- The first update is that of the highest slot whose instance is ready and outdated. -/
theorem head_updates_iff {a : Action} :
    (descending ((d.pending owner l).filter (·.type = .update))).head? = some a ↔
      ∃ k i, (d.slots l).holder k = some i ∧ i.isDeleting = false ∧ i.isReady = true ∧
        d.isOutdated i = true ∧
        (∀ j, k < j → ∀ h ∈ (d.slots l).holder j, h.isDeleting = false → h.isReady = true →
          d.isOutdated h = false) ∧
        a = ⟨.update, d.renewedInstance k i, false⟩ := by
  constructor
  · intro hhead
    obtain ⟨k, i, hh, hdel, hready, hout, rfl⟩ := mem_updates_iff.1 (mem_of_head_mergeSort hhead)
    refine ⟨k, i, hh, hdel, hready, hout, fun j hkj g hg hgdel hgready => ?_, rfl⟩
    by_contra hgout
    have hle := ordinal_le_head_descending hhead
      (mem_updates_iff.2 ⟨j, g, hg, hgdel, hgready, by simpa using hgout, rfl⟩)
    rw [ordinal_update hg, ordinal_update hh] at hle
    omega
  · rintro ⟨k, i, hh, hdel, hready, hout, hhigh, rfl⟩
    have hmem := (@mem_updates_iff d owner l _).2 ⟨k, i, hh, hdel, hready, hout, rfl⟩
    cases hhead : (descending ((d.pending owner l).filter (·.type = .update))).head? with
    | none =>
      rw [mergeSort_eq_nil_iff.1 (List.head?_eq_none_iff.1 hhead)] at hmem
      cases hmem
    | some b =>
      obtain ⟨j, g, hg, hgdel, hgready, hgout, rfl⟩ :=
        mem_updates_iff.1 (mem_of_head_mergeSort hhead)
      have hle := ordinal_le_head_descending hhead hmem
      rw [ordinal_update hg, ordinal_update hh] at hle
      obtain hjk | rfl : k < j ∨ k = j := by omega
      · rw [hhigh j hjk g hg hgdel hgready] at hgout
        cases hgout
      · cases hg.symm.trans hh
        rfl

/-- What is created or waited for comes before all updates. -/
theorem no_other_step_of_head_update {r : Instance}
    (h : (d.inOrder owner l).head? = some ⟨.update, r, false⟩) :
    (d.pending owner l).filter (·.type ≠ .update) = [] := by
  rw [inOrder, List.append_assoc, List.head?_append] at h
  cases hhead : (ascending ((d.pending owner l).filter (·.type ≠ .update))).head? with
  | none => exact mergeSort_eq_nil_iff.1 (List.head?_eq_none_iff.1 hhead)
  | some a =>
    rw [hhead, Option.some_or] at h
    cases h
    have hmem := mem_of_head_mergeSort hhead
    simp at hmem

theorem type_of_head_removals {a : Action} (h : (descending (d.removals l)).head? = some a) :
    a.type = .delete := by
  obtain ⟨i, -, rfl⟩ := List.mem_map.1 (mem_of_head_mergeSort h)
  rfl

/-- A plan begins with an update exactly when an instance is due, and renews that one. -/
theorem head_inOrder_eq_update_iff {r : Instance} :
    (d.inOrder owner l).head? = some ⟨.update, r, false⟩ ↔
      ∃ k i, d.Due l k i ∧ r = d.renewedInstance k i := by
  have horder (hnone : (d.pending owner l).filter (·.type ≠ .update) = []) :
      (d.inOrder owner l).head? =
        (descending ((d.pending owner l).filter (·.type = .update))).head?.or
          (descending (d.removals l)).head? := by
    have hnil : ascending [] = [] := mergeSort_eq_nil_iff.2 rfl
    rw [inOrder, hnone, hnil, List.nil_append, List.head?_append]
  constructor
  · intro h
    have hnone := no_other_step_of_head_update h
    have hready := no_other_step_iff.1 hnone
    rw [horder hnone, Option.or_eq_some_iff] at h
    obtain h | ⟨-, h⟩ := h
    · obtain ⟨k, i, hh, -, -, hout, hhigh, heq⟩ := head_updates_iff.1 h
      cases heq
      refine ⟨k, i, ⟨hready, hh, hout, fun j hj hkj g hg => ?_⟩, rfl⟩
      obtain ⟨_, hg', hgdel, hgready⟩ := hready j hj
      cases hg.symm.trans hg'
      exact hhigh j hkj g hg hgdel hgready
    · cases type_of_head_removals h
  · rintro ⟨k, i, hdue, rfl⟩
    obtain ⟨_, hh, hdel, hready⟩ := hdue.all_ready k (d.holder_mem hdue.holds).1
    cases hdue.holds.symm.trans hh
    rw [horder (no_other_step_iff.2 hdue.all_ready), head_updates_iff.2 ⟨k, i, hh, hdel, hready,
      hdue.outdated, fun j hkj g hg _ _ => hdue.highest j (d.holder_mem hg).1 hkj g hg, rfl⟩]
    rfl

end Deployment

end ControlPlane
