import ControlPlane.Proofs.Rollout.Partition
import ControlPlane.Proofs.Rollout.Renewal

/-!
# What has to be so before a step is carried out

Only the first step of a plan is carried out, and the order of the plan makes it wait for the slots: an
instance is created only above ready ones, one is updated only among ready ones, and one is deleted only
when every slot is as it should be (`ordered_ready`). Nothing is left to do exactly when every slot is as
it should be and there is no other instance.

* `steady_of_lower`: below the first slot that is filled or waited for, all slots are ready.
* `head_inOrder_cases`: the first step is the lowest of those up, or else the highest update, or else
  the highest deletion.
-/

namespace ControlPlane

namespace Deployment

/-- The instance was written from the current template. -/
def Wrote (d : Deployment) (i : Instance) : Prop :=
  ∃ c, i.spec.control = some c ∧ c.templateHash = d.templateHash

/-- A ready instance that is not being deleted holds the slot. -/
def Steady (d : Deployment) (l : List Instance) (k : Nat) : Prop :=
  ∃ i, d.seated l k = some i ∧ i.isDeleting = false ∧ i.isReady = true

/-- A ready instance that is not being deleted holds the slot, and was written from the current
template. -/
def UpToDate (d : Deployment) (l : List Instance) (k : Nat) : Prop :=
  ∃ i, d.seated l k = some i ∧ i.isDeleting = false ∧ i.isReady = true ∧ d.Wrote i

/-- What has to be so for a step to be carried out. -/
inductive Permits (d : Deployment) (l : List Instance) : ActionType → Instance → Prop
  | create {k : Nat} {i : Instance} (hk : k < d.slotCount) (named : i.name = d.slotName k)
      (vacant : d.seated l k = none) (below : ∀ j < k, d.Steady l j) : Permits d l .create i
  | wait {k : Nat} {i : Instance} (hk : k < d.slotCount) (holds : d.seated l k = some i)
      (unready : i.isDeleting = true ∨ i.isReady = false) (below : ∀ j < k, d.Steady l j) :
      Permits d l .wait i
  | update {k : Nat} {i : Instance} (hk : k < d.slotCount) (holds : d.seated l k = some i)
      (outdated : ¬ d.Wrote i) (steady : ∀ j < d.slotCount, d.Steady l j)
      (above : ∀ j < d.slotCount, k < j → d.UpToDate l j) :
      Permits d l .update (d.renewedInstance k i)
  | delete {i : Instance} (hi : i ∈ l) (unseated : ∀ k, d.seated l k ≠ some i)
      (upToDate : ∀ j < d.slotCount, d.UpToDate l j)
      (highest : ∀ x ∈ l, (∀ k, d.seated l k ≠ some x) → ordinal x.name ≤ ordinal i.name) :
      Permits d l .delete i

variable {d : Deployment} {owner : OwnerReference} {l : List Instance} {k : Nat} {i : Instance}
  {actions : List Action} {a : Action}

/-! ## What a slot needs -/

theorem wrote_iff : d.Wrote i ↔ d.isOutdated i = false := by
  unfold isOutdated Wrote
  cases i.spec.control <;> simp

theorem isOutdated_iff_not_wrote : d.isOutdated i = true ↔ ¬ d.Wrote i := by
  rw [wrote_iff, Bool.not_eq_false]

theorem steady_iff : d.Steady l k ↔
    ∃ h ∈ (d.slots l).holder k, h.isDeleting = false ∧ h.isReady = true := by
  simp [Steady, holder_slots]

/-- A slot needs nothing exactly when it is as it should be. -/
theorem slotStep_eq_none_iff :
    d.slotStep owner k ((d.slots l).holder k) = none ↔ d.UpToDate l k := by
  rw [holder_slots]
  unfold UpToDate
  cases d.seated l k with
  | none => simp [slotStep]
  | some i =>
    simp only [slotStep, wrote_iff]
    cases hdel : i.isDeleting <;> cases hready : i.isReady <;> cases hout : d.isOutdated i <;>
      simp [hdel, hready, hout]

/-- A slot that needs at most an update is held by a ready instance. -/
theorem steady_of_slotStep
    (h : ∀ a, d.slotStep owner k ((d.slots l).holder k) = some a → a.type = .update) :
    d.Steady l k :=
  steady_iff.2 (forall_slotStep_update_iff.1 h)

/-! ## The first step -/

theorem head_inOrder_cases (h : (d.inOrder owner l).head? = some a) :
    (ascending ((d.pending owner l).filter (·.type ≠ .update))).head? = some a ∨
      (d.pending owner l).filter (·.type ≠ .update) = [] ∧
        ((descending ((d.pending owner l).filter (·.type = .update))).head? = some a ∨
          (d.pending owner l).filter (·.type = .update) = [] ∧
            (descending (d.removals l)).head? = some a) := by
  rw [inOrder, List.append_assoc, List.head?_append, List.head?_append, Option.or_eq_some_iff,
    Option.or_eq_some_iff, List.head?_eq_none_iff, List.head?_eq_none_iff] at h
  obtain h | ⟨hup, h⟩ := h
  · exact .inl h
  · refine .inr ⟨mergeSort_eq_nil_iff.1 hup, ?_⟩
    obtain h | ⟨hupdates, h⟩ := h
    · exact .inl h
    · exact .inr ⟨mergeSort_eq_nil_iff.1 hupdates, h⟩

/-- Below the first slot that is filled or waited for, all slots are ready. -/
theorem steady_of_lower (hk : k < d.slotCount)
    (ha : (ascending ((d.pending owner l).filter (·.type ≠ .update))).head? = some a)
    (hordinal : a.ordinal = k) : ∀ j < k, d.Steady l j := by
  intro j hj
  have hj' : j < d.slotCount := by omega
  refine @steady_of_slotStep d owner l j fun b hb => ?_
  by_contra htype
  -- the step of the lower slot would come first
  have hmem : b ∈ (d.pending owner l).filter (·.type ≠ .update) := by
    refine List.mem_filter.2 ⟨List.mem_filterMap.2 ⟨j, List.mem_range.2 hj', hb⟩, ?_⟩
    simpa using htype
  have hle := head_ascending_le_ordinal ha hmem
  rw [hordinal, ordinal_of_slotStep hj' hb] at hle
  omega

/-- What is filled or waited for first. -/
theorem permits_of_head_up
    (ha : (ascending ((d.pending owner l).filter (·.type ≠ .update))).head? = some a) :
    d.Permits l a.type a.target := by
  obtain ⟨hpending, htype⟩ := List.mem_filter.1 (mem_of_head_mergeSort ha)
  obtain ⟨k, hk, hstep⟩ := List.mem_filterMap.1 hpending
  rw [List.mem_range] at hk
  have hbelow := steady_of_lower hk ha (ordinal_of_slotStep hk hstep)
  rw [holder_slots] at hstep
  cases hseated : d.seated l k with
  | none =>
    rw [hseated] at hstep
    cases hstep
    exact .create hk rfl hseated hbelow
  | some i =>
    rw [hseated, slotStep] at hstep
    split at hstep
    · next hunready =>
      cases hstep
      exact .wait hk hseated (by simpa using hunready) hbelow
    · split at hstep
      · cases hstep
        simp at htype
      · cases hstep

/-- What is updated first, where nothing is to be filled or waited for. -/
theorem permits_of_head_update
    (hup : (d.pending owner l).filter (·.type ≠ .update) = [])
    (ha : (descending ((d.pending owner l).filter (·.type = .update))).head? = some a) :
    d.Permits l a.type a.target := by
  have hready := no_other_step_iff.1 hup
  obtain ⟨k, i, hh, -, -, hout, hhigh, rfl⟩ := head_updates_iff.1 ha
  refine .update (d.holder_mem hh).1 ((d.holder_slots l k).symm.trans hh)
    (isOutdated_iff_not_wrote.1 hout) (fun j hj => steady_iff.2 (hready j hj)) fun j hj hkj => ?_
  obtain ⟨h, hheld, hdel, hrdy⟩ := hready j hj
  exact ⟨h, (d.holder_slots l j).symm.trans hheld, hdel, hrdy,
    wrote_iff.2 (hhigh j hkj h hheld hdel hrdy)⟩

/-- What is deleted first, where the slots need nothing. -/
theorem permits_of_head_delete (hl : (l.map (·.name)).Nodup)
    (hup : (d.pending owner l).filter (·.type ≠ .update) = [])
    (hupdates : (d.pending owner l).filter (·.type = .update) = [])
    (ha : (descending (d.removals l)).head? = some a) : d.Permits l a.type a.target := by
  obtain ⟨i, hi, rfl⟩ := List.mem_map.1 (mem_of_head_mergeSort ha)
  obtain ⟨himem, hunseated⟩ := (mem_surplus_iff hl).1 hi
  refine .delete himem hunseated (fun j hj => ?_) fun x hx hxs => ?_
  · rw [← slotStep_eq_none_iff, Option.eq_none_iff_forall_not_mem]
    · intro b hb
      have hpending : b ∈ d.pending owner l := List.mem_filterMap.2 ⟨j, List.mem_range.2 hj, hb⟩
      by_cases htype : b.type = .update
      · exact List.filter_eq_nil_iff.1 hupdates b hpending (decide_eq_true htype)
      · exact List.filter_eq_nil_iff.1 hup b hpending (decide_eq_true htype)
  · have hmem : (⟨.delete, x, false⟩ : Action) ∈ d.removals l :=
      List.mem_map.2 ⟨x, (mem_surplus_iff hl).2 ⟨hx, hxs⟩, rfl⟩
    have hle := ordinal_le_head_descending ha hmem
    rwa [Action.ordinal, Action.ordinal] at hle

theorem permits_of_head (hl : (l.map (·.name)).Nodup) (h : (d.inOrder owner l).head? = some a) :
    d.Permits l a.type a.target := by
  obtain ha | ⟨hup, ha | ⟨hupdates, ha⟩⟩ := head_inOrder_cases h
  · exact permits_of_head_up ha
  · exact permits_of_head_update hup ha
  · exact permits_of_head_delete hl hup hupdates ha

/-! ## Plans -/

/-- The steps of a plan that are not left for later: there is none but the first. -/
theorem mem_unskipped_iff (h : d.plan l = .ok actions) :
    a ∈ actions ∧ a.skipped = false ↔ actions.head? = some a := by
  have hparts {n : Nat} {b : Action} (hn : actions[n]? = some b) : b.skipped = false ↔ n = 0 := by
    obtain ⟨owner, -, rfl⟩ := exists_plan_eq h
    exact skipped_skipAllButFirst (fun a ha => skipped_of_step (step_of_mem_inOrder ha)) hn
  rw [List.head?_eq_getElem?]
  constructor
  · rintro ⟨hmem, hskipped⟩
    obtain ⟨n, hn⟩ := List.mem_iff_getElem?.1 hmem
    obtain rfl := (hparts hn).1 hskipped
    exact hn
  · intro hhead
    exact ⟨List.mem_of_getElem? hhead, (hparts hhead).2 rfl⟩

/-- A rollout waits for the slots: of the steps of a plan the first is the one that is carried out, and
it is one that the slots permit. Nothing is left to do exactly when every slot is as it should be and all
instances hold slots. -/
theorem ordered_ready (hl : (l.map (·.name)).Nodup) (h : d.plan l = .ok actions) :
    (∀ a, (a ∈ actions ∧ a.skipped = false ↔ actions.head? = some a) ∧
      (actions.head? = some a → d.Permits l a.type a.target)) ∧
    (actions = [] ↔ (∀ k < d.slotCount, d.UpToDate l k) ∧
      ∀ i ∈ l, ∃ k < d.slotCount, d.seated l k = some i) := by
  refine ⟨fun a => ⟨mem_unskipped_iff h, fun ha => ?_⟩, ?_⟩
  · obtain ⟨owner, -, rfl⟩ := exists_plan_eq h
    rw [head?_skipAllButFirst] at ha
    exact permits_of_head hl ha
  · obtain ⟨owner, -, rfl⟩ := exists_plan_eq h
    rw [skipAllButFirst_eq_nil_iff, inOrder_eq_nil_iff]
    refine and_congr (forall₂_congr fun k _ => slotStep_eq_none_iff) ?_
    rw [List.eq_nil_iff_forall_not_mem]
    refine ⟨fun hnone i hi => ?_, fun hall i hi => ?_⟩
    · refine mem_holders.1 ((mem_holders_or_mem_surplus hi).resolve_right (hnone i))
    · obtain ⟨himem, hunseated⟩ := (mem_surplus_iff hl).1 hi
      obtain ⟨k, -, hseated⟩ := hall i himem
      exact hunseated k hseated

/-- The first slot is vacant, so the instance for it is created before anything else is done. -/
theorem ordered_ready_strays :
    (strays.map (·.name)).Nodup ∧ ∃ actions a, twoSlots.plan strays = .ok actions ∧
      actions.head? = some a ∧ a.skipped = false ∧ a.type = .create ∧ a.target.name = "web-0" := by
  have hnames : (strays.map (·.name)).Nodup := by decide
  obtain ⟨owner, howner⟩ := exists_owner (d := twoSlots) rfl rfl
  have hplan := plan_eq howner strays
  obtain ⟨hfirst, hnil⟩ := ordered_ready hnames hplan
  have hvacant : twoSlots.seated strays 0 = none := by rfl
  have hunsteady : ¬ twoSlots.Steady strays 0 := by
    rintro ⟨i, hseated, -⟩
    cases hvacant.symm.trans hseated
  cases hhead : (skipAllButFirst (twoSlots.inOrder owner strays)).head? with
  | none =>
    obtain ⟨i, hseated, hdel, hready, -⟩ := (hnil.1 (List.head?_eq_none_iff.1 hhead)).1 0 (by decide)
    exact absurd ⟨i, hseated, hdel, hready⟩ hunsteady
  | some a =>
    refine ⟨hnames, _, a, hplan, hhead, ((hfirst a).1.2 hhead).2, ?_⟩
    obtain ⟨type, target, skipped⟩ := a
    cases (hfirst _).2 hhead with
    | @create k _ hk named vacant below =>
      obtain rfl | hpos := Nat.eq_zero_or_pos k
      · exact ⟨rfl, named⟩
      · exact absurd (below 0 hpos) hunsteady
    | @wait k _ hk holds unready below =>
      obtain rfl | hpos := Nat.eq_zero_or_pos k
      · cases hvacant.symm.trans holds
      · exact absurd (below 0 hpos) hunsteady
    | update hk holds outdated steady above => exact absurd (steady 0 (by decide)) hunsteady
    | delete hi unseated upToDate highest =>
      obtain ⟨i, hseated, hdel, hready, -⟩ := upToDate 0 (by decide)
      exact absurd ⟨i, hseated, hdel, hready⟩ hunsteady

end Deployment

end ControlPlane
