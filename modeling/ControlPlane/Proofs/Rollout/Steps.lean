import Mathlib.Data.List.Perm.Basic
import ControlPlane.Proofs.Rollout.Seating

/-!
# The steps of a plan

A deployment that can own its instances always has a plan (`plan_eq`). It holds one step for each
slot that needs one and one for each surplus instance, and the order in which they stand does not
matter to what they are (`inOrder_perm`).

* `length_plan`: the plan is as long as the slots in need and the surplus together.
* `head_plan`: the step that is carried out is one of these.
* `plan_eq_nil_iff`: nothing is left to do exactly when no slot is in need and nobody is surplus.
* `exists_plan_eq`: a plan that comes about without an owner is made of the same steps.
-/

namespace ControlPlane

namespace Deployment

variable (d : Deployment)

/-- What a slot needs of a deployment that can own what it creates. -/
def slotStep (owner : OwnerReference) (slot : Nat) : Option Instance → Option Action
  | none => some ⟨.create, d.newInstance slot owner, false⟩
  | some i =>
    if i.isDeleting || !i.isReady then some ⟨.wait, i, false⟩
    else if d.isOutdated i then some ⟨.update, d.renewedInstance slot i, false⟩
    else none

/-- What the slots need, from the lowest up. -/
def pending (owner : OwnerReference) (l : List Instance) : List Action :=
  (List.range d.slotCount).filterMap fun k => d.slotStep owner k ((d.slots l).holder k)

/-- The deletions of the surplus. -/
def removals (l : List Instance) : List Action :=
  (d.slots l).surplus.map fun i => ⟨.delete, i, false⟩

/-- The steps of a plan, each as if it were the first. -/
def inOrder (owner : OwnerReference) (l : List Instance) : List Action :=
  ascending ((d.pending owner l).filter (·.type ≠ .update)) ++
    descending ((d.pending owner l).filter (·.type = .update)) ++ descending (d.removals l)

variable {d} {owner : OwnerReference}

theorem slotAction_some (owner : OwnerReference) (k : Nat) (i : Instance) :
    d.slotAction k (some i) = .ok (d.slotStep owner k (some i)) := by
  simp only [slotAction, slotStep]
  split
  · rfl
  · split <;> rfl

theorem slotAction_eq (h : d.requireOwner = .ok owner) (k : Nat) (i : Option Instance) :
    d.slotAction k i = .ok (d.slotStep owner k i) := by
  cases i with
  | none => rw [slotAction, h]; rfl
  | some i => exact slotAction_some owner k i

theorem slotActions_eq (h : d.requireOwner = .ok owner) (holder : Nat → Option Instance)
    (ks : List Nat) :
    d.slotActions holder ks = .ok (ks.filterMap fun k => d.slotStep owner k (holder k)) := by
  induction ks with
  | nil => rfl
  | cons k rest ih =>
    rw [slotActions, slotAction_eq h, ih, List.filterMap_cons]
    cases d.slotStep owner k (holder k) <;> rfl

/-- The plan of a deployment that can own its instances. -/
theorem plan_eq (h : d.requireOwner = .ok owner) (l : List Instance) :
    d.plan l = .ok (skipAllButFirst (d.inOrder owner l)) := by
  have hs := slotActions_eq h (d.slots l).holder (List.range d.slotCount)
  unfold plan
  cases d.spec.scale.policy
  simp only [orderedPlan, hs]
  rfl

theorem exists_owner {name uid : String} (hn : d.metadata.name = some name)
    (hu : d.metadata.uid = some uid) : ∃ owner, d.requireOwner = .ok owner := by
  simp [requireOwner, Resource.controllerReference?, Resource.ownerReference?, hn, hu]

/-! ## Which steps there are -/

/-- The steps that a plan can hold. -/
inductive Step (d : Deployment) (owner : OwnerReference) (l : List Instance) : Action → Prop
  | create {k : Nat} (hk : k < d.slotCount) (hv : (d.slots l).holder k = none) :
    Step d owner l ⟨.create, d.newInstance k owner, false⟩
  | wait {k : Nat} {i : Instance} (hh : (d.slots l).holder k = some i)
      (hw : i.isDeleting = true ∨ i.isReady = false) : Step d owner l ⟨.wait, i, false⟩
  | update {k : Nat} {i : Instance} (hh : (d.slots l).holder k = some i)
      (hd : i.isDeleting = false) (hr : i.isReady = true) (ho : d.isOutdated i = true) :
    Step d owner l ⟨.update, d.renewedInstance k i, false⟩
  | delete {i : Instance} (hi : i ∈ (d.slots l).surplus) : Step d owner l ⟨.delete, i, false⟩

theorem skipped_of_step {l : List Instance} {a : Action} (h : Step d owner l a) :
    a.skipped = false := by
  cases h <;> rfl

theorem step_of_mem_pending {l : List Instance} {a : Action} (ha : a ∈ d.pending owner l) :
    Step d owner l a := by
  obtain ⟨k, hk, hs⟩ := List.mem_filterMap.1 ha
  cases hh : (d.slots l).holder k with
  | none =>
    rw [hh] at hs
    cases hs
    exact .create (List.mem_range.1 hk) hh
  | some i =>
    rw [hh, slotStep] at hs
    split at hs
    · next hw =>
      cases hs
      exact .wait hh (by simpa using hw)
    · next hw =>
      split at hs
      · next ho =>
        cases hs
        rw [Bool.not_eq_true, Bool.or_eq_false_iff, Bool.not_eq_false'] at hw
        exact .update hh hw.1 hw.2 ho
      · cases hs

theorem step_of_mem_removals {l : List Instance} {a : Action} (ha : a ∈ d.removals l) :
    Step d owner l a := by
  obtain ⟨i, hi, rfl⟩ := List.mem_map.1 ha
  exact .delete hi

/-- Putting the steps in order neither loses one nor makes one up. -/
theorem inOrder_perm (l : List Instance) :
    (d.inOrder owner l).Perm (d.pending owner l ++ d.removals l) := by
  have hu := List.mergeSort_perm ((d.pending owner l).filter (·.type ≠ .update))
    fun a b => a.ordinal ≤ b.ordinal
  have hd := List.mergeSort_perm ((d.pending owner l).filter (·.type = .update))
    fun a b => b.ordinal ≤ a.ordinal
  have hr := List.mergeSort_perm (d.removals l) fun a b => b.ordinal ≤ a.ordinal
  have hp : ((d.pending owner l).filter (·.type ≠ .update) ++
      (d.pending owner l).filter (·.type = .update)).Perm (d.pending owner l) := by
    refine List.perm_append_comm.trans ?_
    simpa using List.filter_append_perm (·.type = .update) (d.pending owner l)
  exact ((hu.append hd).trans hp).append hr

theorem length_skipAllButFirst (l : List Action) : (skipAllButFirst l).length = l.length := by
  cases l <;> simp [skipAllButFirst]

theorem head?_skipAllButFirst (l : List Action) : (skipAllButFirst l).head? = l.head? := by
  cases l <;> rfl

/-- A plan is as long as the slots in need and the surplus together. -/
theorem length_plan (h : d.requireOwner = .ok owner) {l : List Instance} {actions : List Action}
    (hp : d.plan l = .ok actions) :
    actions.length = (d.pending owner l).length + (d.slots l).surplus.length := by
  rw [plan_eq h] at hp
  cases hp
  rw [length_skipAllButFirst, (inOrder_perm l).length_eq, List.length_append, removals,
    List.length_map]

theorem step_of_mem_inOrder {l : List Instance} {a : Action} (ha : a ∈ d.inOrder owner l) :
    Step d owner l a := by
  obtain ha | ha := List.mem_append.1 ((inOrder_perm l).subset ha)
  · exact step_of_mem_pending ha
  · exact step_of_mem_removals ha

theorem step_of_head {l : List Instance} {a : Action}
    (ha : (skipAllButFirst (d.inOrder owner l)).head? = some a) : Step d owner l a := by
  rw [head?_skipAllButFirst] at ha
  exact step_of_mem_inOrder (List.mem_of_head? ha)

/-- The step that is carried out is what a slot needs or deletes one of the surplus. -/
theorem head_plan (h : d.requireOwner = .ok owner) {l : List Instance} {actions : List Action}
    (hp : d.plan l = .ok actions) {a : Action} (ha : actions.head? = some a) :
    Step d owner l a := by
  rw [plan_eq h] at hp
  cases hp
  exact step_of_head ha

/-- Nothing is left to do exactly when no slot is in need and nobody is surplus. -/
theorem inOrder_eq_nil_iff {l : List Instance} : d.inOrder owner l = [] ↔
    (∀ k < d.slotCount, d.slotStep owner k ((d.slots l).holder k) = none) ∧
      (d.slots l).surplus = [] := by
  have hpending : d.pending owner l = [] ↔
      ∀ k < d.slotCount, d.slotStep owner k ((d.slots l).holder k) = none := by
    simp [pending, List.filterMap_eq_nil_iff]
  have hlength := (@inOrder_perm d owner l).length_eq
  rw [← hpending, ← List.length_eq_zero_iff, hlength, List.length_append, Nat.add_eq_zero_iff,
    List.length_eq_zero_iff, List.length_eq_zero_iff, removals, List.map_eq_nil_iff]

theorem skipAllButFirst_eq_nil_iff {actions : List Action} :
    skipAllButFirst actions = [] ↔ actions = [] := by
  cases actions <;> simp [skipAllButFirst]

theorem plan_eq_nil_iff (h : d.requireOwner = .ok owner) {l : List Instance} :
    d.plan l = .ok [] ↔
      (∀ k < d.slotCount, d.slotStep owner k ((d.slots l).holder k) = none) ∧
        (d.slots l).surplus = [] := by
  rw [plan_eq h, Except.ok.injEq, skipAllButFirst_eq_nil_iff, inOrder_eq_nil_iff]

/-! ## Plans of any deployment -/

theorem slotActions_eq_of_ok {e : Error} (he : d.requireOwner = .error e)
    {holder : Nat → Option Instance} {ks : List Nat} {actions : List Action}
    (h : d.slotActions holder ks = .ok actions) :
    actions = ks.filterMap fun k => d.slotStep owner k (holder k) := by
  induction ks generalizing actions with
  | nil =>
    cases h
    rfl
  | cons k rest ih =>
    rw [slotActions] at h
    cases hh : holder k with
    | none =>
      rw [hh, slotAction, he] at h
      cases h
    | some i =>
      cases hr : d.slotActions holder rest with
      | error e' =>
        rw [hh, slotAction_some owner, hr] at h
        cases h
      | ok others =>
        rw [hh, slotAction_some owner, hr] at h
        cases h
        rw [List.filterMap_cons, hh, ← ih hr]
        cases d.slotStep owner k (some i) <;> rfl

/-- A plan, if there is one, is that of an owner; a deployment that cannot own its instances has one
when none is to be created. -/
theorem exists_plan_eq {l : List Instance} {actions : List Action} (hp : d.plan l = .ok actions) :
    ∃ owner, (∀ o, d.requireOwner = .ok o → owner = o) ∧
      actions = skipAllButFirst (d.inOrder owner l) := by
  cases ho : d.requireOwner with
  | ok owner =>
    rw [plan_eq ho] at hp
    exact ⟨owner, fun _ h => Except.ok.inj h, (Except.ok.inj hp).symm⟩
  | error e =>
    refine ⟨{}, nofun, ?_⟩
    unfold plan at hp
    cases d.spec.scale.policy
    simp only [orderedPlan] at hp
    cases hs : d.slotActions (d.slots l).holder (List.range d.slotCount) with
    | error e' =>
      rw [hs] at hp
      cases hp
    | ok pending =>
      rw [hs] at hp
      cases hp
      rw [slotActions_eq_of_ok ho hs]
      rfl

end Deployment

end ControlPlane
