import ControlPlane.Proofs.Deployment.Conflict
import ControlPlane.Proofs.Server.Footprint
import ControlPlane.Proofs.Teardown.Script

/-!
# What passes do to parents and children

A workload is the parent of deployments, and a deployment of instances. A pass makes children only of
a parent that holds its finalizer and is not being deleted, and marks them with the parent's uid. It
writes the finalizers of no other object than the one it is made on, to take its own finalizer or to
give it up at the end of a teardown.

* `OwnerSafe`: how the calls of a pass deal with parents and children. `Task.meets_ownerSafe` has it
  of every pass.
-/

namespace ControlPlane

open Pass (perform)

/-- The object holds the finalizer and is not being deleted. -/
def Resource.Holds {Spec Status : Type} (r : Resource Spec Status) (finalizer : String) : Prop :=
  r.isDeleting = false ∧ finalizer ∈ r.finalizers

/-- A pass writes these finalizers to take its own, or to give it up in a teardown. -/
def Resource.MaySet {Spec Status : Type} (r : Resource Spec Status) (finalizer : String)
    (finalizers : List String) : Prop :=
  r.isDeleting = false ∧ finalizer ∉ r.finalizers ∧ finalizer ∈ finalizers ∨
    r.isDeleting = true ∧ finalizer ∈ r.finalizers

/-- The finalizer of an object that holds it is not written by a pass that has read it so. -/
theorem Resource.Holds.not_maySet {Spec Status : Type} {r : Resource Spec Status}
    {finalizer : String} {finalizers : List String} (h : r.Holds finalizer) :
    ¬ r.MaySet finalizer finalizers := by
  rintro (⟨-, hnot, -⟩ | ⟨hdel, -⟩)
  · exact hnot h.2
  · rw [h.1] at hdel
    cases hdel

/-- What a pass does to parents and children, after what it has asked and was told. -/
def OwnerSafe (task : Task) (log : List Exchange) : Call → Prop
  | .setWorkloadFinalizers w finalizers =>
      task = .workload w ∧ w.MaySet Workload.finalizer finalizers
  | .createDeployment d => ∃ w, task = .workload w ∧ w.Holds Workload.finalizer ∧
      ∃ locations wanted, w.desired locations = .ok wanted ∧ d ∈ wanted
  | .replaceDeployment r => ∃ w, task = .workload w ∧ w.Holds Workload.finalizer ∧
      ∃ locations wanted d o, w.desired locations = .ok wanted ∧ d ∈ wanted ∧
        ⟨.getDeployment w.namespaceName d.name, some o⟩ ∈ log ∧ r = Workload.adopted o d
  | .setDeploymentFinalizers d finalizers =>
      task = .deployment d ∧ d.MaySet Deployment.finalizer finalizers
  | .createInstance i => ∃ d uid, task = .deployment d ∧ d.Holds Deployment.finalizer ∧
      d.metadata.uid = some uid ∧ ∃ k owner, (∀ o, d.requireOwner = .ok o → owner = o) ∧
        i = d.newInstance k owner
  | .replaceInstance r => ∃ d uid, task = .deployment d ∧ d.Holds Deployment.finalizer ∧
      d.metadata.uid = some uid ∧ ∃ l i k, ⟨.listInstances d.namespaceName uid, l⟩ ∈ log ∧
        i ∈ l ∧ r = d.renewedInstance k i
  | _ => True

namespace Workload

variable {w : Workload} {now : Instant} {log : List Exchange}

theorem tearDown_meets_ownerSafe (hdel : w.isDeleting = true) :
    w.tearDown.Meets (OwnerSafe (.workload w)) (fun _ _ => True) [] := by
  by_cases h : finalizer ∈ w.finalizers
  · rw [tearDown_eq h]
    refine Script.meets_pass trivial fun l c hc log => ?_
    obtain rfl | ⟨d, rfl⟩ := Script.mem_rest_tearDown hc
    · exact ⟨rfl, .inr ⟨hdel, h⟩⟩
    · trivial
  · rw [tearDown, withoutFinalizer, if_neg h]
    trivial

theorem meets_ownerSafe :
    (w.reconcile now).Meets (OwnerSafe (.workload w)) (fun _ _ => True) [] := by
  refine w.meets_reconcile_of now (fun _ c hc => by cases c <;> trivial) tearDown_meets_ownerSafe
    (fun finalizers hdel hf => ?_) fun hdel hmem locations log => ?_
  · rw [withFinalizer] at hf
    split at hf
    · cases hf
    · next hnot =>
      cases hf
      exact ⟨rfl, .inl ⟨hdel, hnot, List.mem_append_right _ List.mem_cons_self⟩⟩
  · refine w.meets_expand_of now (fun _ c hc => by cases c <;> trivial) (fun _ _ => trivial)
      fun wanted hwanted d hd log => ?_
    exact meets_upsert_of trivial (fun _ => ⟨w, rfl, ⟨hdel, hmem⟩, locations, wanted, hwanted, hd⟩)
      fun o _ ho => ⟨w, rfl, ⟨hdel, hmem⟩, locations, wanted, d, o, hwanted, hd, ho, rfl⟩

end Workload

namespace Deployment

variable {d : Deployment} {uid : String} {now : Instant} {log : List Exchange}

theorem tearDown_meets_ownerSafe (hdel : d.isDeleting = true) :
    d.tearDown.Meets (OwnerSafe (.deployment d)) (fun _ _ => True) [] := by
  by_cases h : finalizer ∈ d.finalizers
  · cases huid : d.metadata.uid with
    | some uid =>
      rw [tearDown_eq huid h]
      refine Script.meets_pass trivial fun l c hc log => ?_
      obtain rfl | ⟨i, rfl⟩ := Script.mem_rest_tearDown hc
      · exact ⟨rfl, .inr ⟨hdel, h⟩⟩
      · trivial
    | none =>
      rw [tearDown, withoutFinalizer, if_pos h]
      simp only [finalize, requireUid, huid]
      trivial
  · rw [tearDown, withoutFinalizer, if_neg h]
    trivial

theorem execute_meets_ownerSafe {owner : OwnerReference} {l : List Instance} {a : Action}
    (hd : d.Holds finalizer) (huid : d.metadata.uid = some uid)
    (howner : ∀ o, d.requireOwner = .ok o → owner = o)
    (hl : ⟨.listInstances d.namespaceName uid, l⟩ ∈ log) (ha : Step d owner l a) :
    a.execute.Meets (OwnerSafe (.deployment d)) (fun _ _ => True) log := by
  cases ha with
  | @create k _ _ => exact ⟨⟨d, uid, rfl, hd, huid, k, owner, howner, rfl⟩, fun _ => trivial⟩
  | wait _ _ => trivial
  | @update k i hh _ _ _ =>
    exact ⟨⟨d, uid, rfl, hd, huid, l, i, k, hl, (holder_mem d hh).2.1, rfl⟩, fun _ => trivial⟩
  | delete _ => exact ⟨trivial, fun _ => trivial⟩

theorem meets_ownerSafe :
    (d.reconcile now).Meets (OwnerSafe (.deployment d)) (fun _ _ => True) [] := by
  refine d.meets_reconcile_of now tearDown_meets_ownerSafe (fun finalizers hdel hf => ?_)
    fun hdel hmem => ?_
  · rw [withFinalizer] at hf
    split at hf
    · cases hf
    · next hnot =>
      cases hf
      exact ⟨rfl, .inl ⟨hdel, hnot, List.mem_append_right _ List.mem_cons_self⟩⟩
  · refine d.meets_rollOut_of now
      (fun _ => d.only_stageNetworks.meets fun _ c hc => by cases c <;> trivial) (fun _ _ _ => trivial)
      (fun uid l actions log huid hl hplan => ?_) (fun _ _ _ => trivial) fun _ _ _ => trivial
    obtain ⟨owner, howner, rfl⟩ := exists_plan_eq hplan
    rw [forEach_execute_skipAllButFirst]
    split
    · trivial
    · next a ha =>
      exact execute_meets_ownerSafe ⟨hdel, hmem⟩ huid howner hl
        (step_of_head ((head?_skipAllButFirst _).trans ha))

end Deployment

theorem Task.meets_ownerSafe (task : Task) (now : Instant) :
    (task.pass now).Meets (OwnerSafe task) (fun _ _ => True) [] := by
  cases task with
  | workload w => exact Workload.meets_ownerSafe
  | scheduling d => exact (d.only_schedule now).meets fun _ c hc => by cases c <;> trivial
  | deployment d => exact Deployment.meets_ownerSafe
  | inst i => exact (i.only_reconcile now).meets fun _ c hc => by cases c <;> trivial

end ControlPlane
