import ControlPlane.Proofs.Server.Exchanges
import ControlPlane.Reconcile.Deployment
import ControlPlane.Reconcile.Instance
import ControlPlane.Reconcile.Schedule
import ControlPlane.Reconcile.Workload

/-!
# Which calls a pass makes

Each controller makes calls of a few sorts only, whatever it is answered. Of the pass on a deployment
only two parts are looked at here: the one that stages the networks, and the one that tears down.
-/

namespace ControlPlane

open Pass (perform)

namespace Call

/-- The calls of a pass on a workload. -/
def byWorkload : Call → Bool
  | .getNetwork .. | .listLocations | .getDeployment .. | .listDeployments .. | .createDeployment _
  | .replaceDeployment _ | .deleteDeployment _ | .patchWorkloadStatus ..
  | .setWorkloadFinalizers .. => true
  | _ => false

/-- The calls with which the deployments of a workload are made what it wants. -/
def byExpansion : Call → Bool
  | .getDeployment .. | .listDeployments .. | .createDeployment _ | .replaceDeployment _
  | .deleteDeployment _ | .patchWorkloadStatus .. => true
  | _ => false

/-- The calls with which a pass on a workload looks around and reports what it sees. -/
def surveys : Call → Bool
  | .getNetwork .. | .listLocations | .listDeployments .. | .patchWorkloadStatus .. => true
  | _ => false

/-- The calls with which a workload is torn down. -/
def byWorkloadTearDown : Call → Bool
  | .listDeployments .. | .deleteDeployment _ | .setWorkloadFinalizers .. => true
  | _ => false

/-- The calls of a pass of the scheduler. -/
def byScheduler : Call → Bool
  | .listLocations | .patchDeploymentStatus .. => true
  | _ => false

/-- The calls of a pass on an instance. -/
def byInstance : Call → Bool
  | .getNetworkBinding .. | .getDeployment .. | .patchInstanceStatus .. => true
  | _ => false

/-- The calls with which the instances of a deployment are brought up to date. -/
def byRollout : Call → Bool
  | .createInstance _ | .replaceInstance _ | .deleteInstance _ => true
  | _ => false

/-- The calls with which a context is found a subnet. -/
def bySubnets : Call → Bool
  | .getNetworkContext .. | .listSubnetClaims _ | .createSubnetClaim _ | .getSubnet .. => true
  | _ => false

/-- The calls with which the networks of a deployment are staged. -/
def byStager : Call → Bool
  | .getNetworkBinding .. | .createNetworkBinding _ | .getNetworkContext .. | .listSubnetClaims _
  | .createSubnetClaim _ | .getSubnet .. => true
  | _ => false

/-- The calls with which a deployment is torn down. -/
def byTearDown : Call → Bool
  | .listInstances .. | .deleteInstance _ | .setDeploymentFinalizers .. => true
  | _ => false

end Call

/-- No finalizer is missing. -/
theorem mem_of_withFinalizer {finalizer : String} {current : List String}
    (h : withFinalizer finalizer current = none) : finalizer ∈ current := by
  rw [withFinalizer] at h
  split at h
  · assumption
  · cases h

namespace Workload

variable {q : Call → Bool}

theorem only_missingNetworks (hq : ∀ ns name, q (.getNetwork ns name) = true)
    (keys : List String) : (missingNetworks keys).Only q := by
  induction keys with
  | nil => exact Pass.only_done _
  | cons key rest ih =>
    rw [missingNetworks]
    split
    · exact ih
    · refine Pass.Only.bind (Pass.only_perform (hq _ _)) fun found => ?_
      exact ih.bind fun missing => Pass.only_done _

variable (w : Workload) (now : Instant)

theorem only_ownDeployments (hq : ∀ ns uid, q (.listDeployments ns uid) = true) :
    w.ownDeployments.Only q :=
  Pass.Only.bind (Pass.only_perform (hq _ _)) fun _ => Pass.only_done _

theorem only_tearDown : w.tearDown.Only Call.byWorkloadTearDown := by
  rw [tearDown]
  split
  · exact Pass.only_done _
  · refine Pass.Only.bind ?_ fun finalized => ?_
    · refine (w.only_ownDeployments fun _ _ => rfl).bind fun deployments => ?_
      refine Pass.Only.bind (Pass.only_forEach fun d _ => Pass.only_perform rfl) fun _ => ?_
      exact Pass.only_done _
    · split
      · exact Pass.Only.bind (Pass.only_perform rfl) fun _ => Pass.only_done _
      · exact Pass.only_done _

theorem only_reportUnavailable (hq : ∀ w status, q (.patchWorkloadStatus w status) = true)
    (reason message : String) : (w.reportUnavailable now reason message).Only q := by
  unfold reportUnavailable
  simp only
  split
  · exact Pass.only_perform (hq _ _)
  · exact Pass.only_done _

theorem only_upsert (ns : String) (wanted : Deployment) :
    (upsert ns wanted).Only Call.byExpansion := by
  refine Pass.Only.bind (Pass.only_perform rfl) fun found => ?_
  split
  · exact Pass.only_perform rfl
  · split
    · exact Pass.only_done _
    · exact Pass.only_perform rfl

theorem only_expand (locations : List Location) :
    (w.expand now locations).Only Call.byExpansion := by
  refine (Pass.only_ofExcept _).bind fun wanted => ?_
  refine (w.only_ownDeployments fun _ _ => rfl).bind fun existing => ?_
  refine Pass.Only.bind (Pass.only_forEach fun d _ => Pass.only_perform rfl) fun _ => ?_
  refine (Pass.only_collect fun d _ => only_upsert _ d).bind fun upserted => ?_
  simp only
  split
  · exact Pass.Only.bind (Pass.only_perform rfl) fun _ => Pass.only_done _
  · exact Pass.only_done _

/-- What a pass says when it brings a deployment up to date. -/
theorem meets_upsert_of {ok : List Exchange → Call → Prop} {ns : String} {wanted : Deployment}
    {log : List Exchange} (hget : ok log (.getDeployment ns wanted.name))
    (hcreate : ∀ log, ok log (.createDeployment wanted))
    (hreplace : ∀ existing log, ⟨.getDeployment ns wanted.name, some existing⟩ ∈ log →
      ok log (.replaceDeployment (adopted existing wanted))) :
    (upsert ns wanted).Meets ok (fun _ _ => True) log := by
  refine ⟨hget, fun found => ?_⟩
  cases found with
  | none => exact ⟨hcreate _, fun _ => trivial⟩
  | some existing =>
    simp only [Pass.done_bind]
    split
    · trivial
    · exact ⟨hreplace existing _ (List.mem_append_right _ List.mem_cons_self), fun _ => trivial⟩

/-- What a pass says when it makes the deployments what the workload wants. -/
theorem meets_expand_of {ok : List Exchange → Call → Prop} {locations : List Location}
    {log : List Exchange} (hsurvey : ∀ log c, c.surveys = true → ok log c)
    (hdelete : ∀ log d, ok log (.deleteDeployment d))
    (hupsert : ∀ wanted, w.desired locations = .ok wanted → ∀ d ∈ wanted, ∀ log,
      (upsert w.namespaceName d).Meets ok (fun _ _ => True) log) :
    (w.expand now locations).Meets ok (fun _ _ => True) log := by
  refine Pass.Meets.bind (P := fun wanted _ => w.desired locations = .ok wanted)
    (Pass.meets_ofExcept fun _ h => h) fun wanted log hwanted => ?_
  have hown : w.ownDeployments.Meets ok (fun _ _ => True) log :=
    (w.only_ownDeployments fun _ _ => rfl).meets hsurvey
  refine hown.bind fun existing log _ => ?_
  refine Pass.Meets.bind (P := fun _ _ => True) (Pass.meets_forEach (I := fun _ => True)
    (fun d _ log _ => Pass.meets_perform (hdelete log d) fun _ => trivial) trivial) fun _ log _ => ?_
  refine Pass.Meets.bind (P := fun _ _ => True) (Pass.meets_collect (I := fun _ => True)
    (fun d hd log _ => hupsert wanted hwanted d hd log) trivial) fun upserted log _ => ?_
  simp only
  split
  · exact ⟨hsurvey _ _ rfl, fun _ => trivial⟩
  · trivial

/-- What a pass on a workload says. -/
theorem meets_reconcile_of {ok : List Exchange → Call → Prop} {log : List Exchange}
    (hsurvey : ∀ log c, c.surveys = true → ok log c)
    (htear : w.isDeleting = true → w.tearDown.Meets ok (fun _ _ => True) log)
    (hhold : ∀ finalizers, w.isDeleting = false →
      withFinalizer finalizer w.finalizers = some finalizers →
        ok log (.setWorkloadFinalizers w finalizers))
    (hexpand : w.isDeleting = false → finalizer ∈ w.finalizers → ∀ locations log,
      (w.expand now locations).Meets ok (fun _ _ => True) log) :
    (w.reconcile now).Meets ok (fun _ _ => True) log := by
  rw [reconcile]
  split
  · next hdel => exact htear hdel
  · next hdel =>
    rw [Bool.not_eq_true] at hdel
    split
    · next finalizers hf => exact ⟨hhold finalizers hdel hf, fun _ => trivial⟩
    · next hf =>
      have hmissing : (missingNetworks w.networkKeys).Meets ok (fun _ _ => True) log :=
        (only_missingNetworks (fun _ _ => rfl) _).meets hsurvey
      refine hmissing.bind fun missing log _ => ?_
      have hreport (reason message : String) (log : List Exchange) :
          (w.reportUnavailable now reason message).Meets ok (fun _ _ => True) log :=
        (w.only_reportUnavailable now (fun _ _ => rfl) reason message).meets hsurvey
      split
      · exact (hreport _ _ log).bind fun _ _ _ => trivial
      · refine Pass.Meets.bind (P := fun _ _ => True)
          (Pass.meets_perform (hsurvey _ _ rfl) fun _ => trivial) fun locations log _ => ?_
        split
        · exact (hreport _ _ log).bind fun _ _ _ => trivial
        · exact hexpand hdel (mem_of_withFinalizer hf) locations log

theorem only_reconcile : (w.reconcile now).Only Call.byWorkload := by
  rw [reconcile]
  split
  · exact w.only_tearDown.imp fun c hc => by cases c <;> first | rfl | cases hc
  · split
    · exact Pass.Only.bind (Pass.only_perform rfl) fun _ => Pass.only_done _
    · refine (only_missingNetworks (fun _ _ => rfl) _).bind fun missing => ?_
      split
      · exact (w.only_reportUnavailable now (fun _ _ => rfl) _ _).bind fun _ => Pass.only_done _
      · refine Pass.Only.bind (Pass.only_perform rfl) fun locations => ?_
        split
        · exact (w.only_reportUnavailable now (fun _ _ => rfl) _ _).bind fun _ => Pass.only_done _
        · exact (w.only_expand now locations).imp fun c hc => by
            cases c <;> first | rfl | cases hc

end Workload

theorem Action.only_execute (a : Action) : a.execute.Only Call.byRollout := by
  rw [Action.execute]
  split
  · exact Pass.only_done _
  · split
    · exact Pass.only_perform rfl
    · exact Pass.only_perform rfl
    · exact Pass.only_perform rfl
    · exact Pass.only_done _

namespace Deployment

variable (d : Deployment) (now : Instant)

theorem only_reportUnscheduled (reason message : String) :
    (d.reportUnscheduled now reason message).Only Call.byScheduler := by
  unfold reportUnscheduled
  simp only
  split
  · exact Pass.only_perform rfl
  · exact Pass.only_done _

theorem only_schedule : (d.schedule now).Only Call.byScheduler := by
  unfold schedule
  split
  · exact Pass.only_done _
  · refine Pass.Only.bind (Pass.only_perform rfl) fun locations => ?_
    split
    · exact (d.only_reportUnscheduled now _ _).bind fun _ => Pass.only_done _
    · exact (d.only_reportUnscheduled now _ _).bind fun _ => Pass.only_done _
    · exact Pass.Only.bind (Pass.only_perform rfl) fun _ => Pass.only_done _

theorem only_stageBinding (ns : String) (location : LocationReference) (index : Nat)
    (i : NetworkInterface) : (d.stageBinding ns location index i).Only Call.byStager := by
  refine Pass.Only.bind (Pass.only_perform rfl) fun found => ?_
  split
  · exact Pass.only_done _
  · split
    · exact Pass.only_perform rfl
    · exact Pass.only_abort _

theorem only_stageBindings (ns : String) (location : LocationReference) (index : Nat)
    (l : List NetworkInterface) : (d.stageBindings ns location index l).Only Call.byStager := by
  induction l generalizing index with
  | nil => exact Pass.only_done _
  | cons i rest ih =>
    refine (d.only_stageBinding ns location index i).bind fun binding => ?_
    exact (ih (index + 1)).bind fun bindings => Pass.only_done _

theorem only_stageSubnet (location : LocationReference) (context : ContextReference) :
    (stageSubnet location context).Only Call.bySubnets := by
  refine Pass.Only.bind (Pass.only_perform rfl) fun found => ?_
  split
  · exact Pass.only_done _
  · split
    · exact Pass.only_done _
    · refine Pass.Only.bind (Pass.only_perform rfl) fun claims => ?_
      split
      · refine Pass.Only.bind ?_ fun _ => Pass.only_done _
        rw [claimSubnet]
        split
        · exact Pass.only_perform rfl
        · exact Pass.only_abort _
      · split
        · exact Pass.only_done _
        · split
          · exact Pass.only_done _
          · refine Pass.Only.bind (Pass.only_perform rfl) fun subnet => ?_
            split <;> exact Pass.only_done _

theorem only_stageSubnets (location : LocationReference) (l : List ContextReference) :
    (stageSubnets location l).Only Call.bySubnets := by
  induction l with
  | nil => exact Pass.only_done _
  | cons context rest ih =>
    refine (only_stageSubnet location context).bind fun ready => ?_
    split
    · exact ih
    · exact Pass.only_done _

theorem only_stageNetworks : d.stageNetworks.Only Call.byStager := by
  rw [stageNetworks]
  split
  · exact Pass.only_done _
  · split
    · exact Pass.only_abort _
    · refine (d.only_stageBindings _ _ _ _).bind fun bindings => ?_
      split
      · exact (only_stageSubnets _ _).imp fun c hc => by cases c <;> trivial
      · exact Pass.only_done _

theorem only_requireUid {q : Call → Bool} : d.requireUid.Only q := by
  rw [requireUid]
  split
  · exact Pass.only_done _
  · exact Pass.only_abort _

/-- What a pass says when it rolls a deployment out. -/
theorem meets_rollOut_of {ok : List Exchange → Call → Prop} {log : List Exchange}
    (hstage : ∀ log, d.stageNetworks.Meets ok (fun _ _ => True) log)
    (hlist : ∀ log ns uid, ok log (.listInstances ns uid))
    (hexecute : ∀ uid instances actions log, d.metadata.uid = some uid →
      ⟨.listInstances d.namespaceName uid, instances⟩ ∈ log → d.plan instances = .ok actions →
        (Pass.forEach Action.execute actions).Meets ok (fun _ _ => True) log)
    (hlift : ∀ log i gates, ok log (.setSchedulingGates i gates))
    (hreport : ∀ log summary ready,
      ok log (.patchDeploymentStatus d (d.progress now summary ready))) :
    (d.rollOut now).Meets ok (fun _ _ => True) log := by
  have huid : d.requireUid.Meets ok (fun uid _ => d.metadata.uid = some uid) log := by
    rw [requireUid]
    split
    · assumption
    · trivial
  refine huid.bind fun uid log huid => ?_
  refine Pass.Meets.bind
    (P := fun instances log => ⟨.listInstances d.namespaceName uid, instances⟩ ∈ log)
    (Pass.meets_perform (hlist _ _ _) fun _ => List.mem_append_right _ List.mem_cons_self)
    fun instances log hlisted => ?_
  refine Pass.Meets.bind
    (P := fun actions log => d.plan instances = .ok actions ∧
      ⟨.listInstances d.namespaceName uid, instances⟩ ∈ log)
    (Pass.meets_ofExcept fun _ h => ⟨h, hlisted⟩) fun actions log h => ?_
  refine (hexecute uid instances actions log huid h.2 h.1).bind fun _ log _ => ?_
  refine (hstage log).bind fun ready log _ => ?_
  have hend (log : List Exchange) : Pass.Meets ok (fun _ _ => True)
      (if d.status ≠ some (d.progress now (.ofInstances instances d.templateHash) ready) then do
        perform (.patchDeploymentStatus d
          (d.progress now (.ofInstances instances d.templateHash) ready))
        pure awaitChange
      else pure awaitChange) log := by
    split
    · exact ⟨hreport _ _ _, fun _ => trivial⟩
    · trivial
  simp only
  split
  · refine Pass.Meets.bind (P := fun _ _ => True) (Pass.meets_forEach (I := fun _ => True)
      (fun i _ log _ => ?_) trivial) fun _ log _ => hend log
    rw [Instance.liftNetworkGate]
    split
    · exact Pass.meets_perform (hlift _ _ _) fun _ => trivial
    · trivial
  · exact hend log

theorem only_tearDown : d.tearDown.Only Call.byTearDown := by
  rw [tearDown]
  split
  · exact Pass.only_done _
  · refine Pass.Only.bind ?_ fun finalized => ?_
    · refine d.only_requireUid.bind fun uid => ?_
      refine Pass.Only.bind (Pass.only_perform rfl) fun instances => ?_
      refine Pass.Only.bind (Pass.only_forEach fun i _ => Pass.only_perform rfl) fun _ => ?_
      exact Pass.only_done _
    · split
      · exact Pass.Only.bind (Pass.only_perform rfl) fun _ => Pass.only_done _
      · exact Pass.only_done _

/-- What a pass on a deployment says. -/
theorem meets_reconcile_of {ok : List Exchange → Call → Prop} {log : List Exchange}
    (htear : d.isDeleting = true → d.tearDown.Meets ok (fun _ _ => True) log)
    (hhold : ∀ finalizers, d.isDeleting = false →
      withFinalizer finalizer d.finalizers = some finalizers →
        ok log (.setDeploymentFinalizers d finalizers))
    (hrollOut : d.isDeleting = false → finalizer ∈ d.finalizers →
      (d.rollOut now).Meets ok (fun _ _ => True) log) :
    (d.reconcile now).Meets ok (fun _ _ => True) log := by
  rw [reconcile]
  split
  · next hdel => exact htear hdel
  · next hdel =>
    rw [Bool.not_eq_true] at hdel
    split
    · next finalizers hf => exact ⟨hhold finalizers hdel hf, fun _ => trivial⟩
    · next hf =>
      split
      · trivial
      · exact hrollOut hdel (mem_of_withFinalizer hf)

end Deployment

namespace Instance

variable (i : Instance) (now : Instant)

theorem only_firstFailure {q : Call → Bool} (hq : ∀ ns name, q (.getNetworkBinding ns name) = true)
    (ns : String) (names : List String) : (firstFailure ns names).Only q := by
  induction names with
  | nil => exact Pass.only_done _
  | cons name rest ih =>
    refine Pass.Only.bind (Pass.only_perform (hq _ _)) fun binding => ?_
    split
    · exact ih
    · split
      · exact Pass.only_done _
      · exact ih

theorem only_gatedFailure {q : Call → Bool} (hd : ∀ ns name, q (.getDeployment ns name) = true)
    (hb : ∀ ns name, q (.getNetworkBinding ns name) = true) : i.gatedFailure.Only q := by
  rw [gatedFailure]
  split
  · exact Pass.only_done _
  rw [networkFailure]
  split
  · exact Pass.only_abort _
  · refine Pass.Only.bind (Pass.only_perform (hd _ _)) fun d => ?_
    split
    · exact Pass.only_abort _
    · exact only_firstFailure hb _ _

theorem only_reconcile : (i.reconcile now).Only Call.byInstance := by
  unfold reconcile
  split
  · exact Pass.only_done _
  · refine (i.only_gatedFailure (fun _ _ => rfl) fun _ _ => rfl).bind fun failure => ?_
    simp only
    split
    · exact Pass.Only.bind (Pass.only_perform rfl) fun _ => Pass.only_done _
    · exact Pass.only_done _

end Instance

end ControlPlane
