import ControlPlane.Reconcile.Basic
import ControlPlane.Rollout.Plan
import ControlPlane.Rollout.Progress
import ControlPlane.Staging.Networks

/-!
# Reconciling a deployment

A pass on a scheduled deployment carries out the next action of its rollout, stages its networks,
lifts the network gate from its instances once the networks are ready, and reports the progress.
-/

namespace ControlPlane

open Pass (perform)

/-- Carries out an action; an action left for later does nothing. -/
def Action.execute (a : Action) : Pass Unit :=
  if a.skipped then return ()
  else
    match a.type with
    | .create => perform (.createInstance a.target)
    | .update => perform (.replaceInstance a.target)
    | .delete => perform (.deleteInstance a.target)
    | .wait => return ()

/-- Lifts the network gate from an instance that holds it and is not being deleted. -/
def Instance.liftNetworkGate (i : Instance) : Pass Unit :=
  if !i.isDeleting && i.gates.any (·.name == SchedulingGate.network) then
    perform (.setSchedulingGates i (i.gates.filter (·.name != SchedulingGate.network)))
  else return ()

namespace Deployment

/-- The uid, without which the instances of the deployment cannot be told. -/
def requireUid (d : Deployment) : Pass String :=
  match d.metadata.uid with
  | some uid => return uid
  | none => .abort (.missingUid "deployment" d.name)

/-- Deletes the deployment's instances, and tells whether there were none. -/
def finalize (d : Deployment) : Pass Bool := do
  let uid ← d.requireUid
  let instances ← perform (.listInstances d.namespaceName uid)
  Pass.forEach (fun i => perform (.deleteInstance i)) (instances.filter (!·.isDeleting))
  return instances.isEmpty

/-- The pass on a deployment that is being deleted. -/
def tearDown (d : Deployment) : Pass Requeue :=
  match withoutFinalizer finalizer d.finalizers with
  | none => return awaitChange
  | some remaining => do
    if ← d.finalize then
      perform (.setDeploymentFinalizers d remaining)
    return awaitChange

/-- The pass on a deployment that is scheduled. -/
def rollOut (d : Deployment) (now : Instant) : Pass Requeue := do
  let uid ← d.requireUid
  let instances ← perform (.listInstances d.namespaceName uid)
  let actions ← Pass.ofExcept (d.plan instances)
  Pass.forEach Action.execute actions
  let networkReady ← d.stageNetworks
  if networkReady then
    Pass.forEach Instance.liftNetworkGate instances
  let status :=
    d.progress now (ReplicaSummary.ofInstances instances d.templateHash) networkReady
  if d.status ≠ some status then
    perform (.patchDeploymentStatus d status)
  return awaitChange

/-- A pass on a deployment. -/
def reconcile (d : Deployment) (now : Instant) : Pass Requeue :=
  if d.isDeleting then d.tearDown
  else
    match withFinalizer finalizer d.finalizers with
    | some finalizers => do
      perform (.setDeploymentFinalizers d finalizers)
      return awaitChange
    | none =>
      if d.location.isNone then return awaitChange
      else d.rollOut now

/-- A deployment that holds its finalizer and has a location is rolled out. -/
theorem reconcile_eq_rollOut {d : Deployment} {now : Instant} (hdel : d.isDeleting = false)
    (hfin : finalizer ∈ d.finalizers) (hl : d.location ≠ none) :
    d.reconcile now = d.rollOut now := by
  rw [reconcile, hdel, withFinalizer, if_pos hfin]
  exact if_neg fun h => hl (Option.isNone_iff_eq_none.1 h)

end Deployment

end ControlPlane
