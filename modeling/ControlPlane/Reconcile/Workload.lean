import ControlPlane.Placement.Availability
import ControlPlane.Placement.Desired
import ControlPlane.Reconcile.Basic

/-!
# Reconciling a workload

A pass creates and updates the deployments a workload wants, deletes those it no longer wants, and
reports their status on the workload. The workload's own deployments are those that carry its uid
both as a label and in their specification, and only these are deleted. What is created or updated is
looked up by its name alone.
-/

namespace ControlPlane.Workload

open Pass (perform)

/-- The uid, empty before the server has set one. -/
def uid (w : Workload) : String :=
  w.metadata.uid.getD ""

/-- The deployments that belong to the workload. -/
def ownDeployments (w : Workload) : Pass (List Deployment) := do
  let labelled ← perform (.listDeployments w.namespaceName w.uid)
  return labelled.filter (·.spec.workload.uid == w.uid)

/-- Deletes the workload's deployments, and tells whether there were none. -/
def finalize (w : Workload) : Pass Bool := do
  let deployments ← w.ownDeployments
  Pass.forEach (fun d => perform (.deleteDeployment d)) (deployments.filter (!·.isDeleting))
  return deployments.isEmpty

/-- The pass on a workload that is being deleted. -/
def tearDown (w : Workload) : Pass Requeue :=
  match withoutFinalizer finalizer w.finalizers with
  | none => return awaitChange
  | some remaining => do
    if ← w.finalize then
      perform (.setWorkloadFinalizers w remaining)
    return awaitChange

/-- The networks among `keys` that do not exist. -/
def missingNetworks : List String → Pass (List String)
  | [] => return []
  | key :: rest =>
    match splitKey key with
    | none => missingNetworks rest
    | some (ns, name) => do
      let found ← perform (.getNetwork ns name)
      let missing ← missingNetworks rest
      return if found.isNone then key :: missing else missing

/-- Reports why the workload cannot serve. -/
def reportUnavailable (w : Workload) (now : Instant) (reason message : String) : Pass Unit := do
  let status := w.status.getD {}
  let (conditions, changed) :=
    status.conditions.set (w.observe now Condition.available Condition.fails reason message)
  if changed then
    perform (.patchWorkloadStatus w { status with conditions })

/-- An existing deployment with the specification that is wanted now. -/
def adopted (existing wanted : Deployment) : Deployment :=
  { existing with
    metadata := { existing.metadata with
      labels := some <|
        Dict.set (existing.metadata.labels.getD .empty) uidLabel wanted.spec.workload.uid }
    spec := wanted.spec }

/-- Creates a deployment, or brings the one of that name up to date. -/
def upsert (ns : String) (wanted : Deployment) : Pass Deployment := do
  match ← perform (.getDeployment ns wanted.name) with
  | none => perform (.createDeployment wanted)
  | some existing =>
    if existing.isDeleting || existing.spec = wanted.spec then return existing
    else perform (.replaceDeployment (adopted existing wanted))

/-- A deployment that is no longer wanted and not being deleted yet. -/
def isOrphan (wanted : List Deployment) (d : Deployment) : Bool :=
  !(wanted.map (·.name)).contains d.name && !d.isDeleting

/-- Makes the deployments what the workload wants, and reports their status. -/
def expand (w : Workload) (now : Instant) (locations : List Location) : Pass Requeue := do
  let wanted ← Pass.ofExcept (w.desired locations)
  let existing ← w.ownDeployments
  Pass.forEach (fun d => perform (.deleteDeployment d)) (existing.filter (isOrphan wanted))
  let upserted ← Pass.collect (upsert w.namespaceName) wanted
  let current := Keyed.ofList (fun d : Deployment => d.name) (existing ++ upserted)
  let status := w.aggregate now current.toList
  if w.status ≠ some status then
    perform (.patchWorkloadStatus w status)
  return awaitChange

/-- A pass on a workload. -/
def reconcile (w : Workload) (now : Instant) : Pass Requeue :=
  if w.isDeleting then w.tearDown
  else
    match withFinalizer finalizer w.finalizers with
    | some finalizers => do
      perform (.setWorkloadFinalizers w finalizers)
      return awaitChange
    | none => do
      let missing ← missingNetworks w.networkKeys
      if !missing.isEmpty then
        w.reportUnavailable now "NetworkNotFound"
          ("Unable to find networks: " ++ ", ".intercalate missing)
        return awaitChange
      let locations ← perform .listLocations
      if locations.isEmpty then
        w.reportUnavailable now "NoLocations" "No locations are registered with the system."
        return awaitChange
      w.expand now locations

end ControlPlane.Workload
