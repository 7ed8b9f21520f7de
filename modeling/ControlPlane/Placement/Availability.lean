import ControlPlane.Index
import ControlPlane.Meta.Observation

/-!
# The status of a workload

A workload's status counts the instances of its deployments, for each placement and in all, and says
whether any of them serves. What the previous status says of other matters is carried over.
-/

namespace ControlPlane

/-- Four counts of instances. -/
structure ReplicaCounts where
  replicas : Int32 := 0
  current : Int32 := 0
  desired : Int32 := 0
  ready : Int32 := 0
deriving DecidableEq

namespace ReplicaCounts

/-- The counts of two groups together. -/
def add (a b : ReplicaCounts) : ReplicaCounts :=
  ⟨a.replicas + b.replicas, a.current + b.current, a.desired + b.desired, a.ready + b.ready⟩

/-- The counts of several groups together. -/
def sum (l : List ReplicaCounts) : ReplicaCounts :=
  l.foldl add {}

end ReplicaCounts

/-- The counts that a deployment reports, zero while it has no status. -/
def Deployment.counts (d : Deployment) : ReplicaCounts :=
  match d.status with
  | some s => ⟨s.replicas, s.currentReplicas, s.desiredReplicas, s.readyReplicas⟩
  | none => {}

/-- The counts of a placement's status. -/
def PlacementStatus.counts (p : PlacementStatus) : ReplicaCounts :=
  ⟨p.replicas, p.currentReplicas, p.desiredReplicas, p.readyReplicas⟩

namespace Workload

/-- Whether any of a placement's deployments serves, as a condition of the workload's. -/
def placementCondition (w : Workload) (now : Instant) (available : Bool) : Condition :=
  if available then
    w.observe now Condition.available Condition.holds "AvailableDeploymentFound"
      "At least one deployment is available"
  else
    w.observe now Condition.available Condition.fails "NoAvailableDeployments"
      "No available deployments were found"

/-- Whether any placement serves, as a condition of the workload's. -/
def availableCondition (w : Workload) (now : Instant) (available : Bool) : Condition :=
  if available then
    w.observe now Condition.available Condition.holds "AvailablePlacementFound"
      "At least one placement is available"
  else
    w.observe now Condition.available Condition.fails "NoAvailablePlacements"
      "No available placements were found"

/-- The standing of a placement, given its deployments and its previous standing. -/
def placementStatus (w : Workload) (now : Instant) (previous : WorkloadStatus) (name : String)
    (members : List Deployment) : PlacementStatus :=
  let before := (previous.placements.find? (·.name == name)).getD { name }
  let counts := ReplicaCounts.sum (members.map Deployment.counts)
  let available := members.any Deployment.isAvailable
  { name := before.name
    conditions := (before.conditions.set (w.placementCondition now available)).1
    replicas := counts.replicas
    currentReplicas := counts.current
    desiredReplicas := counts.desired
    readyReplicas := counts.ready }

/-- The status of a workload with the given deployments. -/
def aggregate (w : Workload) (now : Instant) (deployments : List Deployment) : WorkloadStatus :=
  let previous := w.status.getD {}
  let names := distinctSorted (deployments.map (·.spec.placement))
  let placements := names.map fun name =>
    w.placementStatus now previous name (deployments.filter (·.spec.placement == name))
  let counts := ReplicaCounts.sum (placements.map PlacementStatus.counts)
  let available := deployments.any Deployment.isAvailable
  { conditions := (previous.conditions.set (w.availableCondition now available)).1
    replicas := counts.replicas
    currentReplicas := counts.current
    desiredReplicas := counts.desired
    readyReplicas := counts.ready
    placements
    gateway := previous.gateway }

end Workload

end ControlPlane
