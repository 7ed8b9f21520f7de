import ControlPlane.Meta.Observation
import ControlPlane.Placement.Selection
import ControlPlane.Reconcile.Basic

/-!
# Scheduling a deployment

A pass assigns an unscheduled deployment to a location. An assignment is never revisited.
-/

namespace ControlPlane.Deployment

open Pass (perform)

/-- Seconds until a deployment is looked at again while there is no location at all. -/
def noLocationsRequeue : Nat := 30

/-- The condition that a deployment does not serve, for a reason of scheduling. -/
def unavailable (d : Deployment) (now : Instant) (reason message : String) : Condition :=
  d.observe now Condition.available Condition.fails reason message

/-- Reports why the deployment cannot be scheduled. -/
def reportUnscheduled (d : Deployment) (now : Instant) (reason message : String) :
    Pass Unit := do
  let status := d.status.getD {}
  let (conditions, changed) := status.conditions.set (d.unavailable now reason message)
  if changed then
    perform (.patchDeploymentStatus d { status with conditions })

/-- The status of the deployment assigned to a location. -/
def assigned (d : Deployment) (now : Instant) (l : Location) : DeploymentStatus :=
  let status := d.status.getD {}
  { status with
    location := some (Location.reference l)
    cluster := l.spec.provider.cluster
    conditions :=
      (status.conditions.set <| d.unavailable now "LocationAssigned"
        "Deployment has been assigned a location.").1 }

/-- A pass of the scheduler on a deployment. -/
def schedule (d : Deployment) (now : Instant) : Pass Requeue := do
  if d.isDeleting || d.location.isSome then return awaitChange
  let locations ← perform .listLocations
  match d.select locations with
  | .noLocations =>
    d.reportUnscheduled now "NoLocations" "No locations are registered with the system."
    return some noLocationsRequeue
  | .noCandidates =>
    d.reportUnscheduled now "NoCandidateLocations"
      "No locations are candidates for this deployment."
    return awaitChange
  | .selected l =>
    perform (.patchDeploymentStatus d (d.assigned now l))
    return awaitChange

end ControlPlane.Deployment
