import ControlPlane.Meta.Observation
import ControlPlane.Rollout.Template

/-!
# The status of a deployment

How far the rollout of a deployment has come: its instances are counted (`ReplicaSummary`), and the
`Available` condition follows from the counts and from whether the networks are ready.
-/

namespace ControlPlane

/-- Counts of a deployment's instances. -/
structure ReplicaSummary where
  replicas : Int32 := 0
  /-- Instances that the runtime has programmed from the current template. -/
  current : Int32 := 0
  ready : Int32 := 0
deriving DecidableEq

namespace ReplicaSummary

/-- The runtime has programmed the instance from the template with this fingerprint. -/
def isCurrent (hash : String) (i : Instance) : Bool :=
  i.isTrue Condition.programmed && i.observedTemplateHash == some hash

/-- The summary with one more instance. -/
def add (hash : String) (s : ReplicaSummary) (i : Instance) : ReplicaSummary where
  replicas := s.replicas + 1
  current := if isCurrent hash i then s.current + 1 else s.current
  ready := if i.isReady then s.ready + 1 else s.ready

/-- The summary of instances, given the fingerprint of the current template. -/
def ofInstances (instances : List Instance) (hash : String) : ReplicaSummary :=
  instances.foldl (add hash) {}

end ReplicaSummary

namespace Deployment

/-- The `Available` condition, if there is anything to report. -/
def availableCondition? (d : Deployment) (now : Instant) (summary : ReplicaSummary)
    (networkReady : Bool) : Option Condition :=
  if 0 < summary.ready then
    some <| d.observe now Condition.available Condition.holds "StableInstanceFound"
      (toString summary.ready.toInt ++ "/" ++ toString summary.replicas.toInt ++
        " instances are ready")
  else if !networkReady then
    some <| d.observe now Condition.available Condition.fails "ProvisioningNetwork"
      "Network is being provisioned"
  else if 0 < summary.replicas then
    some <| d.observe now Condition.available Condition.fails "ProvisioningInstances"
      "Instances are being provisioned"
  else none

/-- The status of a deployment after a pass. -/
def progress (d : Deployment) (now : Instant) (summary : ReplicaSummary) (networkReady : Bool) :
    DeploymentStatus :=
  let previous := d.status.getD {}
  { previous with
    replicas := summary.replicas
    currentReplicas := summary.current
    readyReplicas := summary.ready
    desiredReplicas := d.spec.scale.minReplicas
    conditions :=
      match d.availableCondition? now summary networkReady with
      | some c => (previous.conditions.set c).1
      | none => previous.conditions }

end Deployment

end ControlPlane
