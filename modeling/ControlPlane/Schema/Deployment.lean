import ControlPlane.Schema.Workload

/-!
# Deployments

A deployment is one placement of a workload in one city. It is scheduled onto a location and owns the
instances that run there.
-/

namespace ControlPlane

/-- What a deployment is to be. -/
structure DeploymentSpec where
  workload : WorkloadReference
  placement : String
  cityCode : String
  template : InstanceTemplate := {}
  scale : ScaleSettings
deriving DecidableEq

instance : JsonForm DeploymentSpec where
  encode s := .obj <|
    Members.always "workloadRef" s.workload ++
    Members.always "placementName" s.placement ++
    Members.always "cityCode" s.cityCode ++
    Members.always "template" s.template ++
    Members.always "scaleSettings" s.scale
  decode j := do
    let m ← j.record? ["workloadRef", "placementName", "cityCode", "template", "scaleSettings"]
    return {
      workload := ← m.required "workloadRef"
      placement := ← m.required "placementName"
      cityCode := ← m.required "cityCode"
      template := ← m.withDefault "template" {}
      scale := ← m.required "scaleSettings" }

/-- The standing of a deployment. -/
structure DeploymentStatus where
  /-- The location the deployment is scheduled to. -/
  location : Option LocationReference := none
  /-- The execution cluster that serves the location. -/
  cluster : Option ClusterReference := none
  conditions : ConditionSet := .empty
  replicas : Int32 := 0
  currentReplicas : Int32 := 0
  desiredReplicas : Int32 := 0
  readyReplicas : Int32 := 0
deriving DecidableEq

instance : JsonForm DeploymentStatus where
  encode s := .obj <|
    Members.optional "location" s.location ++
    Members.optional "clusterRef" s.cluster ++
    Members.always "conditions" s.conditions ++
    Members.always "replicas" s.replicas ++
    Members.always "currentReplicas" s.currentReplicas ++
    Members.always "desiredReplicas" s.desiredReplicas ++
    Members.always "readyReplicas" s.readyReplicas
  decode j := do
    let m ← j.record?
      ["location", "clusterRef", "conditions", "replicas", "currentReplicas", "desiredReplicas",
        "readyReplicas"]
    return {
      location := ← m.maybe "location"
      cluster := ← m.maybe "clusterRef"
      conditions := ← m.withDefault "conditions" .empty
      replicas := ← m.withDefault "replicas" 0
      currentReplicas := ← m.withDefault "currentReplicas" 0
      desiredReplicas := ← m.withDefault "desiredReplicas" 0
      readyReplicas := ← m.withDefault "readyReplicas" 0 }

/-- One placement of a workload in one city. -/
abbrev Deployment := Resource DeploymentSpec DeploymentStatus

instance : OfKind Deployment := ⟨.workloadDeployment⟩

namespace Deployment

/-- The finalizer that keeps a deployment until its instances are gone. -/
def finalizer : String := "compute.datumapis.com/deployment-controller"

/-- The label that holds the uid of the deployment an instance belongs to. -/
def uidLabel : String := "compute.datumapis.com/workload-deployment-uid"

/-- The label that holds the slot of an instance. -/
def slotLabel : String := "compute.datumapis.com/instance-index"

/-- The location the deployment is scheduled to. -/
def location (d : Deployment) : Option LocationReference :=
  d.status.bind (·.location)

/-- The deployment serves: its `Available` condition holds. -/
def isAvailable (d : Deployment) : Bool :=
  match d.status with
  | some s => s.conditions.isTrue Condition.available
  | none => false

/-- A deployment serves when its status has a condition filed under `Available`, with the status
`True`. -/
theorem isAvailable_iff {d : Deployment} : d.isAvailable = true ↔
    ∃ s ∈ d.status, ∃ c ∈ s.conditions, c.type = "Available" ∧ c.status = "True" := by
  unfold isAvailable
  cases d.status with
  | none => simp
  | some s => simpa [Condition.available, Condition.holds] using ConditionSet.isTrue_iff

/-- The network interfaces of the deployment's instances. -/
def interfaces (d : Deployment) : List NetworkInterface :=
  d.spec.template.spec.networkInterfaces

end Deployment

end ControlPlane
