import ControlPlane.Meta.Condition
import ControlPlane.Meta.Resource
import ControlPlane.Schema.Runtime

/-!
# Instances

An instance is a single running unit with a slot of its own in a deployment. It stays unscheduled
while scheduling gates are held on it. The template of a deployment is what its instances are made
from.
-/

namespace ControlPlane

/-- A precondition that must be cleared before an instance is scheduled. -/
structure SchedulingGate where
  name : String
deriving DecidableEq

instance : JsonForm SchedulingGate where
  encode g := .obj <| Members.always "name" g.name
  decode j := do
    let m ← j.record? ["name"]
    return { name := ← m.required "name" }

/-- The gate held on a new instance until the networks of its deployment are ready. -/
def SchedulingGate.network : String := "Network"

/-- What the deployment's controller records in an instance's specification. -/
structure InstanceControl where
  /-- The fingerprint of the template that the instance was last written from. -/
  templateHash : String
  gates : List SchedulingGate := []
deriving DecidableEq

instance : JsonForm InstanceControl where
  encode c := .obj <|
    Members.always "templateHash" c.templateHash ++
    Members.unlessEmpty "schedulingGates" c.gates
  decode j := do
    let m ← j.record? ["templateHash", "schedulingGates"]
    return {
      templateHash := ← m.required "templateHash"
      gates := ← m.withDefault "schedulingGates" [] }

/-- What an instance is to be. -/
structure InstanceSpec where
  runtime : Runtime := {}
  networkInterfaces : List NetworkInterface := []
  volumes : List Volume := []
  /-- Where the instance runs; templates have none. -/
  location : Option LocationReference := none
  /-- The controller's record; templates have none. -/
  control : Option InstanceControl := none
deriving DecidableEq

instance : JsonForm InstanceSpec where
  encode s := .obj <|
    Members.always "runtime" s.runtime ++
    Members.unlessEmpty "networkInterfaces" s.networkInterfaces ++
    Members.unlessEmpty "volumes" s.volumes ++
    Members.optional "location" s.location ++
    Members.optional "controller" s.control
  decode j := do
    let m ← j.record? ["runtime", "networkInterfaces", "volumes", "location", "controller"]
    return {
      runtime := ← m.withDefault "runtime" {}
      networkInterfaces := ← m.withDefault "networkInterfaces" []
      volumes := ← m.withDefault "volumes" []
      location := ← m.maybe "location"
      control := ← m.maybe "controller" }

/-- What the instances of a deployment are made from. -/
structure InstanceTemplate where
  metadata : TemplateMetadata := {}
  spec : InstanceSpec := {}
deriving DecidableEq

instance : JsonForm InstanceTemplate where
  encode t := .obj <|
    Members.always "metadata" t.metadata ++
    Members.always "spec" t.spec
  decode j := do
    let m ← j.record? ["metadata", "spec"]
    return {
      metadata := ← m.withDefault "metadata" {}
      spec := ← m.withDefault "spec" {} }

/-- The addresses of an interface. -/
structure InterfaceAssignments where
  networkIp : Option String := none
  externalIp : Option String := none
deriving DecidableEq

instance : JsonForm InterfaceAssignments where
  encode a := .obj <|
    Members.optional "networkIp" a.networkIp ++
    Members.optional "externalIp" a.externalIp
  decode j := do
    let m ← j.record? ["networkIp", "externalIp"]
    return { networkIp := ← m.maybe "networkIp", externalIp := ← m.maybe "externalIp" }

/-- The standing of an interface. -/
structure InterfaceStatus where
  assignments : InterfaceAssignments := {}
deriving DecidableEq

instance : JsonForm InterfaceStatus where
  encode s := .obj <| Members.always "assignments" s.assignments
  decode j := do
    let m ← j.record? ["assignments"]
    return { assignments := ← m.withDefault "assignments" {} }

/-- What the runtime reports of the template it has taken over. -/
structure ControlStatus where
  observedTemplateHash : String := ""
deriving DecidableEq

instance : JsonForm ControlStatus where
  encode s := .obj <| Members.always "observedTemplateHash" s.observedTemplateHash
  decode j := do
    let m ← j.record? ["observedTemplateHash"]
    return { observedTemplateHash := ← m.withDefault "observedTemplateHash" "" }

/-- The standing of an instance. -/
structure InstanceStatus where
  conditions : ConditionSet := .empty
  networkInterfaces : List InterfaceStatus := []
  control : Option ControlStatus := none
deriving DecidableEq

instance : JsonForm InstanceStatus where
  encode s := .obj <|
    Members.always "conditions" s.conditions ++
    Members.unlessEmpty "networkInterfaces" s.networkInterfaces ++
    Members.optional "controller" s.control
  decode j := do
    let m ← j.record? ["conditions", "networkInterfaces", "controller"]
    return {
      conditions := ← m.withDefault "conditions" .empty
      networkInterfaces := ← m.withDefault "networkInterfaces" []
      control := ← m.maybe "controller" }

/-- A single running unit. -/
abbrev Instance := Resource InstanceSpec InstanceStatus

instance : OfKind Instance := ⟨.inst⟩

namespace Instance

/-- The gates held on an instance. -/
def gates (i : Instance) : List SchedulingGate :=
  match i.spec.control with
  | some c => c.gates
  | none => []

/-- A condition of the instance holds. -/
def isTrue (i : Instance) (type : String) : Bool :=
  match i.status with
  | some s => s.conditions.isTrue type
  | none => false

/-- A condition of an instance holds when its status has one filed under the type, with the status
`True`. -/
theorem isTrue_iff {i : Instance} {type : String} : i.isTrue type = true ↔
    ∃ s ∈ i.status, ∃ c ∈ s.conditions, c.type = type ∧ c.status = "True" := by
  unfold isTrue
  cases i.status with
  | none => simp
  | some s => simpa [Condition.holds] using ConditionSet.isTrue_iff

/-- The instance is ready. -/
def isReady (i : Instance) : Bool :=
  i.isTrue Condition.ready

theorem isReady_iff {i : Instance} : i.isReady = true ↔
    ∃ s ∈ i.status, ∃ c ∈ s.conditions, c.type = "Ready" ∧ c.status = "True" :=
  isTrue_iff

/-- The fingerprint of the template that the runtime has taken over. -/
def observedTemplateHash (i : Instance) : Option String := do
  return (← (← i.status).control).observedTemplateHash

end Instance

end ControlPlane
