import ControlPlane.Schema.Instance

/-!
# Workloads

A workload asks for instances of one template in a number of placements, each of which names the
cities to run in and how many instances to keep there.
-/

namespace ControlPlane

/-! ## Scaling -/

/-- What a metric is to be held at. -/
structure MetricTarget where
  value : Option Quantity := none
  averageValue : Option Quantity := none
  averageUtilization : Option Int32 := none
deriving DecidableEq

instance : JsonForm MetricTarget where
  encode t := .obj <|
    Members.optional "value" t.value ++
    Members.optional "averageValue" t.averageValue ++
    Members.optional "averageUtilization" t.averageUtilization
  decode j := do
    let m ← j.record? ["value", "averageValue", "averageUtilization"]
    return {
      value := ← m.maybe "value"
      averageValue := ← m.maybe "averageValue"
      averageUtilization := ← m.maybe "averageUtilization" }

/-- The use of a resource as a metric. -/
structure ResourceMetric where
  name : String
  target : MetricTarget
deriving DecidableEq

instance : JsonForm ResourceMetric where
  encode r := .obj <|
    Members.always "name" r.name ++
    Members.always "target" r.target
  decode j := do
    let m ← j.record? ["name", "target"]
    return { name := ← m.required "name", target := ← m.required "target" }

/-- A metric to scale by. -/
structure Metric where
  resource : Option ResourceMetric := none
deriving DecidableEq

instance : JsonForm Metric where
  encode c := .obj <| Members.optional "resource" c.resource
  decode j := do
    let m ← j.record? ["resource"]
    return { resource := ← m.maybe "resource" }

/-- How the instances of a deployment are rolled out. -/
inductive ManagementPolicy where
  /-- One instance at a time, in the order of slots, each ready before the next. -/
  | orderedReady
deriving DecidableEq

instance : JsonForm ManagementPolicy where
  encode
    | .orderedReady => .str "OrderedReady"
  decode j := do
    match ← j.variant? with
    | "OrderedReady" => return .orderedReady
    | _ => none

/-- How many instances a deployment keeps. -/
structure ScaleSettings where
  minReplicas : Int32
  maxReplicas : Option Int32 := none
  metrics : List Metric := []
  policy : ManagementPolicy := .orderedReady
deriving DecidableEq

instance : JsonForm ScaleSettings where
  encode s := .obj <|
    Members.always "minReplicas" s.minReplicas ++
    Members.optional "maxReplicas" s.maxReplicas ++
    Members.unlessEmpty "metrics" s.metrics ++
    Members.always "instanceManagementPolicy" s.policy
  decode j := do
    let m ← j.record? ["minReplicas", "maxReplicas", "metrics", "instanceManagementPolicy"]
    return {
      minReplicas := ← m.required "minReplicas"
      maxReplicas := ← m.maybe "maxReplicas"
      metrics := ← m.withDefault "metrics" []
      policy := ← m.withDefault "instanceManagementPolicy" .orderedReady }

/-- Where a workload is to run. -/
structure Placement where
  name : String
  cityCodes : List String := []
  scale : ScaleSettings
deriving DecidableEq

instance : JsonForm Placement where
  encode p := .obj <|
    Members.always "name" p.name ++
    Members.always "cityCodes" p.cityCodes ++
    Members.always "scaleSettings" p.scale
  decode j := do
    let m ← j.record? ["name", "cityCodes", "scaleSettings"]
    return {
      name := ← m.required "name"
      cityCodes := ← m.withDefault "cityCodes" []
      scale := ← m.required "scaleSettings" }

/-! ## Gateways -/

/-- A listener of a gateway. -/
structure GatewayListener where
  name : String
  port : Int32
  protocol : String
  hostname : Option String := none
deriving DecidableEq

instance : JsonForm GatewayListener where
  encode l := .obj <|
    Members.always "name" l.name ++
    Members.always "port" l.port ++
    Members.always "protocol" l.protocol ++
    Members.optional "hostname" l.hostname
  decode j := do
    let m ← j.record? ["name", "port", "protocol", "hostname"]
    return {
      name := ← m.required "name"
      port := ← m.required "port"
      protocol := ← m.required "protocol"
      hostname := ← m.maybe "hostname" }

/-- A gateway to be made. -/
structure GatewaySpec where
  gatewayClassName : String
  listeners : List GatewayListener := []
deriving DecidableEq

instance : JsonForm GatewaySpec where
  encode g := .obj <|
    Members.always "gatewayClassName" g.gatewayClassName ++
    Members.always "listeners" g.listeners
  decode j := do
    let m ← j.record? ["gatewayClassName", "listeners"]
    return {
      gatewayClassName := ← m.required "gatewayClassName"
      listeners := ← m.withDefault "listeners" [] }

/-- The template of a gateway. -/
structure GatewayTemplate where
  spec : GatewaySpec
deriving DecidableEq

instance : JsonForm GatewayTemplate where
  encode t := .obj <| Members.always "spec" t.spec
  decode j := do
    let m ← j.record? ["spec"]
    return { spec := ← m.required "spec" }

/-- Where a route leads. -/
structure BackendReference where
  name : String
  port : Option Int32 := none
deriving DecidableEq

instance : JsonForm BackendReference where
  encode b := .obj <|
    Members.always "name" b.name ++
    Members.optional "port" b.port
  decode j := do
    let m ← j.record? ["name", "port"]
    return { name := ← m.required "name", port := ← m.maybe "port" }

/-- A rule of a route. -/
structure RouteRule where
  name : Option String := none
  backends : List BackendReference := []
deriving DecidableEq

instance : JsonForm RouteRule where
  encode r := .obj <|
    Members.optional "name" r.name ++
    Members.always "backendRefs" r.backends
  decode j := do
    let m ← j.record? ["name", "backendRefs"]
    return { name := ← m.maybe "name", backends := ← m.withDefault "backendRefs" [] }

/-- A route for TCP traffic. -/
structure TcpRoute where
  rules : List RouteRule := []
deriving DecidableEq

instance : JsonForm TcpRoute where
  encode r := .obj <| Members.always "rules" r.rules
  decode j := do
    let m ← j.record? ["rules"]
    return { rules := ← m.withDefault "rules" [] }

/-- The gateway in front of a workload's instances. -/
structure Gateway where
  template : GatewayTemplate
  tcpRoutes : List TcpRoute := []
deriving DecidableEq

instance : JsonForm Gateway where
  encode g := .obj <|
    Members.always "template" g.template ++
    Members.unlessEmpty "tcpRoutes" g.tcpRoutes
  decode j := do
    let m ← j.record? ["template", "tcpRoutes"]
    return { template := ← m.required "template", tcpRoutes := ← m.withDefault "tcpRoutes" [] }

/-- An address of a gateway. -/
structure GatewayAddress where
  type : Option String := none
  value : String
deriving DecidableEq

instance : JsonForm GatewayAddress where
  encode a := .obj <|
    Members.optional "type" a.type ++
    Members.always "value" a.value
  decode j := do
    let m ← j.record? ["type", "value"]
    return { type := ← m.maybe "type", value := ← m.required "value" }

/-- The standing of a gateway. -/
structure GatewayStatus where
  addresses : List GatewayAddress := []
  conditions : ConditionSet := .empty
deriving DecidableEq

instance : JsonForm GatewayStatus where
  encode s := .obj <|
    Members.always "addresses" s.addresses ++
    Members.always "conditions" s.conditions
  decode j := do
    let m ← j.record? ["addresses", "conditions"]
    return {
      addresses := ← m.withDefault "addresses" []
      conditions := ← m.withDefault "conditions" .empty }

/-! ## Workloads -/

/-- What a workload asks for. -/
structure WorkloadSpec where
  template : InstanceTemplate := {}
  placements : List Placement := []
  gateway : Option Gateway := none
deriving DecidableEq

instance : JsonForm WorkloadSpec where
  encode s := .obj <|
    Members.always "template" s.template ++
    Members.always "placements" s.placements ++
    Members.optional "gateway" s.gateway
  decode j := do
    let m ← j.record? ["template", "placements", "gateway"]
    return {
      template := ← m.withDefault "template" {}
      placements := ← m.withDefault "placements" []
      gateway := ← m.maybe "gateway" }

/-- The standing of a placement. -/
structure PlacementStatus where
  name : String
  conditions : ConditionSet := .empty
  replicas : Int32 := 0
  currentReplicas : Int32 := 0
  desiredReplicas : Int32 := 0
  readyReplicas : Int32 := 0
deriving DecidableEq

instance : JsonForm PlacementStatus where
  encode s := .obj <|
    Members.always "name" s.name ++
    Members.always "conditions" s.conditions ++
    Members.always "replicas" s.replicas ++
    Members.always "currentReplicas" s.currentReplicas ++
    Members.always "desiredReplicas" s.desiredReplicas ++
    Members.always "readyReplicas" s.readyReplicas
  decode j := do
    let m ← j.record?
      ["name", "conditions", "replicas", "currentReplicas", "desiredReplicas", "readyReplicas"]
    return {
      name := ← m.required "name"
      conditions := ← m.withDefault "conditions" .empty
      replicas := ← m.withDefault "replicas" 0
      currentReplicas := ← m.withDefault "currentReplicas" 0
      desiredReplicas := ← m.withDefault "desiredReplicas" 0
      readyReplicas := ← m.withDefault "readyReplicas" 0 }

/-- The standing of a workload, with an entry for every placement that has deployments. -/
structure WorkloadStatus where
  conditions : ConditionSet := .empty
  replicas : Int32 := 0
  currentReplicas : Int32 := 0
  desiredReplicas : Int32 := 0
  readyReplicas : Int32 := 0
  placements : List PlacementStatus := []
  gateway : Option GatewayStatus := none
deriving DecidableEq

instance : JsonForm WorkloadStatus where
  encode s := .obj <|
    Members.always "conditions" s.conditions ++
    Members.always "replicas" s.replicas ++
    Members.always "currentReplicas" s.currentReplicas ++
    Members.always "desiredReplicas" s.desiredReplicas ++
    Members.always "readyReplicas" s.readyReplicas ++
    Members.always "placements" s.placements ++
    Members.optional "gateway" s.gateway
  decode j := do
    let m ← j.record?
      ["conditions", "replicas", "currentReplicas", "desiredReplicas", "readyReplicas",
        "placements", "gateway"]
    return {
      conditions := ← m.withDefault "conditions" .empty
      replicas := ← m.withDefault "replicas" 0
      currentReplicas := ← m.withDefault "currentReplicas" 0
      desiredReplicas := ← m.withDefault "desiredReplicas" 0
      readyReplicas := ← m.withDefault "readyReplicas" 0
      placements := ← m.withDefault "placements" []
      gateway := ← m.maybe "gateway" }

/-- Instances to run and the placements to run them in. -/
abbrev Workload := Resource WorkloadSpec WorkloadStatus

instance : OfKind Workload := ⟨.workload⟩

namespace Workload

/-- The finalizer that keeps a workload until its deployments are gone. -/
def finalizer : String := "compute.datumapis.com/workload-controller"

/-- The label that holds the uid of the workload an object belongs to. -/
def uidLabel : String := "compute.datumapis.com/workload-uid"

end Workload

end ControlPlane
