import ControlPlane.Schema.Location

/-!
# Networks

The chain from a network to addresses at a location: a binding asks for the network there, a context
is the network made real there, a claim asks for a subnet within the context, and a subnet is the
range of addresses it gets. Every link reports a `Ready` condition.
-/

namespace ControlPlane

/-- The family of a subnet's addresses. -/
inductive IpFamily where
  | ipv4
  | ipv6
deriving DecidableEq

instance : JsonForm IpFamily where
  encode
    | .ipv4 => .str "IPv4"
    | .ipv6 => .str "IPv6"
  decode j := do
    match ← j.variant? with
    | "IPv4" => return .ipv4
    | "IPv6" => return .ipv6
    | _ => none

/-! ## Networks -/

/-- How the addresses of a network are managed. -/
structure NetworkIpam where
  mode : String := "Auto"
  ipv4Ranges : List String := []
  ipv6Ranges : List String := []
deriving DecidableEq

instance : JsonForm NetworkIpam where
  encode i := .obj <|
    Members.always "mode" i.mode ++
    Members.unlessEmpty "ipv4Ranges" i.ipv4Ranges ++
    Members.unlessEmpty "ipv6Ranges" i.ipv6Ranges
  decode j := do
    let m ← j.record? ["mode", "ipv4Ranges", "ipv6Ranges"]
    return {
      mode := ← m.withDefault "mode" "Auto"
      ipv4Ranges := ← m.withDefault "ipv4Ranges" []
      ipv6Ranges := ← m.withDefault "ipv6Ranges" [] }

/-- A network that instances attach to. -/
structure NetworkSpec where
  ipam : NetworkIpam := {}
  /-- The largest packet the network carries. -/
  mtu : Int32 := 1460
deriving DecidableEq

instance : JsonForm NetworkSpec where
  encode s := .obj <|
    Members.always "ipam" s.ipam ++
    Members.always "mtu" s.mtu
  decode j := do
    let m ← j.record? ["ipam", "mtu"]
    return {
      ipam := ← m.withDefault "ipam" {}
      mtu := ← m.withDefault "mtu" 1460 }

/-- A network. -/
abbrev Network := Resource NetworkSpec ConditionsStatus

instance : OfKind Network := ⟨.network⟩

/-! ## Bindings and contexts -/

/-- A network at a location. -/
structure NetworkPlace where
  network : NetworkReference
  location : LocationReference
deriving DecidableEq

instance : JsonForm NetworkPlace where
  encode s := .obj <|
    Members.always "network" s.network ++
    Members.always "location" s.location
  decode j := do
    let m ← j.record? ["network", "location"]
    return { network := ← m.required "network", location := ← m.required "location" }

/-- The standing of a binding, with the context it led to. -/
structure BindingStatus where
  context : Option ContextReference := none
  conditions : ConditionSet := .empty
deriving DecidableEq

instance : JsonForm BindingStatus where
  encode s := .obj <|
    Members.optional "networkContextRef" s.context ++
    Members.always "conditions" s.conditions
  decode j := do
    let m ← j.record? ["networkContextRef", "conditions"]
    return {
      context := ← m.maybe "networkContextRef"
      conditions := ← m.withDefault "conditions" .empty }

/-- A request for a network at a location. -/
abbrev NetworkBinding := Resource NetworkPlace BindingStatus

instance : OfKind NetworkBinding := ⟨.networkBinding⟩

/-- A network made real at a location. -/
abbrev NetworkContext := Resource NetworkPlace ConditionsStatus

instance : OfKind NetworkContext := ⟨.networkContext⟩

/-! ## Claims and subnets -/

/-- A request for a subnet within a context. -/
structure SubnetClaimSpec where
  subnetClass : String
  ipFamily : IpFamily
  context : LocalReference
  location : LocationReference
  prefixLength : Option Int32 := none
  startAddress : Option String := none
deriving DecidableEq

instance : JsonForm SubnetClaimSpec where
  encode s := .obj <|
    Members.always "subnetClass" s.subnetClass ++
    Members.always "ipFamily" s.ipFamily ++
    Members.always "networkContext" s.context ++
    Members.always "location" s.location ++
    Members.optional "prefixLength" s.prefixLength ++
    Members.optional "startAddress" s.startAddress
  decode j := do
    let m ← j.record?
      ["subnetClass", "ipFamily", "networkContext", "location", "prefixLength", "startAddress"]
    return {
      subnetClass := ← m.required "subnetClass"
      ipFamily := ← m.required "ipFamily"
      context := ← m.required "networkContext"
      location := ← m.required "location"
      prefixLength := ← m.maybe "prefixLength"
      startAddress := ← m.maybe "startAddress" }

/-- The standing of a claim, with the subnet it got. -/
structure SubnetClaimStatus where
  subnet : Option LocalReference := none
  prefixLength : Option Int32 := none
  startAddress : Option String := none
  conditions : ConditionSet := .empty
deriving DecidableEq

instance : JsonForm SubnetClaimStatus where
  encode s := .obj <|
    Members.optional "subnetRef" s.subnet ++
    Members.optional "prefixLength" s.prefixLength ++
    Members.optional "startAddress" s.startAddress ++
    Members.always "conditions" s.conditions
  decode j := do
    let m ← j.record? ["subnetRef", "prefixLength", "startAddress", "conditions"]
    return {
      subnet := ← m.maybe "subnetRef"
      prefixLength := ← m.maybe "prefixLength"
      startAddress := ← m.maybe "startAddress"
      conditions := ← m.withDefault "conditions" .empty }

/-- A claim on a subnet. -/
abbrev SubnetClaim := Resource SubnetClaimSpec SubnetClaimStatus

instance : OfKind SubnetClaim := ⟨.subnetClaim⟩

/-- A range of addresses within a context. -/
structure SubnetSpec where
  subnetClass : String
  ipFamily : IpFamily
  context : LocalReference
  location : LocationReference
  startAddress : String
  prefixLength : Int32
deriving DecidableEq

instance : JsonForm SubnetSpec where
  encode s := .obj <|
    Members.always "subnetClass" s.subnetClass ++
    Members.always "ipFamily" s.ipFamily ++
    Members.always "networkContext" s.context ++
    Members.always "location" s.location ++
    Members.always "startAddress" s.startAddress ++
    Members.always "prefixLength" s.prefixLength
  decode j := do
    let m ← j.record?
      ["subnetClass", "ipFamily", "networkContext", "location", "startAddress", "prefixLength"]
    return {
      subnetClass := ← m.required "subnetClass"
      ipFamily := ← m.required "ipFamily"
      context := ← m.required "networkContext"
      location := ← m.required "location"
      startAddress := ← m.required "startAddress"
      prefixLength := ← m.required "prefixLength" }

/-- The standing of a subnet. -/
structure SubnetStatus where
  startAddress : Option String := none
  prefixLength : Option Int32 := none
  conditions : ConditionSet := .empty
deriving DecidableEq

instance : JsonForm SubnetStatus where
  encode s := .obj <|
    Members.optional "startAddress" s.startAddress ++
    Members.optional "prefixLength" s.prefixLength ++
    Members.always "conditions" s.conditions
  decode j := do
    let m ← j.record? ["startAddress", "prefixLength", "conditions"]
    return {
      startAddress := ← m.maybe "startAddress"
      prefixLength := ← m.maybe "prefixLength"
      conditions := ← m.withDefault "conditions" .empty }

/-- An allocated range of addresses. -/
abbrev Subnet := Resource SubnetSpec SubnetStatus

instance : OfKind Subnet := ⟨.subnet⟩

/-- The class of the subnets that instances are given. -/
def SubnetClaim.privateClass : String := "private"

end ControlPlane
