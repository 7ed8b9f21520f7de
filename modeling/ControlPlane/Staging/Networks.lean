import ControlPlane.Store.Pass

/-!
# Staging the networks of a deployment

The instances of a deployment wait until every link of the chain from each of their interfaces to a
subnet is ready: a binding for the interface, the context the binding leads to, a claim on a private
IPv4 subnet in that context, and the subnet the claim got. `Deployment.stageNetworks` makes the
bindings and claims that are missing and tells whether the chain is complete; a link that is not
ready is no error.
-/

namespace ControlPlane

/-- The conditions of a link say that it is ready. -/
def linkReady (conditions : Option ConditionSet) : Bool :=
  match conditions with
  | some s => s.isTrue Condition.ready
  | none => false

namespace NetworkBinding

/-- The name of the binding for an interface of a deployment. -/
def nameFor (deployment : String) (index : Nat) : String :=
  deployment ++ "-net-" ++ Nat.repr index

/-- The binding is ready. -/
def isReady (b : NetworkBinding) : Bool :=
  linkReady (b.status.map (·.conditions))

/-- The context that the binding led to. -/
def context? (b : NetworkBinding) : Option ContextReference :=
  b.status.bind (·.context)

end NetworkBinding

namespace NetworkContext

/-- The context is ready. -/
def isReady (c : NetworkContext) : Bool :=
  linkReady (c.status.map (·.conditions))

end NetworkContext

namespace SubnetClaim

/-- The claim is ready. -/
def isReady (c : SubnetClaim) : Bool :=
  linkReady (c.status.map (·.conditions))

/-- The subnet that the claim got. -/
def subnet? (c : SubnetClaim) : Option LocalReference :=
  c.status.bind (·.subnet)

/-- The claim is for a private IPv4 subnet of a context at a location. -/
def serves (c : SubnetClaim) (context : String) (location : LocationReference) : Bool :=
  c.spec.subnetClass == privateClass && c.spec.ipFamily == .ipv4 &&
    c.spec.context.name == context && c.spec.location == location

/-- The claim made for a context at a location. -/
def forContext (context : NetworkContext) (location : LocationReference)
    (owner : OwnerReference) : SubnetClaim where
  metadata := {
    name := some (context.name ++ "-0")
    ns := context.metadata.ns
    ownerReferences := some [owner] }
  spec := {
    subnetClass := privateClass
    ipFamily := .ipv4
    context := ⟨context.name⟩
    location }

end SubnetClaim

namespace Subnet

/-- The subnet is ready. -/
def isReady (s : Subnet) : Bool :=
  linkReady (s.status.map (·.conditions))

end Subnet

namespace Deployment

open Pass (perform)

/-- The binding made for an interface of a deployment. -/
def newBinding (d : Deployment) (ns : String) (location : LocationReference)
    (owner : OwnerReference) (index : Nat) (i : NetworkInterface) : NetworkBinding where
  metadata := {
    name := some (NetworkBinding.nameFor d.name index)
    ns := some ns
    ownerReferences := some [owner] }
  spec := { network := i.network, location }

/-- The binding of an interface, made if it is missing. -/
def stageBinding (d : Deployment) (ns : String) (location : LocationReference)
    (index : Nat) (i : NetworkInterface) : Pass NetworkBinding := do
  match ← perform (.getNetworkBinding ns (NetworkBinding.nameFor d.name index)) with
  | some binding => return binding
  | none =>
    match d.controllerReference? with
    | some owner => perform (.createNetworkBinding (d.newBinding ns location owner index i))
    | none => .abort (.cannotOwn "deployment" d.name)

/-- The bindings of the interfaces from `index` on. -/
def stageBindings (d : Deployment) (ns : String) (location : LocationReference) (index : Nat) :
    List NetworkInterface → Pass (List NetworkBinding)
  | [] => return []
  | i :: rest => do
    let binding ← d.stageBinding ns location index i
    let bindings ← d.stageBindings ns location (index + 1) rest
    return binding :: bindings

/-- Makes the claim for a context. -/
def claimSubnet (context : NetworkContext) (location : LocationReference) : Pass SubnetClaim :=
  match context.ownerReference? with
  | some owner => perform (.createSubnetClaim (.forContext context location owner))
  | none => .abort (.cannotOwn "network context" context.name)

/-- Whether a context has a ready subnet at a location; claims one if nothing does. -/
def stageSubnet (location : LocationReference) (context : ContextReference) : Pass Bool := do
  match ← perform (.getNetworkContext context.ns context.name) with
  | none => return false
  | some found =>
    if !NetworkContext.isReady found then return false
    let claims ← perform (.listSubnetClaims context.ns)
    match claims.find? (SubnetClaim.serves · context.name location) with
    | none =>
      let _ ← claimSubnet found location
      return false
    | some claim =>
      if !SubnetClaim.isReady claim then return false
      match SubnetClaim.subnet? claim with
      | none => return false
      | some reference =>
        match ← perform (.getSubnet context.ns reference.name) with
        | some subnet => return Subnet.isReady subnet
        | none => return false

/-- Whether every context has a ready subnet, up to the first that has none. -/
def stageSubnets (location : LocationReference) : List ContextReference → Pass Bool
  | [] => return true
  | context :: rest => do
    if ← stageSubnet location context then stageSubnets location rest
    else return false

/-- Whether the networks of a deployment are ready; makes the links that are missing. -/
def stageNetworks (d : Deployment) : Pass Bool :=
  match d.location with
  | none => return false
  | some location =>
    match d.metadata.ns with
    | none => .abort (.missingNamespace ("deployment " ++ d.name))
    | some ns => do
      let bindings ← d.stageBindings ns location 0 d.interfaces
      if bindings.all NetworkBinding.isReady then
        stageSubnets location (bindings.filterMap NetworkBinding.context?)
      else return false

end Deployment

end ControlPlane
