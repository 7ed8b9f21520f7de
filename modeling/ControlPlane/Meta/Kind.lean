/-!
# Kinds of resources

The nine kinds the orchestrator knows: the three compute kinds it manages and the six networking
kinds it depends on.
-/

namespace ControlPlane

/-- A kind of resource. -/
inductive Kind where
  | workload
  | workloadDeployment
  | inst
  | location
  | network
  | networkBinding
  | networkContext
  | subnetClaim
  | subnet
deriving DecidableEq, Inhabited

namespace Kind

/-- Every kind. -/
def all : List Kind :=
  [.workload, .workloadDeployment, .inst, .location, .network, .networkBinding,
    .networkContext, .subnetClaim, .subnet]

/-- The name of a kind. -/
def name : Kind → String
  | .workload => "Workload"
  | .workloadDeployment => "WorkloadDeployment"
  | .inst => "Instance"
  | .location => "Location"
  | .network => "Network"
  | .networkBinding => "NetworkBinding"
  | .networkContext => "NetworkContext"
  | .subnetClaim => "SubnetClaim"
  | .subnet => "Subnet"

/-- The name of a kind in small letters. -/
def singular (k : Kind) : String :=
  String.ofList (k.name.toList.map Char.toLower)

/-- The name of a kind's collection. -/
def plural (k : Kind) : String :=
  k.singular ++ "s"

/-- The API group of a kind. -/
def group : Kind → String
  | .workload | .workloadDeployment | .inst => "compute.datumapis.com"
  | _ => "networking.datumapis.com"

/-- The version of every kind. -/
def version : String := "v1alpha"

/-- The group and version of a kind. -/
def apiVersion (k : Kind) : String :=
  k.group ++ "/" ++ version

/-- The kind of that name. -/
def ofName? (name : String) : Option Kind :=
  all.find? (·.name == name)

/-- The kind whose collections bear that name. -/
def ofPlural? (plural : String) : Option Kind :=
  all.find? (·.plural == plural)

end Kind

end ControlPlane
