import ControlPlane.Schema.Deployment
import ControlPlane.Schema.Network

/-!
# Resources of any kind

A resource together with its kind, for places where all kinds meet: a listing, a watch, a store.
-/

namespace ControlPlane

/-- A resource of any kind. -/
inductive AnyResource where
  | workload (w : Workload)
  | deployment (d : Deployment)
  | inst (i : Instance)
  | location (l : Location)
  | network (n : Network)
  | networkBinding (b : NetworkBinding)
  | networkContext (c : NetworkContext)
  | subnetClaim (c : SubnetClaim)
  | subnet (s : Subnet)

namespace AnyResource

/-- The kind of a resource. -/
def kind : AnyResource → Kind
  | .workload _ => .workload
  | .deployment _ => .workloadDeployment
  | .inst _ => .inst
  | .location _ => .location
  | .network _ => .network
  | .networkBinding _ => .networkBinding
  | .networkContext _ => .networkContext
  | .subnetClaim _ => .subnetClaim
  | .subnet _ => .subnet

/-- The metadata of a resource. -/
def metadata : AnyResource → ObjectMeta
  | .workload w => w.metadata
  | .deployment d => d.metadata
  | .inst i => i.metadata
  | .location l => l.metadata
  | .network n => n.metadata
  | .networkBinding b => b.metadata
  | .networkContext c => c.metadata
  | .subnetClaim c => c.metadata
  | .subnet s => s.metadata

/-- The JSON form of a resource. -/
def toJson : AnyResource → Json
  | .workload w => encode w
  | .deployment d => encode d
  | .inst i => encode i
  | .location l => encode l
  | .network n => encode n
  | .networkBinding b => encode b
  | .networkContext c => encode c
  | .subnetClaim c => encode c
  | .subnet s => encode s

/-- The resource of a kind that a JSON value describes. -/
def ofJson? (kind : Kind) (j : Json) : Option AnyResource :=
  match kind with
  | .workload => (decode j).map .workload
  | .workloadDeployment => (decode j).map .deployment
  | .inst => (decode j).map .inst
  | .location => (decode j).map .location
  | .network => (decode j).map .network
  | .networkBinding => (decode j).map .networkBinding
  | .networkContext => (decode j).map .networkContext
  | .subnetClaim => (decode j).map .subnetClaim
  | .subnet => (decode j).map .subnet

/-- A resource as a reader takes it who expects one of a kind: its JSON form is all that is known of
it. -/
def readAs (kind : Kind) (r : AnyResource) : Option AnyResource :=
  if r.kind = kind then some r else ofJson? kind r.toJson

end AnyResource

end ControlPlane
