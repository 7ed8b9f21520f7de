import ControlPlane.Error
import ControlPlane.Schema.Deployment
import ControlPlane.Schema.Network

/-!
# Calls to the store

Everything a reconcile pass asks of the store or has it write, one constructor to a request. Reads of
missing objects are answered with `none`. `Call.name` and `Call.arguments` describe a call as a log
shows it.
-/

namespace ControlPlane

/-- A request to the store. -/
inductive Call where
  | getNetwork (ns name : String)
  /-- All locations, in listing order. -/
  | listLocations
  | getDeployment (ns name : String)
  /-- The deployments labelled with a workload's uid. -/
  | listDeployments (ns workloadUid : String)
  | createDeployment (d : Deployment)
  | replaceDeployment (d : Deployment)
  | deleteDeployment (d : Deployment)
  | patchDeploymentStatus (d : Deployment) (status : DeploymentStatus)
  | setDeploymentFinalizers (d : Deployment) (finalizers : List String)
  | patchWorkloadStatus (w : Workload) (status : WorkloadStatus)
  | setWorkloadFinalizers (w : Workload) (finalizers : List String)
  /-- The instances labelled with a deployment's uid. -/
  | listInstances (ns deploymentUid : String)
  | createInstance (i : Instance)
  | replaceInstance (i : Instance)
  | deleteInstance (i : Instance)
  | patchInstanceStatus (i : Instance) (status : InstanceStatus)
  | setSchedulingGates (i : Instance) (gates : List SchedulingGate)
  | getNetworkBinding (ns name : String)
  | createNetworkBinding (b : NetworkBinding)
  | getNetworkContext (ns name : String)
  | listSubnetClaims (ns : String)
  | createSubnetClaim (c : SubnetClaim)
  | getSubnet (ns name : String)

namespace Call

/-- What a call is answered with. -/
@[reducible] def Reply : Call → Type
  | .getNetwork .. => Option Network
  | .listLocations => List Location
  | .getDeployment .. => Option Deployment
  | .listDeployments .. => List Deployment
  | .createDeployment _ => Deployment
  | .replaceDeployment _ => Deployment
  | .deleteDeployment _ => Unit
  | .patchDeploymentStatus .. => Unit
  | .setDeploymentFinalizers .. => Unit
  | .patchWorkloadStatus .. => Unit
  | .setWorkloadFinalizers .. => Unit
  | .listInstances .. => List Instance
  | .createInstance _ => Unit
  | .replaceInstance _ => Unit
  | .deleteInstance _ => Unit
  | .patchInstanceStatus .. => Unit
  | .setSchedulingGates .. => Unit
  | .getNetworkBinding .. => Option NetworkBinding
  | .createNetworkBinding _ => NetworkBinding
  | .getNetworkContext .. => Option NetworkContext
  | .listSubnetClaims _ => List SubnetClaim
  | .createSubnetClaim _ => SubnetClaim
  | .getSubnet .. => Option Subnet

/-- The name of a call. -/
def name : Call → String
  | .getNetwork .. => "get_network"
  | .listLocations => "list_locations"
  | .getDeployment .. => "get_deployment"
  | .listDeployments .. => "list_deployments_for_workload"
  | .createDeployment _ => "create_deployment"
  | .replaceDeployment _ => "replace_deployment"
  | .deleteDeployment _ => "delete_deployment"
  | .patchDeploymentStatus .. => "patch_deployment_status"
  | .setDeploymentFinalizers .. => "set_deployment_finalizers"
  | .patchWorkloadStatus .. => "patch_workload_status"
  | .setWorkloadFinalizers .. => "set_workload_finalizers"
  | .listInstances .. => "list_instances_for_deployment"
  | .createInstance _ => "create_instance"
  | .replaceInstance _ => "replace_instance"
  | .deleteInstance _ => "delete_instance"
  | .patchInstanceStatus .. => "patch_instance_status"
  | .setSchedulingGates .. => "set_instance_scheduling_gates"
  | .getNetworkBinding .. => "get_network_binding"
  | .createNetworkBinding _ => "create_network_binding"
  | .getNetworkContext .. => "get_network_context"
  | .listSubnetClaims _ => "list_subnet_claims"
  | .createSubnetClaim _ => "create_subnet_claim"
  | .getSubnet .. => "get_subnet"

/-- The namespace and name that a call about one object names. -/
def address {Spec Status : Type} (r : Resource Spec Status) : Members :=
  Members.always "namespace" r.namespaceName ++ Members.always "name" r.storedName

/-- The arguments of a call. -/
def arguments : Call → Members
  | .getNetwork ns name | .getDeployment ns name | .getNetworkBinding ns name
  | .getNetworkContext ns name | .getSubnet ns name =>
    Members.always "namespace" ns ++ Members.always "name" name
  | .listLocations => []
  | .listSubnetClaims ns => Members.always "namespace" ns
  | .listDeployments ns uid | .listInstances ns uid =>
    Members.always "namespace" ns ++ Members.always "uid" uid
  | .createDeployment d | .replaceDeployment d => Members.always "object" d
  | .createInstance i | .replaceInstance i => Members.always "object" i
  | .createNetworkBinding b => Members.always "object" b
  | .createSubnetClaim c => Members.always "object" c
  | .deleteDeployment d => address d
  | .deleteInstance i => address i
  | .patchDeploymentStatus d status => address d ++ Members.always "status" status
  | .patchWorkloadStatus w status => address w ++ Members.always "status" status
  | .patchInstanceStatus i status => address i ++ Members.always "status" status
  | .setDeploymentFinalizers d finalizers => address d ++ Members.always "finalizers" finalizers
  | .setWorkloadFinalizers w finalizers => address w ++ Members.always "finalizers" finalizers
  | .setSchedulingGates i gates => address i ++ Members.always "gates" gates

/-- Whether a call changes the store when it succeeds. -/
def isWrite : Call → Bool
  | .getNetwork .. | .listLocations | .getDeployment .. | .listDeployments .. | .listInstances ..
  | .getNetworkBinding .. | .getNetworkContext .. | .listSubnetClaims _ | .getSubnet .. => false
  | _ => true

end Call

end ControlPlane
