import ControlPlane.Proofs.Server.Table
import ControlPlane.Store.Pass

/-!
# An API server

A server keeps a table of the objects of each kind. It answers every call of the store at once, and
refuses only what the tables refuse: to create an object under a name that is taken, and to change
one that is gone or was changed since it was read. What the tables take from the API server, the
versions, uids and the order of lists among it, is said in `Table`. Besides:

* A read or list answers what is stored when it is made, and changes nothing. Lists by a label are of
  one namespace, and those of locations of all namespaces.
* A patch of a status is merged into the stored one, member by member, and touches nothing else.
* A patch of finalizers or of scheduling gates replaces the whole list.

That a call fails or its reply gets lost, and that a cache lags behind the server, is no part of it; both
are left to the runs.

* `Server.answer`: how the server answers each call at a given time.
-/

namespace ControlPlane

/-- The objects of every kind. -/
structure Server where
  networks : Table NetworkSpec ConditionsStatus
  locations : Table LocationSpec ConditionsStatus
  workloads : Table WorkloadSpec WorkloadStatus
  deployments : Table DeploymentSpec DeploymentStatus
  instances : Table InstanceSpec InstanceStatus
  bindings : Table NetworkPlace BindingStatus
  contexts : Table NetworkPlace ConditionsStatus
  claims : Table SubnetClaimSpec SubnetClaimStatus
  subnets : Table SubnetSpec SubnetStatus

namespace Server

/-- The server that holds nothing. -/
def empty : Server where
  networks := .empty
  locations := .empty
  workloads := .empty
  deployments := .empty
  instances := .empty
  bindings := .empty
  contexts := .empty
  claims := .empty
  subnets := .empty

variable {α : Type}

/-- The reply of a write of a workload, and what becomes of the server. -/
def onWorkloads (s : Server) (r : Except Error α × Table WorkloadSpec WorkloadStatus) :
    Except Error α × Server :=
  (r.1, { s with workloads := r.2 })

/-- The reply of a write of a deployment, and what becomes of the server. -/
def onDeployments (s : Server) (r : Except Error α × Table DeploymentSpec DeploymentStatus) :
    Except Error α × Server :=
  (r.1, { s with deployments := r.2 })

/-- The reply of a write of an instance, and what becomes of the server. -/
def onInstances (s : Server) (r : Except Error α × Table InstanceSpec InstanceStatus) :
    Except Error Unit × Server :=
  (r.1.map fun _ => (), { s with instances := r.2 })

/-- The reply of a write of a binding, and what becomes of the server. -/
def onBindings (s : Server) (r : Except Error α × Table NetworkPlace BindingStatus) :
    Except Error α × Server :=
  (r.1, { s with bindings := r.2 })

/-- The reply of a write of a claim, and what becomes of the server. -/
def onClaims (s : Server) (r : Except Error α × Table SubnetClaimSpec SubnetClaimStatus) :
    Except Error α × Server :=
  (r.1, { s with claims := r.2 })

/-- The instance with other gates; one without a controller's record has none to hold. -/
def withGates (gates : List SchedulingGate) (i : Instance) : Instance :=
  { i with spec := { i.spec with control := i.spec.control.map fun c => { c with gates } } }

/-- The instances of a namespace that are labelled with a deployment's uid. -/
def instancesOf (s : Server) (ns uid : String) : List Instance :=
  s.instances.list ns (·.label? Deployment.uidLabel == some uid)

/-- How the server answers a call. -/
def answer (now : Instant) : Answer Server
  | .getNetwork ns name, s => (.ok (s.networks.find? ns name), s)
  | .listLocations, s => (.ok s.locations.objects, s)
  | .getDeployment ns name, s => (.ok (s.deployments.find? ns name), s)
  | .listDeployments ns uid, s =>
    (.ok (s.deployments.list ns (·.label? Workload.uidLabel == some uid)), s)
  | .createDeployment d, s => s.onDeployments (s.deployments.create now d)
  | .replaceDeployment d, s => s.onDeployments (s.deployments.replace d)
  | .deleteDeployment d, s => s.onDeployments (s.deployments.delete now d)
  | .patchDeploymentStatus d status, s => s.onDeployments (s.deployments.patchStatus d status)
  | .setDeploymentFinalizers d finalizers, s =>
    s.onDeployments (s.deployments.setFinalizers d finalizers)
  | .patchWorkloadStatus w status, s => s.onWorkloads (s.workloads.patchStatus w status)
  | .setWorkloadFinalizers w finalizers, s =>
    s.onWorkloads (s.workloads.setFinalizers w finalizers)
  | .listInstances ns uid, s => (.ok (s.instancesOf ns uid), s)
  | .createInstance i, s => s.onInstances (s.instances.create now i)
  | .replaceInstance i, s => s.onInstances (s.instances.replace i)
  | .deleteInstance i, s => s.onInstances (s.instances.delete now i)
  | .patchInstanceStatus i status, s => s.onInstances (s.instances.patchStatus i status)
  | .setSchedulingGates i gates, s => s.onInstances (s.instances.patch i (withGates gates))
  | .getNetworkBinding ns name, s => (.ok (s.bindings.find? ns name), s)
  | .createNetworkBinding b, s => s.onBindings (s.bindings.create now b)
  | .getNetworkContext ns name, s => (.ok (s.contexts.find? ns name), s)
  | .listSubnetClaims ns, s => (.ok (s.claims.list ns fun _ => true), s)
  | .createSubnetClaim c, s => s.onClaims (s.claims.create now c)
  | .getSubnet ns name, s => (.ok (s.subnets.find? ns name), s)

/-- No call changes the networks. -/
theorem answer_networks (now : Instant) (c : Call) (s : Server) :
    (answer now c s).2.networks = s.networks := by
  cases c <;> rfl

/-- No call changes the locations. -/
theorem answer_locations (now : Instant) (c : Call) (s : Server) :
    (answer now c s).2.locations = s.locations := by
  cases c <;> rfl

end Server

end ControlPlane
