import ControlPlane.Api.Collection
import ControlPlane.Api.Http
import ControlPlane.Store.Call

/-!
# Store calls over an API server

Every call to the store is one request. A write to an existing object is guarded: a replacement
carries the object's version, and a patch names it, so that the server refuses the write when another
writer was faster; a deletion is not guarded. `Call.request` is the request of a call and
`Call.reply` reads the answer to it.
-/

namespace ControlPlane

/-- Why a call failed: the object breaks a rule, or the request failed. -/
inductive CallError where
  | broken (e : Error)
  | client (e : ClientError)
deriving DecidableEq

/-- The error that a failed request is to the passes. -/
def ClientError.toError : ClientError → Error
  | .refused r =>
    if r.code = 409 then .conflict r.message
    else if r.code = 404 then .notFound r.message
    else .kubeApi ("ApiError: " ++ r.text)
  | .connection => .kubeApi "the connection failed"
  | .undecodable => .kubeApi "the answer describes no such object"
  | .unnamed => .kubeApi "the request needs a name"
  | .unaddressable => .kubeApi "the request has no valid target"

/-- The error that a failed call is to the passes. -/
def CallError.toError : CallError → Error
  | .broken e => e
  | .client e => e.toError

/-- The path of an object, which needs a name. -/
def objectPath (kind : Kind) (ns name : String) : Except ClientError String :=
  if name = "" then .error .unnamed
  else .ok ((⟨kind, some ns⟩ : Collection).path ++ "/" ++ name)

section Resource

variable {Spec Status : Type}

/-- How an error names an object. -/
def Resource.displayName (r : Resource Spec Status) : String :=
  r.metadata.name.getD "<unnamed>"

/-- The namespace of an object that is to be written. -/
def Resource.requireNamespace (r : Resource Spec Status) : Except CallError String :=
  match r.metadata.ns with
  | some ns => .ok ns
  | none => .error (.broken (.missingNamespace r.displayName))

/-- The version of an object that is to be patched. -/
def Resource.requireVersion (r : Resource Spec Status) : Except CallError String :=
  match r.metadata.resourceVersion with
  | some version => .ok version
  | none => .error (.broken (.missingVersion r.displayName))

/-- A merge patch that names the version it applies to, with more members of the metadata and
other members beside it. -/
def Resource.guardedPatch (r : Resource Spec Status) (inMetadata beside : Members) :
    Except CallError Json := do
  let version ← r.requireVersion
  return .obj <|
    ("metadata", .obj (Members.always "resourceVersion" version ++ inMetadata)) :: beside

variable [OfKind (Resource Spec Status)] [JsonForm Spec] [JsonForm Status]

/-- The request that creates an object. -/
def createRequest (r : Resource Spec Status) : Except CallError Request := do
  let ns ← r.requireNamespace
  let path := Collection.path ⟨kindOf (Resource Spec Status), some ns⟩
  (Request.send .post path .json (encode r)).mapError .client

omit [JsonForm Spec] [JsonForm Status] in
/-- The request that sends something to an object, or to a part of it. -/
def sendTo (r : Resource Spec Status) (ns part : String) (method : Method) (type : ContentType)
    (body : Json) : Except CallError Request :=
  Except.mapError .client do
    let path ← objectPath (kindOf (Resource Spec Status)) ns r.name
    Request.send method (path ++ part) type body

/-- The request that replaces an object. -/
def replaceRequest (r : Resource Spec Status) : Except CallError Request := do
  let ns ← r.requireNamespace
  sendTo r ns "" .put .json (encode r)

omit [JsonForm Spec] [JsonForm Status] in
/-- The request that deletes an object. -/
def deleteRequest (r : Resource Spec Status) : Except CallError Request := do
  let ns ← r.requireNamespace
  sendTo r ns "" .delete .json (.obj [])

omit [JsonForm Spec] [JsonForm Status] in
/-- The request that patches an object, or a part of it. -/
def patchRequest (r : Resource Spec Status) (part : String) (inMetadata beside : Members) :
    Except CallError Request := do
  let ns ← r.requireNamespace
  let patch ← r.guardedPatch inMetadata beside
  sendTo r ns part .patch .mergePatch patch

end Resource

/-- The request for an object. -/
def getRequest (kind : Kind) (ns name : String) : Except CallError Request :=
  Except.mapError .client do
    let path ← objectPath kind ns name
    Request.get path

/-- The request for a listing of a collection, narrowed down by a query. -/
def listRequest (c : Collection) (query : List (String × String)) : Except CallError Request :=
  (Request.list c.path query).mapError .client

/-- The query for the objects with a label. -/
def labelled (label value : String) : List (String × String) :=
  [("labelSelector", label ++ "=" ++ value)]

namespace Call

/-- The request of a call. -/
def request : Call → Except CallError Request
  | .getNetwork ns name => getRequest .network ns name
  | .listLocations => listRequest ⟨.location, none⟩ []
  | .getDeployment ns name => getRequest .workloadDeployment ns name
  | .listDeployments ns uid =>
    listRequest ⟨.workloadDeployment, some ns⟩ (labelled Workload.uidLabel uid)
  | .createDeployment d => createRequest d
  | .replaceDeployment d => replaceRequest d
  | .deleteDeployment d => deleteRequest d
  | .patchDeploymentStatus d status => patchRequest d "/status" [] (Members.always "status" status)
  | .setDeploymentFinalizers d finalizers =>
    patchRequest d "" (Members.always "finalizers" finalizers) []
  | .patchWorkloadStatus w status => patchRequest w "/status" [] (Members.always "status" status)
  | .setWorkloadFinalizers w finalizers =>
    patchRequest w "" (Members.always "finalizers" finalizers) []
  | .listInstances ns uid =>
    listRequest ⟨.inst, some ns⟩ (labelled Deployment.uidLabel uid)
  | .createInstance i => createRequest i
  | .replaceInstance i => replaceRequest i
  | .deleteInstance i => deleteRequest i
  | .patchInstanceStatus i status => patchRequest i "/status" [] (Members.always "status" status)
  | .setSchedulingGates i gates =>
    patchRequest i "" []
      [("spec", .obj [("controller", .obj (Members.always "schedulingGates" gates))])]
  | .getNetworkBinding ns name => getRequest .networkBinding ns name
  | .createNetworkBinding b => createRequest b
  | .getNetworkContext ns name => getRequest .networkContext ns name
  | .listSubnetClaims ns => listRequest ⟨.subnetClaim, some ns⟩ []
  | .createSubnetClaim c => createRequest c
  | .getSubnet ns name => getRequest .subnet ns name

/-- The reply of a write that is answered with the object, of which nothing is needed. -/
def discard {α : Type} (r : Except ClientError α) : Except ClientError Unit :=
  r.map fun _ => ()

/-- A deletion of an object that is gone already has done its work. -/
def ignoreNotFound (r : Except ClientError Unit) : Except ClientError Unit :=
  match r with
  | .error (.refused refusal) => if refusal.code = 404 then .ok () else .error (.refused refusal)
  | r => r

/-- What the response to a call's request says. -/
def reply : (c : Call) → Response → Except ClientError c.Reply
  | .getNetwork .., r => r.object? Network
  | .listLocations, r => r.items Location
  | .getDeployment .., r => r.object? Deployment
  | .listDeployments .., r => r.items Deployment
  | .createDeployment _, r => r.object Deployment
  | .replaceDeployment _, r => r.object Deployment
  | .deleteDeployment _, r => ignoreNotFound (r.deleted Deployment)
  | .patchDeploymentStatus .., r => discard (r.object Deployment)
  | .setDeploymentFinalizers .., r => discard (r.object Deployment)
  | .patchWorkloadStatus .., r => discard (r.object Workload)
  | .setWorkloadFinalizers .., r => discard (r.object Workload)
  | .listInstances .., r => r.items Instance
  | .createInstance _, r => discard (r.object Instance)
  | .replaceInstance _, r => discard (r.object Instance)
  | .deleteInstance _, r => ignoreNotFound (r.deleted Instance)
  | .patchInstanceStatus .., r => discard (r.object Instance)
  | .setSchedulingGates .., r => discard (r.object Instance)
  | .getNetworkBinding .., r => r.object? NetworkBinding
  | .createNetworkBinding _, r => r.object NetworkBinding
  | .getNetworkContext .., r => r.object? NetworkContext
  | .listSubnetClaims _, r => r.items SubnetClaim
  | .createSubnetClaim _, r => r.object SubnetClaim
  | .getSubnet .., r => r.object? Subnet

end Call

end ControlPlane
