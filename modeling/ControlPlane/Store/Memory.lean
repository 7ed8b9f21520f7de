import ControlPlane.Store.Pass

/-!
# A store in memory

The store is an ordered list of documents, an object being found by its kind, namespace and name. A
document is what was last written: reading decodes it. Created objects get a uid from one counter for
all kinds. A document that is marked for deletion goes as soon as it holds no finalizer.

* `Memory.answer`: how the store answers each call at a given time.
-/

namespace ControlPlane

/-- An object as it was written. -/
structure Document where
  kind : Kind
  body : Json

namespace Document

/-- A text in the metadata, empty when absent. -/
def metadataText (d : Document) (name : String) : String :=
  ((d.body.path? ["metadata", name]).bind Json.text?).getD ""

/-- The namespace of the object. -/
def ns (d : Document) : String :=
  d.metadataText "namespace"

/-- The name of the object. -/
def name (d : Document) : String :=
  d.metadataText "name"

/-- The object is the one of this kind, namespace and name. -/
def isAt (kind : Kind) (ns name : String) (d : Document) : Bool :=
  d.kind == kind && d.ns == ns && d.name == name

/-- The object is marked for deletion. -/
def isDeleting (d : Document) : Bool :=
  (d.body.path? ["metadata", "deletionTimestamp"]).isSome

/-- The object holds a finalizer. -/
def holdsFinalizer (d : Document) : Bool :=
  match d.body.path? ["metadata", "finalizers"] with
  | some (.arr (_ :: _)) => true
  | _ => false

/-- The document of a resource. -/
def of {α : Type} [OfKind α] [JsonForm α] (a : α) : Document :=
  ⟨kindOf α, encode a⟩

/-- The resource that a document describes. -/
def as? (α : Type) [OfKind α] [JsonForm α] (d : Document) : Option α :=
  if d.kind = kindOf α then decode d.body else none

end Document

/-- How an error names an object. -/
def describe (kind : Kind) (ns name : String) : String :=
  kind.name ++ " " ++ ns ++ "/" ++ name

/-- Documents in order, and how many were created. -/
structure Memory where
  documents : List Document := []
  created : Nat := 0

namespace Memory

/-- The document of an object. -/
def find? (s : Memory) (kind : Kind) (ns name : String) : Option Document :=
  s.documents.find? (Document.isAt kind ns name)

/-- The object of that name. -/
def read (α : Type) [OfKind α] [JsonForm α] (s : Memory) (ns name : String) : Option α :=
  (s.find? (kindOf α) ns name).bind (Document.as? α)

/-- All objects of a type, in order. -/
def all (α : Type) [OfKind α] [JsonForm α] (s : Memory) : List α :=
  s.documents.filterMap (Document.as? α)

/-- Replaces the first document that `p` picks out by what `f` makes of it, if anything. -/
def alterFirst (p : Document → Bool) (f : Document → Option Document) :
    List Document → List Document
  | [] => []
  | d :: rest => if p d then (f d).toList ++ rest else d :: alterFirst p f rest

/-- Writes a document in place of the one of the same object, or after all others. -/
def put (s : Memory) (d : Document) : Memory :=
  let same := Document.isAt d.kind d.ns d.name
  if s.documents.any same then
    { s with documents := alterFirst same (fun _ => some d) s.documents }
  else { s with documents := s.documents ++ [d] }

/-- Takes the document of an object out. -/
def remove (s : Memory) (kind : Kind) (ns name : String) : Memory :=
  { s with documents := alterFirst (Document.isAt kind ns name) (fun _ => none) s.documents }

/-- A document, unless it is marked for deletion and holds no finalizer. -/
def kept (d : Document) : Option Document :=
  if d.isDeleting && !d.holdsFinalizer then none else some d

/-- Changes the body of an existing object. -/
def change (s : Memory) (kind : Kind) (ns name : String) (f : Json → Json) :
    Except Error Unit × Memory :=
  let here := Document.isAt kind ns name
  if s.documents.any here then
    (.ok (), { s with
      documents := alterFirst here (fun d => kept { d with body := f d.body }) s.documents })
  else (.error (.notFound (describe kind ns name ++ " not found")), s)

/-- The uid of the next object created. -/
def nextUid (s : Memory) (kind : Kind) : String :=
  kind.singular ++ "-uid-" ++ Nat.repr (s.created + 1)

section Resource

variable {Spec Status : Type} [JsonForm Spec] [JsonForm Status] [OfKind (Resource Spec Status)]

/-- Creates an object under a name that is free. -/
def create (s : Memory) (r : Resource Spec Status) :
    Except Error (Resource Spec Status) × Memory :=
  let kind := kindOf (Resource Spec Status)
  let d := Document.of r
  if s.documents.any (Document.isAt kind d.ns d.name) then
    (.error (.conflict (describe kind d.ns d.name ++ " already exists")), s)
  else
    let r := { r with metadata := { r.metadata with uid := some (s.nextUid kind) } }
    (.ok r, { documents := s.documents ++ [Document.of r], created := s.created + 1 })

/-- Writes an existing object anew. -/
def replace (s : Memory) (r : Resource Spec Status) :
    Except Error (Resource Spec Status) × Memory :=
  let d := Document.of r
  match s.change d.kind d.ns d.name fun _ => d.body with
  | (.ok (), s) => (.ok r, s)
  | (.error e, s) => (.error e, s)

/-- Binds the value at a path of an existing object. -/
def setIn (s : Memory) (r : Resource Spec Status) (path : List String) (v : Json) :
    Except Error Unit × Memory :=
  s.change (kindOf (Resource Spec Status)) r.namespaceName r.storedName (·.setPath path v)

/-- Removes an object that holds no finalizer, and marks any other for deletion. -/
def delete (s : Memory) (now : Instant) (r : Resource Spec Status) :
    Except Error Unit × Memory :=
  let kind := kindOf (Resource Spec Status)
  let mark (d : Document) : Option Document :=
    if !d.holdsFinalizer then none
    else if d.isDeleting then some d
    else some { d with
      body := d.body.setPath ["metadata", "deletionTimestamp"] (encode now) }
  (.ok (), { s with
    documents := alterFirst (Document.isAt kind r.namespaceName r.storedName) mark s.documents })

end Resource

/-- The reply of a write that is answered with nothing. -/
def unitReply {α σ : Type} : Except Error α × σ → Except Error Unit × σ
  | (r, s) => (r.map fun _ => (), s)

/-- How the store answers a call. -/
def answer (now : Instant) : Answer Memory
  | .getNetwork ns name, s => (.ok (s.read Network ns name), s)
  | .listLocations, s => (.ok (s.all Location), s)
  | .getDeployment ns name, s => (.ok (s.read Deployment ns name), s)
  | .listDeployments ns uid, s =>
    (.ok ((s.all Deployment).filter fun d =>
      d.namespaceName == ns && d.label? Workload.uidLabel == some uid), s)
  | .createDeployment d, s => s.create d
  | .replaceDeployment d, s => s.replace d
  | .deleteDeployment d, s => s.delete now d
  | .patchDeploymentStatus d status, s => s.setIn d ["status"] (encode status)
  | .setDeploymentFinalizers d finalizers, s =>
    s.setIn d ["metadata", "finalizers"] (encode finalizers)
  | .patchWorkloadStatus w status, s => s.setIn w ["status"] (encode status)
  | .setWorkloadFinalizers w finalizers, s =>
    s.setIn w ["metadata", "finalizers"] (encode finalizers)
  | .listInstances ns uid, s =>
    (.ok ((s.all Instance).filter fun i =>
      i.namespaceName == ns && i.label? Deployment.uidLabel == some uid), s)
  | .createInstance i, s => unitReply (s.create i)
  | .replaceInstance i, s => unitReply (s.replace i)
  | .deleteInstance i, s => s.delete now i
  | .patchInstanceStatus i status, s => s.setIn i ["status"] (encode status)
  | .setSchedulingGates i gates, s =>
    s.setIn i ["spec", "controller", "schedulingGates"] (encode gates)
  | .getNetworkBinding ns name, s => (.ok (s.read NetworkBinding ns name), s)
  | .createNetworkBinding b, s => s.create b
  | .getNetworkContext ns name, s => (.ok (s.read NetworkContext ns name), s)
  | .listSubnetClaims ns, s =>
    (.ok ((s.all SubnetClaim).filter fun c => c.namespaceName == ns), s)
  | .createSubnetClaim c, s => s.create c
  | .getSubnet ns name, s => (.ok (s.read Subnet ns name), s)

end Memory

end ControlPlane
