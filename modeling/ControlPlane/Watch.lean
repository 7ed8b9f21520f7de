import ControlPlane.Api.Collection
import ControlPlane.Index

/-!
# Watches

A controller keeps a cache of the resources it reconciles and watches others that they depend on. A
change to a cached resource makes a pass on it necessary; a change to another resource is mapped to
the cached resources that it concerns. The cache follows the watches only, so a resource that was
deleted, or is not seen in the controller's namespace, is never reconciled.

* `Watches.start`, `Watches.handle`: the passes that the first listing and each change call for.
* `Workload.watches`, `Deployment.schedulerWatches`, `Deployment.watches`, `Instance.watches`: what
  each controller watches.
-/

namespace ControlPlane

/-- What happened to a resource. -/
inductive Change where
  | added
  | modified
  | deleted
deriving DecidableEq, Inhabited

/-- A change to a resource, which is given as it is after the change, or was before its deletion. -/
structure WatchEvent where
  change : Change
  resource : AnyResource

/-- What a controller of a type of resources watches. -/
structure Watches (Spec Status : Type) where
  /-- The resource, if it is of the type that the controller reconciles. -/
  primary? : AnyResource → Option (Resource Spec Status)
  /-- The kinds of the resources that may be owned by one that the controller reconciles. They are
  watched in the controller's namespace, as the reconciled ones are. -/
  owned : List Kind := []
  /-- The cached resources that a change to any other resource concerns, in whatever namespace. -/
  concerned : List (Resource Spec Status) → AnyResource → List (Resource Spec Status)
  /-- Whether a pass on the resource has anything to do. -/
  needsPass : Resource Spec Status → Bool := fun _ => true

section Cache

variable {Spec Status : Type}

/-- Two resources of a type are one: they share namespace and name. -/
def Resource.sameObject (r s : Resource Spec Status) : Bool :=
  r.metadata.ns == s.metadata.ns && r.name == s.name

/-- The cache without a resource. -/
def uncache (cache : List (Resource Spec Status)) (r : Resource Spec Status) :
    List (Resource Spec Status) :=
  cache.filter (!r.sameObject ·)

/-- The cache with a resource in place of its earlier state. -/
def recache (cache : List (Resource Spec Status)) (r : Resource Spec Status) :
    List (Resource Spec Status) :=
  uncache cache r ++ [r]

/-- The cached resource of that name in a namespace. If there is none, it is the one of that name
that is in no namespace. -/
def cached? (cache : List (Resource Spec Status)) (ns : Option String) (name : String) :
    Option (Resource Spec Status) :=
  (cache.find? fun r => r.metadata.ns == ns && r.name == name) <|>
    cache.find? fun r => r.metadata.ns == none && r.name == name

/-- Whether an owner reference is to a resource of a type. -/
def OwnerReference.isTo (o : OwnerReference) (α : Type) [OfKind α] : Bool :=
  o.apiVersion == (kindOf α).apiVersion && o.kind == (kindOf α).name

/-- The cached resources that own an object, each being looked up in the namespace of the object. -/
def ownersIn [OfKind (Resource Spec Status)] (cache : List (Resource Spec Status))
    (owned : ObjectMeta) : List (Resource Spec Status) :=
  ((owned.ownerReferences.getD []).filter (·.isTo (Resource Spec Status))).filterMap fun o =>
    cached? cache owned.ns o.name

end Cache

/-- What a controller has cached, and the collections whose changes reach it. -/
structure Watching (Spec Status : Type) where
  cache : List (Resource Spec Status) := []
  /-- The collection of the resources that the controller reconciles. -/
  primary : Option Collection := none
  /-- The collections of the resources that they may own. -/
  owned : List Collection := []

/-- The collection whose changes are seen, if they are. -/
def View.followed (v : View) : Option Collection :=
  if v.follows then some v.source else none

namespace Watches

variable {Spec Status : Type}

/-- The keys of the resources on which a pass has something to do. -/
def passes (w : Watches Spec Status) (l : List (Resource Spec Status)) : List String :=
  distinctSorted ((l.filter w.needsPass).map Resource.key)

variable [OfKind (Resource Spec Status)]

/-- A resource as the controller reads it. -/
def read? (w : Watches Spec Status) (r : AnyResource) : Option (Resource Spec Status) :=
  (r.readAs (kindOf (Resource Spec Status))).bind w.primary?

/-- The resources that are listed at first. The listing fails if one of them cannot be read. -/
def listed? (w : Watches Spec Status) (v : View) (present : List AnyResource) :
    Option (List (Resource Spec Status)) :=
  (present.filter v.source.holds).mapM w.read?

/-- The first listing fills the cache. As long as there is none, nothing is reconciled. -/
def list (w : Watches Spec Status) (scope : Option String) (present : List AnyResource) :
    Watching Spec Status :=
  let opened := do
    let v ← Collection.view? ⟨kindOf (Resource Spec Status), scope⟩
    return (v, ← w.listed? v present)
  match opened with
  | none => {}
  | some (v, resources) =>
    { cache := resources.foldl recache []
      primary := v.followed
      owned := w.owned.filterMap fun k => (Collection.view? ⟨k, scope⟩).bind View.followed }

/-- The first listing calls for a pass on all that is cached. -/
def start (w : Watches Spec Status) (scope : Option String) (present : List AnyResource) :
    List String × Watching Spec Status :=
  let s := w.list scope present
  (w.passes s.cache, s)

/-- The reconciled resource that a change calls for a pass on, and the cache after it. -/
def update (w : Watches Spec Status) (s : Watching Spec Status) (e : WatchEvent) :
    List (Resource Spec Status) × List (Resource Spec Status) :=
  if s.primary.any (·.holds e.resource) then
    match w.read? e.resource with
    | none => ([], s.cache)
    | some r =>
      match e.change with
      | .deleted => ([], uncache s.cache r)
      | _ => ([r], recache s.cache r)
  else ([], s.cache)

/-- The cached resources that own a resource whose changes are seen. -/
def owners (s : Watching Spec Status) (r : AnyResource) : List (Resource Spec Status) :=
  if s.owned.any (·.holds r) then ownersIn s.cache r.metadata else []

/-- The passes that a change calls for, and what is cached after it. -/
def handle (w : Watches Spec Status) (s : Watching Spec Status) (e : WatchEvent) :
    List String × Watching Spec Status :=
  let (changed, cache) := w.update s e
  let s := { s with cache }
  (w.passes (changed ++ owners s e.resource ++ w.concerned cache e.resource), s)

/-- The passes that each of several changes calls for. -/
def handleAll (w : Watches Spec Status) (s : Watching Spec Status) :
    List WatchEvent → List (List String)
  | [] => []
  | e :: rest =>
    let (keys, s) := w.handle s e
    keys :: w.handleAll s rest

/-- The passes that the first listing and the changes after it call for. -/
def run (w : Watches Spec Status) (scope : Option String) (present : List AnyResource)
    (events : List WatchEvent) : List (List String) :=
  let (keys, s) := w.start scope present
  keys :: w.handleAll s events

end Watches

/-! ## What each controller watches -/

/-- A workload depends on its deployments, on the networks it uses, and on there being locations. -/
def Workload.watches : Watches WorkloadSpec WorkloadStatus where
  primary?
    | .workload w => some w
    | _ => none
  owned := [.workloadDeployment]
  concerned cache
    | .network n => Workload.usingNetwork cache n.key
    | .location _ => cache
    | _ => []

/-- The scheduler waits for locations as long as a deployment has none. -/
def Deployment.schedulerWatches : Watches DeploymentSpec DeploymentStatus where
  primary?
    | .deployment d => some d
    | _ => none
  concerned cache
    | .location _ => cache.filter fun d => (Deployment.location d).isNone
    | _ => []
  needsPass d := !d.isDeleting && (Deployment.location d).isNone

/-- A deployment depends on its instances and bindings, and on the claims and subnets at its
location. -/
def Deployment.watches : Watches DeploymentSpec DeploymentStatus where
  primary?
    | .deployment d => some d
    | _ => none
  owned := [.inst, .networkBinding]
  concerned cache
    | .subnetClaim c => Deployment.atLocation cache c.spec.location.key
    | .subnet s => Deployment.atLocation cache s.spec.location.key
    | _ => []

/-- An instance depends on no other resource that is watched. -/
def Instance.watches : Watches InstanceSpec InstanceStatus where
  primary?
    | .inst i => some i
    | _ => none
  concerned _ _ := []
  needsPass i := !i.isDeleting

end ControlPlane
