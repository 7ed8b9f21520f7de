import ControlPlane.Api.Requests
import ControlPlane.Json.MergePatch
import ControlPlane.Text.Digits

/-!
# Requests that carry a version

An API server gives a new version to every state of an object, and refuses a request that carries
another version than the stored one. So a client that sends the version it has read cannot undo what
others have done since. Replacements and patches carry it. Deletions do not: they take away whatever
is stored by the time they arrive.

* `Request.version?`: the version that a request carries. That of a replacement or a patch is the one
  that its caller has read (`version?_of_request`), and a deletion carries none.
* `VersionedServer`: a server that keeps to its versions. Under a version that was read there is only
  what was read, whatever is asked of the server in between (`version?_ne_of_changed`).
* `stale_write`: what becomes of an object that was changed after a caller had read it.
-/

namespace ControlPlane

/-! ## What requests carry -/

/-- The version in the metadata of an object. -/
def Json.version? (j : Json) : Option String :=
  (j.path? ["metadata", "resourceVersion"]).bind text?

/-- The version that a request carries, in the metadata of its body or, for a deletion, among the
preconditions. -/
def Request.version? (r : Request) : Option String :=
  r.body.bind fun body =>
    match r.method with
    | .delete => (body.2.path? ["preconditions", "resourceVersion"]).bind Json.text?
    | _ => body.2.version?

theorem Json.version?_obj {members : Members} {m : ObjectMeta}
    (h : valuesOf "metadata" members = [encode m]) :
    (obj members).version? = m.resourceVersion := by
  simp only [version?, path?, member?, h]
  simp only [encode, List.getLast?_singleton, Option.bind_some]
  cases hv : m.resourceVersion <;> simp [text?, encode]

namespace Call

/-- The metadata of the stored object that a call is to change, as its caller has read it. -/
def target? : Call → Option ObjectMeta
  | .replaceDeployment d | .deleteDeployment d | .patchDeploymentStatus d _
  | .setDeploymentFinalizers d _ => some d.metadata
  | .patchWorkloadStatus w _ | .setWorkloadFinalizers w _ => some w.metadata
  | .replaceInstance i | .deleteInstance i | .patchInstanceStatus i _
  | .setSchedulingGates i _ => some i.metadata
  | _ => none

/-- Whether a call deletes an object. -/
def deletes : Call → Bool
  | .deleteDeployment _ | .deleteInstance _ => true
  | _ => false

end Call

section Resource

variable {Spec Status : Type} {x : Resource Spec Status} {r : Request}

/-- The object as read under another version and uid. -/
def Resource.reread (version uid : Option String) (x : Resource Spec Status) :
    Resource Spec Status :=
  { x with metadata := { x.metadata with resourceVersion := version, uid } }

variable [OfKind (Resource Spec Status)]

theorem sendTo_eq_ok {ns part : String} {method : Method} {type : ContentType} {body : Json}
    (h : sendTo x ns part method type body = .ok r) :
    r.method = method ∧ r.body = some (type, body) := by
  unfold sendTo at h
  cases hp : objectPath (kindOf (Resource Spec Status)) ns x.name with
  | error e =>
    rw [hp] at h
    cases h
  | ok path =>
    rw [hp] at h
    simp only [Request.send, bind, Except.bind] at h
    cases ht : Request.targetOf (Target.withQuery (path ++ part) []) with
    | error e =>
      rw [ht] at h
      cases h
    | ok target =>
      rw [ht] at h
      cases h
      exact ⟨rfl, rfl⟩

theorem version?_of_replaceRequest [JsonForm Spec] [JsonForm Status]
    (h : replaceRequest x = .ok r) : r.version? = x.metadata.resourceVersion := by
  unfold replaceRequest at h
  cases hns : x.requireNamespace with
  | error e =>
    rw [hns] at h
    cases h
  | ok ns =>
    rw [hns] at h
    obtain ⟨hm, hb⟩ := sendTo_eq_ok h
    rw [Request.version?, hb, hm]
    exact Json.version?_obj (by simp)

theorem version?_of_patchRequest {part : String} {inMetadata beside : Members}
    (hin : Json.valuesOf "resourceVersion" inMetadata = [])
    (hbeside : Json.valuesOf "metadata" beside = [])
    (h : patchRequest x part inMetadata beside = .ok r) :
    r.version? = x.metadata.resourceVersion := by
  unfold patchRequest at h
  cases hns : x.requireNamespace with
  | error e =>
    rw [hns] at h
    cases h
  | ok ns =>
    cases hv : x.metadata.resourceVersion with
    | none =>
      rw [hns, Resource.guardedPatch, Resource.requireVersion, hv] at h
      cases h
    | some version =>
      rw [hns, Resource.guardedPatch, Resource.requireVersion, hv] at h
      obtain ⟨hm, hb⟩ := sendTo_eq_ok h
      rw [Request.version?, hb, hm]
      simp [Json.version?, Json.path?, Json.member?, hin, hbeside, Json.text?, encode]

end Resource

namespace Call

variable {c : Call} {m : ObjectMeta} {r : Request}

/-- The call as one makes it who has read its object under another version and uid. -/
def reread (version uid : Option String) : Call → Call
  | .replaceDeployment d => .replaceDeployment (d.reread version uid)
  | .deleteDeployment d => .deleteDeployment (d.reread version uid)
  | .patchDeploymentStatus d status => .patchDeploymentStatus (d.reread version uid) status
  | .setDeploymentFinalizers d finalizers =>
    .setDeploymentFinalizers (d.reread version uid) finalizers
  | .patchWorkloadStatus w status => .patchWorkloadStatus (w.reread version uid) status
  | .setWorkloadFinalizers w finalizers => .setWorkloadFinalizers (w.reread version uid) finalizers
  | .replaceInstance i => .replaceInstance (i.reread version uid)
  | .deleteInstance i => .deleteInstance (i.reread version uid)
  | .patchInstanceStatus i status => .patchInstanceStatus (i.reread version uid) status
  | .setSchedulingGates i gates => .setSchedulingGates (i.reread version uid) gates
  | c => c

/-- A replacement or a patch carries the version under which its caller has read the object. -/
theorem version?_of_request (ht : c.target? = some m) (hd : c.deletes = false)
    (h : c.request = .ok r) : r.version? = m.resourceVersion := by
  cases c <;> cases ht <;> try cases hd
  case replaceDeployment d => exact version?_of_replaceRequest h
  case replaceInstance i => exact version?_of_replaceRequest h
  all_goals exact version?_of_patchRequest (by simp) (by simp) h

/-- The request of a deletion is the same, whatever version of the object was read. -/
theorem request_reread_of_deletes (hd : c.deletes = true) (version uid : Option String) :
    (c.reread version uid).request = c.request := by
  cases c <;> cases hd <;> rfl

end Call

/-! ## Servers that keep to their versions -/

/-- A server that stores objects under paths, gives a version to each of their states, and refuses
requests that carry another version than the stored one. -/
structure VersionedServer (σ : Type) where
  /-- What a request makes of the server. -/
  handle : Request → σ → σ
  /-- What is stored under a path. -/
  object? : σ → String → Option Json
  /-- The versions that have been given out. -/
  issued : σ → String → Prop
  issued_of_stored : ∀ s path o v, object? s path = some o → o.version? = some v → issued s v
  issued_handle : ∀ r s v, issued s v → issued (handle r s) v
  /-- What is stored after a request was there before, or has a version that is new. -/
  renewed : ∀ r s path o, object? (handle r s) path = some o →
    object? s path = some o ∨ ∃ v, o.version? = some v ∧ ¬ issued s v
  /-- An object stays as it is when the request carries another version. -/
  refuses : ∀ r s path o v, r.version? = some v → object? s path = some o → o.version? ≠ some v →
    object? (handle r s) path = some o

namespace VersionedServer

variable {σ : Type} (server : VersionedServer σ) {s : σ} {path v : String} {o o' : Json}

/-- The server after several requests, by whomever. -/
def run (requests : List Request) (s : σ) : σ :=
  requests.foldl (fun s r => server.handle r s) s

/-- The server after a call to the store, which sends one request if it sends any. -/
def perform (c : Call) (s : σ) : σ :=
  match c.request with
  | .ok r => server.handle r s
  | .error _ => s

/-- What is stored after several requests was there before, or has a version that is new. -/
theorem object?_run (requests : List Request)
    (h : server.object? (server.run requests s) path = some o) :
    server.object? s path = some o ∨ ∃ v, o.version? = some v ∧ ¬ server.issued s v := by
  induction requests generalizing s with
  | nil => exact .inl h
  | cons r rest ih =>
    obtain hm | ⟨v, hv, hnew⟩ := ih h
    · exact server.renewed r s path o hm
    · exact .inr ⟨v, hv, fun hi => hnew (server.issued_handle r s v hi)⟩

/-- What was read and has changed since is stored under another version, also when it was deleted and
created anew. -/
theorem version?_ne_of_changed {requests : List Request} (hread : server.object? s path = some o)
    (hv : o.version? = some v) (hnow : server.object? (server.run requests s) path = some o')
    (hne : o' ≠ o) : o'.version? ≠ some v := by
  intro hv'
  obtain hold | ⟨w, hw, hnew⟩ := server.object?_run requests hnow
  · exact hne (Option.some.inj (hold.symm.trans hread))
  · cases hv'.symm.trans hw
    exact hnew (server.issued_of_stored s path o v hread hv)

/-- A replacement or a patch spares an object that has another version than the one read. -/
theorem perform_of_version?_ne {c : Call} {m : ObjectMeta} (ht : c.target? = some m)
    (hd : c.deletes = false) (hm : m.resourceVersion = some v)
    (hnow : server.object? s path = some o) (hne : o.version? ≠ some v) :
    server.object? (server.perform c s) path = some o := by
  unfold perform
  split
  · next r hr =>
    exact server.refuses r s path o v ((Call.version?_of_request ht hd hr).trans hm) hnow hne
  · exact hnow

/-- A caller writes an object that it has read, and that others have changed since, or deleted and
created anew. A replacement or a patch leaves the object as it is. A deletion does what it would do for
a caller who had read the object as it is now. -/
theorem stale_write {c : Call} {m : ObjectMeta} (others : List Request) (ht : c.target? = some m)
    (hm : m.resourceVersion = some v) (hread : server.object? s path = some o)
    (hv : o.version? = some v) (hnow : server.object? (server.run others s) path = some o')
    (hne : o' ≠ o) :
    let after := server.run others s
    (c.deletes = false → server.object? (server.perform c after) path = some o') ∧
      (c.deletes = true →
        ∀ version uid, server.perform (c.reread version uid) after = server.perform c after) := by
  intro after
  refine ⟨fun hd => ?_, fun hd version uid => ?_⟩
  · exact server.perform_of_version?_ne ht hd hm hnow
      (server.version?_ne_of_changed hread hv hnow hne)
  · rw [perform, perform, Call.request_reread_of_deletes hd]

end VersionedServer

/-! ## A server of that kind -/

/-- Objects under their paths, each with the number of its version. -/
structure Shelf where
  entry? : String → Option (Nat × Json)
  /-- The number of the version that was given out last. -/
  revision : Nat
  le_revision : ∀ path n o, entry? path = some (n, o) → n ≤ revision

namespace Shelf

variable {shelf : Shelf} {path : String} {o : Json} {r : Request}

/-- An object under the `n`-th version. -/
def stamped (n : Nat) (o : Json) : Json :=
  .obj <| o.membersOrNone ++ [("metadata", .obj <|
    ((o.member? "metadata").getD .null).membersOrNone ++ [("resourceVersion", encode (Nat.repr n))])]

theorem version?_stamped (n : Nat) (o : Json) : (stamped n o).version? = some (Nat.repr n) := by
  simp [stamped, Json.version?, Json.path?, Json.member?, Json.text?, encode]

/-- The object under a path. -/
def object? (shelf : Shelf) (path : String) : Option Json :=
  (shelf.entry? path).map fun e => stamped e.1 e.2

/-- Puts an object under a path, or nothing, in place of what was there. -/
def write (shelf : Shelf) (path : String) (o : Option Json) : Shelf where
  entry? q := if q = path then o.map (shelf.revision + 1, ·) else shelf.entry? q
  revision := shelf.revision + 1
  le_revision q n x h := by
    split at h
    · obtain ⟨y, -, hy⟩ := Option.map_eq_some_iff.1 h
      cases hy
      exact Nat.le_refl _
    · exact Nat.le_succ_of_le (shelf.le_revision q n x h)

/-- Changes the object that a request is about, unless the request carries another version. -/
def amend (shelf : Shelf) (r : Request) (f : Json → Option Json) : Shelf :=
  match shelf.entry? r.target.path with
  | some (n, o) =>
    if r.version?.all (· == Nat.repr n) then shelf.write r.target.path (f o) else shelf
  | none => shelf

/-- What a request makes of the shelf. -/
def handle (r : Request) (shelf : Shelf) : Shelf :=
  match r.method, r.body with
  | .post, some (_, o) =>
    match (o.path? ["metadata", "name"]).bind Json.text? with
    | some name =>
      let path := r.target.path ++ "/" ++ name
      if (shelf.entry? path).isNone then shelf.write path (some o) else shelf
    | none => shelf
  | .put, some (_, o) => shelf.amend r fun _ => some o
  | .patch, some (_, change) => shelf.amend r fun o => some (Json.mergePatch change o)
  | .delete, _ => shelf.amend r fun _ => none
  | _, _ => shelf

/-- A shelf is left as it is, or one path of it is written, where nothing was stored under another
version than the request carries. -/
def Written (r : Request) (shelf after : Shelf) : Prop :=
  after = shelf ∨ ∃ path o, after = shelf.write path o ∧
    ∀ n x, shelf.entry? path = some (n, x) → ∀ v, r.version? = some v → v = Nat.repr n

theorem written_amend (shelf : Shelf) (r : Request) (f : Json → Option Json) :
    Written r shelf (shelf.amend r f) := by
  unfold amend
  split
  · next n o he =>
    split
    · next hv =>
      refine .inr ⟨_, _, rfl, fun m x hx v hr => ?_⟩
      cases he.symm.trans hx
      simpa [hr] using hv
    · exact .inl rfl
  · exact .inl rfl

theorem written_handle (r : Request) (shelf : Shelf) : Written r shelf (handle r shelf) := by
  unfold handle
  split
  · split
    · dsimp only
      split
      · next hfree =>
        refine .inr ⟨_, _, rfl, fun n x hx => ?_⟩
        rw [hx] at hfree
        cases hfree
      · exact .inl rfl
    · exact .inl rfl
  · exact written_amend ..
  · exact written_amend ..
  · exact written_amend ..
  · exact .inl rfl

theorem object?_write (path' : String) (o : Option Json) : (shelf.write path o).object? path' =
    if path' = path then o.map (stamped (shelf.revision + 1)) else shelf.object? path' := by
  simp only [object?, write]
  split <;> simp [Function.comp_def]

/-- The shelf as a server that keeps to its versions. -/
def server : VersionedServer Shelf where
  handle := handle
  object? := object?
  issued shelf v := ∃ n ≤ shelf.revision, v = Nat.repr n
  issued_of_stored shelf path o v ho hv := by
    obtain ⟨⟨n, x⟩, he, rfl⟩ := Option.map_eq_some_iff.1 ho
    rw [version?_stamped, Option.some.injEq] at hv
    exact ⟨n, shelf.le_revision path n x he, hv.symm⟩
  issued_handle r shelf v h := by
    obtain ⟨n, hn, rfl⟩ := h
    obtain h | ⟨path, o, h, -⟩ := written_handle r shelf <;> rw [h]
    · exact ⟨n, hn, rfl⟩
    · exact ⟨n, Nat.le_succ_of_le hn, rfl⟩
  renewed r shelf path o ho := by
    obtain h | ⟨path', o', h, -⟩ := written_handle r shelf <;> rw [h] at ho
    · exact .inl ho
    · rw [object?_write] at ho
      split at ho
      · obtain ⟨x, -, rfl⟩ := Option.map_eq_some_iff.1 ho
        refine .inr ⟨_, version?_stamped _ x, ?_⟩
        rintro ⟨n, hn, he⟩
        have := Text.repr_injective he
        omega
      · exact .inl ho
  refuses r shelf path o v hr ho hv := by
    obtain h | ⟨path', o', h, hmatch⟩ := written_handle r shelf <;> rw [h]
    · exact ho
    · rw [object?_write]
      split
      · next he =>
        subst he
        obtain ⟨⟨n, x⟩, he, rfl⟩ := Option.map_eq_some_iff.1 ho
        rw [version?_stamped] at hv
        exact absurd (congrArg some (hmatch n x he v hr).symm) hv
      · exact ho

end Shelf

namespace VersionedServer

/-- A deployment as its caller has read it. -/
def readDeployment : Deployment where
  metadata := {
    name := some "web-us-dfw"
    ns := some "shop"
    uid := some "d1"
    resourceVersion := some "1" }
  spec := {
    workload := ⟨"web", "w1"⟩
    placement := "us"
    cityCode := "DFW"
    scale := { minReplicas := 1 } }

/-- Where deployments of its namespace are stored. -/
def deploymentsPath : String :=
  "/apis/compute.datumapis.com/v1alpha/namespaces/shop/workloaddeployments"

/-- Where it is stored itself. -/
def readPath : String :=
  deploymentsPath ++ "/web-us-dfw"

/-- A shelf with the deployment on it. -/
def readShelf : Shelf where
  entry? path := if path = readPath then some (1, encode readDeployment) else none
  revision := 1
  le_revision path n o h := by
    split at h <;> cases h
    exact Nat.le_refl _

/-- The deployment of that name that another client creates. -/
def newDeployment : Deployment :=
  readDeployment.reread none (some "d2")

/-- Another client deletes the deployment and creates the new one. -/
def recreation : List Request :=
  [{ method := .delete, target := ⟨readPath, ""⟩ },
    { method := .post
      target := ⟨deploymentsPath, ""⟩
      body := some (.json, encode newDeployment) }]

theorem object?_readShelf :
    Shelf.server.object? readShelf readPath = some (Shelf.stamped 1 (encode readDeployment)) := by
  rfl

theorem object?_recreation : Shelf.server.object? (Shelf.server.run recreation readShelf) readPath =
    some (Shelf.stamped 3 (encode newDeployment)) := by
  rfl

theorem newDeployment_ne :
    Shelf.stamped 3 (encode newDeployment) ≠ Shelf.stamped 1 (encode readDeployment) := by
  intro h
  have hv := congrArg Json.version? h
  rw [Shelf.version?_stamped, Shelf.version?_stamped] at hv
  exact absurd hv (by decide)

/-- The caller wants to set the finalizers of the deployment that it has read: the new one is
spared. -/
theorem stale_write_spares_recreated :
    Shelf.server.object? readShelf readPath = some (Shelf.stamped 1 (encode readDeployment)) ∧
      Shelf.server.object? (Shelf.server.perform (.setDeploymentFinalizers readDeployment [])
        (Shelf.server.run recreation readShelf)) readPath =
          some (Shelf.stamped 3 (encode newDeployment)) :=
  ⟨object?_readShelf,
    (Shelf.server.stale_write (c := .setDeploymentFinalizers readDeployment []) recreation rfl rfl
      object?_readShelf (Shelf.version?_stamped 1 _) object?_recreation newDeployment_ne).1 rfl⟩

/-- The caller wants to delete the deployment that it has read: the new one is gone. -/
theorem stale_deletion_removes_recreated :
    Shelf.server.object? readShelf readPath = some (Shelf.stamped 1 (encode readDeployment)) ∧
      Shelf.server.object? (Shelf.server.run recreation readShelf) readPath =
        some (Shelf.stamped 3 (encode newDeployment)) ∧
      Shelf.server.object? (Shelf.server.perform (.deleteDeployment readDeployment)
        (Shelf.server.run recreation readShelf)) readPath = none :=
  ⟨object?_readShelf, object?_recreation, by rfl⟩

end VersionedServer

end ControlPlane
