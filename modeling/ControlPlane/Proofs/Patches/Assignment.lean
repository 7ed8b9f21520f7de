import ControlPlane.Json.Printer
import ControlPlane.Proofs.Patches.Guarded

/-!
# What an assignment leaves in the store

The scheduler writes the location that it has selected, and the cluster of that location, as a patch of
the status. A server merges the patch into the document that it stores. The location is written whole, and
so is a cluster. But a location without a cluster makes a status without one, and what a patch leaves out
stays: then the deployment keeps the cluster that its status named before (`assignment_stored`).
-/

namespace ControlPlane

open Json (mergePatch)

/-- A text is read character by character. So what reads a text that is known by its characters need not
make the text first. -/
theorem Json.parse_of_toList {text : String} {cs : List Char} (h : text.toList = cs) :
    parse text = (do
      let (j, rest) ← value (2 * cs.length + 1) nestingLimit cs
      match skipBlanks rest with
      | [] => return j
      | c :: _ => throw (.trailing c)) := by
  subst h
  rfl

/-! ## Servers that merge -/

/-- A server that stores documents under paths and applies merge patches to their statuses. What else
becomes of a document that is patched, such as its version, is left to the server. -/
structure MergingServer (σ : Type) where
  /-- What a request is answered with, and what it makes of the server. -/
  handle : Request → σ → Response × σ
  /-- The document that is stored under a path. -/
  document? : σ → String → Option Json
  read : ∀ r s path, r.method = .get → document? (handle r s).2 path = document? s path
  /-- A patch of a status that is answered with success has been merged into the document. -/
  merged : ∀ r s path patch body j, r.method = .patch → r.target.path = path ++ "/status" →
    r.body = some (.mergePatch, patch) → (handle r s).1.success = .ok body →
    document? s path = some j →
    ∃ j', document? (handle r s).2 path = some j' ∧
      j'.member? "status" = (mergePatch patch j).member? "status"

theorem Call.exists_listLocations_request : ∃ r, listLocations.request = .ok r ∧ r.method = .get :=
  ⟨_, rfl, rfl⟩

namespace MergingServer

variable {σ : Type} (server : MergingServer σ)

/-- The server as what answers the calls of a pass: it is sent the request of a call, and what it answers
is read as the reply. -/
def answer : Answer σ := fun c s =>
  match c.request with
  | .error e => (.error e.toError, s)
  | .ok r =>
    let (response, after) := server.handle r s
    ((c.reply response).mapError ClientError.toError, after)

variable {server} {s t : σ}

/-- A call that was answered well has sent its request. -/
theorem answer_eq_ok {c : Call} {reply : c.Reply} (h : server.answer c s = (.ok reply, t)) :
    ∃ r, c.request = .ok r ∧ c.reply (server.handle r s).1 = .ok reply ∧ (server.handle r s).2 = t := by
  unfold answer at h
  split at h
  · cases h
  · next r hr =>
    obtain ⟨hreply, rfl⟩ := Prod.mk.inj h
    refine ⟨r, hr, ?_, rfl⟩
    cases hresult : c.reply (server.handle r s).1 with
    | error e =>
      rw [hresult] at hreply
      cases hreply
    | ok a =>
      rw [hresult] at hreply
      cases hreply
      rfl

/-- Listing the locations leaves what is stored as it is. -/
theorem document?_listLocations {locations : List Location} (path : String)
    (h : server.answer .listLocations s = (.ok locations, t)) :
    server.document? t path = server.document? s path := by
  obtain ⟨r, hr, -, rfl⟩ := answer_eq_ok h
  obtain ⟨_, hrequest, hget⟩ := Call.exists_listLocations_request
  cases hr.symm.trans hrequest
  exact server.read _ _ _ hget

end MergingServer

/-- An answer that is read as an object reports success. -/
theorem Response.exists_success {α : Type} [JsonForm α] {r : Response}
    (h : Call.discard (r.object α) = .ok ()) : ∃ body, r.success = .ok body := by
  cases hsuccess : r.success with
  | ok body => exact ⟨body, rfl⟩
  | error e =>
    rw [Response.object, hsuccess] at h
    cases h

/-! ## The scheduler -/

namespace Deployment

variable {σ : Type} {server : MergingServer σ} {s t : σ} {now : Instant} {d : Deployment}
  {l : Location} {j : Json}

/-- Where a deployment is stored. -/
def pathOf (ns name : String) : String :=
  Collection.path ⟨.workloadDeployment, some ns⟩ ++ "/" ++ name

/-- The status that is stored after an assignment. -/
def assignedOver (d : Deployment) (now : Instant) (l : Location) : DeploymentStatus :=
  StatusForm.laidOver (cut (d.assigned now l)) (d.status.getD StatusForm.blank)

theorem location_assignedOver : (d.assignedOver now l).location = some l.reference := rfl

theorem cluster_assignedOver : (d.assignedOver now l).cluster =
    (l.spec.provider.cluster <|> d.status.bind (·.cluster)) := by
  show (l.spec.provider.cluster <|> (d.status.getD StatusForm.blank).cluster) = _
  cases d.status <;> rfl

/-- A deployment is read with the status that stands in the document. -/
theorem status_of_decode {status : DeploymentStatus}
    (hstatus : (j.member? "status").bind decode = some status) (h : decode j = some d) :
    d.status = some status := by
  obtain ⟨value, hvalue, hdecode⟩ := Option.bind_eq_some_iff.1 hstatus
  cases j with
  | obj members =>
    obtain ⟨-, -, hmaybe⟩ := Resource.parts_of_decode h
    cases hd : d.status with
    | none =>
      rw [hd] at hmaybe
      have hnull := Members.getD_of_maybeOf_none hmaybe
      change (Json.valuesOf "status" members).getLast? = some value at hvalue
      rw [hvalue] at hnull
      cases hnull
      cases hdecode
    | some status' =>
      rw [Resource.decode_member_status h hd] at hstatus
      exact hstatus
  | _ => cases hvalue

/-- A pass that selects a location ends well exactly if the assignment is written. -/
theorem run_schedule_eq_ok_iff {answer : Answer σ} {locations : List Location} {m : σ}
    {requeue : Requeue} (hdel : d.isDeleting = false) (hlocation : d.location = none)
    (hlisted : answer .listLocations s = (.ok locations, m))
    (hselect : d.select locations = .selected l) :
    (d.schedule now).run answer s = (.ok requeue, t) ↔
      answer (.patchDeploymentStatus d (d.assigned now l)) m = (.ok (), t) ∧ requeue = awaitChange := by
  have hdue : ¬(d.isDeleting || d.location.isSome) = true := by
    rw [hdel, hlocation]
    decide
  rw [schedule_eq, if_neg hdue, Pass.run_bind_of_ok ((Pass.run_perform ..).trans hlisted), hselect, enact,
    Pass.run_bind_eq_ok]
  constructor
  · rintro ⟨_, t', hpatch, hdone⟩
    cases hdone
    rw [Pass.run_perform] at hpatch
    exact ⟨hpatch, rfl⟩
  · rintro ⟨hpatch, rfl⟩
    exact ⟨(), t, (Pass.run_perform ..).trans hpatch, rfl⟩

/-- The request that writes a status of a deployment. -/
theorem request_patchDeploymentStatus {ns name version : String} (hns : d.metadata.ns = some ns)
    (hname : d.metadata.name = some name) (hversion : d.metadata.resourceVersion = some version)
    (hnamespace : isNamespaceName ns = true) (hobject : isObjectName name = true)
    (status : DeploymentStatus) :
    (Call.patchDeploymentStatus d status).request = .ok
      { method := .patch
        target := ⟨pathOf ns name ++ "/status", ""⟩
        body := some
          (.mergePatch, .obj (guardedChange version none (Members.always "status" status))) } := by
  have hsends : SendsPatch (Call.patchDeploymentStatus d status).request .workloadDeployment d.metadata
      ns version "/status" (.obj (guardedChange version none (Members.always "status" status))) :=
    sendsPatch_of_request (by simp) hns hversion none (by simp)
  exact hsends.reached name hname hnamespace hobject

/-- What the write of an assignment makes of a stored deployment. -/
theorem exists_stored {ns name : String} {m : σ} (hnow : now.InRange)
    (hns : d.metadata.ns = some ns) (hname : d.metadata.name = some name)
    (hnamespace : isNamespaceName ns = true) (hobject : isObjectName name = true)
    (hstored : server.document? m (pathOf ns name) = some j) (hj : j.IsDocument)
    (hread : decode j = some d)
    (hwritten : server.answer (.patchDeploymentStatus d (d.assigned now l)) m = (.ok (), t)) :
    ∃ j', server.document? t (pathOf ns name) = some j' ∧
      (j'.member? "status").bind decode = some (d.assignedOver now l) := by
  obtain ⟨r, hr, hreply, rfl⟩ := MergingServer.answer_eq_ok hwritten
  -- A deployment without a version would not have come as far as a request.
  obtain ⟨version, hversion⟩ : ∃ version, d.metadata.resourceVersion = some version := by
    refine Option.ne_none_iff_exists'.1 fun hnone => ?_
    obtain ⟨_, hfails⟩ := patchRequest_of_unversioned (x := d) hnone "/status" []
      (Members.always "status" (d.assigned now l))
    cases hr.symm.trans hfails
  have hrequest := request_patchDeploymentStatus hns hname hversion hnamespace hobject (d.assigned now l)
  cases hr.symm.trans hrequest
  obtain ⟨body, hsuccess⟩ := Response.exists_success hreply
  obtain ⟨j', hj', hstatus⟩ := server.merged _ m (pathOf ns name) _ body j rfl rfl rfl hsuccess hstored
  refine ⟨j', hj', ?_⟩
  obtain ⟨members, -, -, -, hmaybe⟩ := Resource.exists_members hj hread
  have hrange : InRange (d.assigned now l) := inRange_assigned (Members.inRange_of_maybeOf hmaybe) hnow l
  have hdecode := Resource.decode_status hj hread hversion hrange
  rw [hstatus, Json.mergePatch_obj]
  rw [Json.mergePatch_obj] at hdecode
  exact Resource.decode_member_status hdecode rfl

/-- A deployment that is assigned to a location is stored with a reference to the location. It is stored
with the cluster of the location if that has one, and otherwise with the cluster that it had. So that is
the cluster of the location exactly if there is one or there was none. -/
theorem assignment_stored {ns name : String} {m : σ} {locations : List Location} {requeue : Requeue}
    (hnow : now.InRange) (hns : d.metadata.ns = some ns) (hname : d.metadata.name = some name)
    (hnamespace : isNamespaceName ns = true) (hobject : isObjectName name = true)
    (hstored : server.document? s (pathOf ns name) = some j) (hj : j.IsDocument)
    (hread : decode j = some d) (hdel : d.isDeleting = false) (hlocation : d.location = none)
    (hlisted : server.answer .listLocations s = (.ok locations, m))
    (hselect : d.select locations = .selected l)
    (hrun : (d.schedule now).run server.answer s = (.ok requeue, t)) :
    ∃ (j' : Json) (status : DeploymentStatus), server.document? t (pathOf ns name) = some j' ∧
      (j'.member? "status").bind decode = some status ∧
      (∀ d' : Deployment, decode j' = some d' → d'.status = some status) ∧
      status.location = some { name := l.name, ns := l.namespaceName } ∧
      status.cluster = (l.spec.provider.cluster <|> d.status.bind (·.cluster)) ∧
      (status.cluster = l.spec.provider.cluster ↔
        l.spec.provider.cluster.isSome = true ∨ d.status.bind (·.cluster) = none) := by
  obtain ⟨hwritten, -⟩ := (run_schedule_eq_ok_iff hdel hlocation hlisted hselect).1 hrun
  rw [← MergingServer.document?_listLocations _ hlisted] at hstored
  obtain ⟨j', hj', hstatus⟩ := exists_stored hnow hns hname hnamespace hobject hstored hj hread hwritten
  refine ⟨j', _, hj', hstatus, fun d' hd' => status_of_decode hstatus hd', location_assignedOver,
    cluster_assignedOver, ?_⟩
  rw [cluster_assignedOver]
  cases l.spec.provider.cluster with
  | none => simp
  | some cluster => simp

/-! ## A deployment that is assigned again -/

/-- A server of one document, which lists these locations. -/
def soleServer (path : String) (locations : List Location) : MergingServer Json where
  handle r s :=
    match r.method, r.body with
    | .get, _ => (.answer 200 (Json.obj [("items", encode locations)]).render, s)
    | .patch, some (.mergePatch, patch) =>
      if r.target.path = path ++ "/status" then
        (.answer 200 (mergePatch patch s).render, mergePatch patch s)
      else (.broken, s)
    | _, _ => (.broken, s)
  document? s q := if q = path then some s else none
  read r s q h := by rw [h]
  merged r s q patch body j hmethod htarget hbody hsuccess hstored := by
    split at hstored
    · next hq =>
      cases hstored
      subst hq
      rw [hmethod, hbody]
      dsimp only
      rw [if_pos htarget]
      exact ⟨_, if_pos rfl, rfl⟩
    · cases hstored

theorem document?_soleServer (path : String) (locations : List Location) (s : Json) :
    (soleServer path locations).document? s path = some s :=
  if_pos rfl

/-- The locations are listed, if they are read as they are written. -/
theorem soleServer_listed {path : String} {locations : List Location}
    (hread : (Json.parse (Json.obj [("items", encode locations)]).render).toOption.bind
      (listingItems? Location) = some locations) :
    (soleServer path locations).answer .listLocations j = (.ok locations, j) := by
  obtain ⟨r, hrequest, hget⟩ := Call.exists_listLocations_request
  have hreply : Call.listLocations.reply (.answer 200 (Json.obj [("items", encode locations)]).render) =
      .ok locations := by
    show Response.items Location _ = _
    rw [Response.items, Response.success, if_neg (by decide)]
    simp only [bind, Except.bind, hread]
    rfl
  rw [MergingServer.answer, hrequest]
  simp only [soleServer, hget]
  rw [hreply]
  rfl

/-- A patch of the status is answered with the document that comes of it. -/
theorem soleServer_patched {path : String} {locations : List Location} {status : DeploymentStatus}
    {patch : Json} {queryText : String}
    (hrequest : (Call.patchDeploymentStatus d status).request = .ok
      { method := .patch, target := ⟨path ++ "/status", queryText⟩, body := some (.mergePatch, patch) })
    (hread : (decodeText? (mergePatch patch j).render : Option Deployment).isSome = true) :
    (soleServer path locations).answer (.patchDeploymentStatus d status) j =
      (.ok (), mergePatch patch j) := by
  obtain ⟨d', hd'⟩ := Option.isSome_iff_exists.1 hread
  have hreply : (Call.patchDeploymentStatus d status).reply (.answer 200 (mergePatch patch j).render) =
      .ok () := by
    show Call.discard (Response.object Deployment _) = _
    rw [Response.object, Response.success, if_neg (by decide)]
    simp only [bind, Except.bind, hd']
    rfl
  rw [MergingServer.answer, hrequest]
  simp only [soleServer, if_pos]
  rw [hreply]
  rfl

/-- A deployment whose status names a cluster and no location. -/
def unassigned : Deployment :=
  { System.backend with status := some { cluster := some ⟨"lhr-old"⟩ } }

/-- Its location has the cluster, if any. -/
def heathrowWith (cluster : Option ClusterReference) : Location :=
  { System.heathrow with spec := { System.heathrow.spec with provider := { cluster } } }

theorem isDocument_unassigned : (encode unassigned).IsDocument where
  once := by decide +kernel
  records path hpath items := by
    fin_cases hpath <;> exact nofun

/-- The deployment as it is stored once it is assigned to its location. -/
def assignedDocument (cluster : Option ClusterReference) : Json :=
  mergePatch (.obj (guardedChange "1" none
    (Members.always "status" (unassigned.assigned ⟨0, 0⟩ (heathrowWith cluster))))) (encode unassigned)

/-- A server of the deployment and its location. -/
def heathrowServer (cluster : Option ClusterReference) : MergingServer Json :=
  soleServer (pathOf "market" "backend") [heathrowWith cluster]

/-- A pass on the deployment has it assigned. -/
theorem run_schedule_unassigned {cluster : Option ClusterReference}
    (hlisted : (heathrowServer cluster).answer .listLocations (encode unassigned) =
      (.ok [heathrowWith cluster], encode unassigned))
    (hread : (decodeText? (assignedDocument cluster).render : Option Deployment).isSome = true) :
    (unassigned.schedule ⟨0, 0⟩).run (heathrowServer cluster).answer (encode unassigned) =
      (.ok awaitChange, assignedDocument cluster) := by
  have hrequest := request_patchDeploymentStatus (d := unassigned) rfl rfl rfl (by decide +kernel)
    (by decide +kernel) (unassigned.assigned ⟨0, 0⟩ (heathrowWith cluster))
  have hpatched : (heathrowServer cluster).answer
      (.patchDeploymentStatus unassigned (unassigned.assigned ⟨0, 0⟩ (heathrowWith cluster)))
      (encode unassigned) = (.ok (), assignedDocument cluster) := soleServer_patched hrequest hread
  exact (run_schedule_eq_ok_iff rfl rfl hlisted rfl).2 ⟨hpatched, rfl⟩

/-- A location with another cluster is stored with that cluster. -/
theorem assignment_stored_unassigned :
    (encode unassigned).IsDocument ∧ ∃ (after : Json) (status : DeploymentStatus),
      (unassigned.schedule ⟨0, 0⟩).run (heathrowServer (some ⟨"lhr-new"⟩)).answer (encode unassigned) =
        (.ok awaitChange, after) ∧
      (after.member? "status").bind decode = some status ∧
      status.location = some ⟨"lhr", "sites"⟩ ∧ status.cluster = some ⟨"lhr-new"⟩ := by
  have hread : decode (encode unassigned) = some unassigned := by decide +kernel
  have hlisted : (heathrowServer (some ⟨"lhr-new"⟩)).answer .listLocations (encode unassigned) =
      (.ok [heathrowWith (some ⟨"lhr-new"⟩)], encode unassigned) := soleServer_listed (by
    rw [Json.render, Json.parse_of_toList String.toList_ofList]
    decide +kernel)
  have hrun := run_schedule_unassigned hlisted (by
    rw [decodeText?, Json.render, Json.parse_of_toList String.toList_ofList]
    decide +kernel)
  obtain ⟨j', status, hstored, hstatus, -, hlocation, hcluster, -⟩ :=
    assignment_stored (by decide +kernel) rfl rfl (by decide +kernel) (by decide +kernel)
      (document?_soleServer ..) isDocument_unassigned hread rfl rfl hlisted rfl hrun
  obtain rfl := Option.some.inj ((document?_soleServer ..).symm.trans hstored)
  exact ⟨isDocument_unassigned, _, status, hrun, hstatus, hlocation, hcluster⟩

/-- A location without a cluster is stored with the cluster that the status has named before. -/
theorem assignment_keeps_cluster :
    decode (encode unassigned) = some unassigned ∧ unassigned.isDeleting = false ∧
      unassigned.location = none ∧
      unassigned.select [heathrowWith none] = .selected (heathrowWith none) ∧
      (heathrowWith none).spec.provider.cluster = none ∧
      ∃ (after : Json) (status : DeploymentStatus),
        (unassigned.schedule ⟨0, 0⟩).run (heathrowServer none).answer (encode unassigned) =
          (.ok awaitChange, after) ∧
        (after.member? "status").bind decode = some status ∧
        status.location = some ⟨"lhr", "sites"⟩ ∧ status.cluster = some ⟨"lhr-old"⟩ := by
  have hlisted : (heathrowServer none).answer .listLocations (encode unassigned) =
      (.ok [heathrowWith none], encode unassigned) := soleServer_listed (by
    rw [Json.render, Json.parse_of_toList String.toList_ofList]
    decide +kernel)
  have hrun := run_schedule_unassigned hlisted (by
    rw [decodeText?, Json.render, Json.parse_of_toList String.toList_ofList]
    decide +kernel)
  have hstatus : (((assignedDocument none).member? "status").bind decode).any
      (fun status : DeploymentStatus =>
        status.location = some ⟨"lhr", "sites"⟩ ∧ status.cluster = some ⟨"lhr-old"⟩) = true := by
    decide +kernel
  obtain ⟨status, hread, hstatus⟩ := (Option.any_eq_true _ _).1 hstatus
  obtain ⟨hlocation, hcluster⟩ := of_decide_eq_true hstatus
  exact ⟨by decide +kernel, rfl, rfl, rfl, rfl, _, status, hrun, hread, hlocation, hcluster⟩

end Deployment

end ControlPlane
