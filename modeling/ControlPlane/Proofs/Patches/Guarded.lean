import ControlPlane.Api.Conversation
import ControlPlane.Proofs.Patches.Statuses
import ControlPlane.Proofs.Patches.Stored
import ControlPlane.Proofs.Rest.Readiness
import ControlPlane.Proofs.Server.Versions
import ControlPlane.Proofs.Watch.Collections

/-!
# A guarded patch changes what it is for

The controllers patch finalizers, the gates that are held on an instance, and statuses. Each patch goes to
the object that it is for and names the version under which that was read (`SendsPatch`). What it makes of
the stored document is read as the object with that one thing replaced, whatever else stands in the
document (`Call.alters_only_its_target`). An object without a version is not patched at all.
-/

namespace ControlPlane

open Json (mergePatch)
open Pass (mem_calls_perform)

/-! ## Requests -/

/-- Whether a text can be the name of an object, as far as its characters and its length go. -/
def isObjectName (s : String) : Bool :=
  s ≠ "" && s.utf8ByteSize ≤ 253 && s.toList.all fun c => mayStandInNamespace c || c = '.'

/-- A request that patches an object or its status, if there is one at all: it has this patch for its
body, which names the version. And there is one if the object and its namespace have proper names. -/
structure SendsPatch (request : Except CallError Request) (kind : Kind) (m : ObjectMeta)
    (ns version part : String) (patch : Json) : Prop where
  known : part ∈ ["", "/status"]
  version : patch.version? = some version
  sent : ∀ r, request = .ok r → r.method = .patch ∧ r.body = some (.mergePatch, patch)
  reached : ∀ name ∈ m.name, isNamespaceName ns = true → isObjectName name = true →
    request = .ok
      { method := .patch
        target := ⟨Collection.path ⟨kind, some ns⟩ ++ "/" ++ name ++ part, ""⟩
        body := some (.mergePatch, patch) }

/-- Proper names make a target. -/
theorem Target.ofText?_objectPath (kind : Kind) {ns name part : String}
    (hns : isNamespaceName ns = true) (hname : isObjectName name = true)
    (hpart : part ∈ ["", "/status"]) :
    ofText? (withQuery (Collection.path ⟨kind, some ns⟩ ++ "/" ++ name ++ part) []) =
      some ⟨Collection.path ⟨kind, some ns⟩ ++ "/" ++ name ++ part, ""⟩ := by
  simp only [isObjectName, Bool.and_eq_true, decide_eq_true_eq] at hname
  obtain ⟨⟨-, hsize⟩, hchars⟩ := hname
  obtain ⟨hplain, hlength⟩ := Collection.path_plain (c := ⟨kind, some ns⟩) hns
  have hname : name.toList.all isPlain = true := List.all_eq_true.2 fun c hc => by
    obtain h | h := Bool.or_eq_true_iff.1 (List.all_eq_true.1 hchars c hc)
    · exact isPlain_of_namespace h
    · rw [of_decide_eq_true h]
      decide
  have hpartPlain : part.toList.all isPlain = true ∧ part.utf8ByteSize ≤ 7 := by
    fin_cases hpart <;> decide +kernel
  have hslash : "/".toList.all isPlain = true ∧ "/".utf8ByteSize = 1 := by decide +kernel
  have hempty : "".utf8ByteSize = 0 := rfl
  show ofText? (_ ++ "?" ++ "") = _
  refine ofText?_append ?_ rfl ?_
  · simp only [String.toList_append, List.all_append, hplain, hslash.1, hname, hpartPlain.1,
      Bool.and_true]
  · simp only [String.utf8ByteSize_append, lengthLimit]
    omega

section

variable {Spec Status : Type} [OfKind (Resource Spec Status)] {x : Resource Spec Status}
  {ns version : String}

theorem patchRequest_eq (hns : x.metadata.ns = some ns)
    (hversion : x.metadata.resourceVersion = some version)
    (part : String) (finalizers : Option (List String)) (beside : Members) :
    patchRequest x part (Members.optional "finalizers" finalizers) beside =
      sendTo x ns part .patch .mergePatch (.obj (guardedChange version finalizers beside)) := by
  rw [patchRequest, Resource.requireNamespace, hns, Resource.guardedPatch, Resource.requireVersion,
    hversion]
  rfl

/-- The request of a guarded patch. -/
theorem sendsPatch_of_request {part : String} (hpart : part ∈ ["", "/status"])
    (hns : x.metadata.ns = some ns) (hversion : x.metadata.resourceVersion = some version)
    (finalizers : Option (List String)) {beside : Members}
    (hbeside : Json.valuesOf "metadata" beside = []) :
    SendsPatch (patchRequest x part (Members.optional "finalizers" finalizers) beside)
      (kindOf (Resource Spec Status)) x.metadata ns version part
      (.obj (guardedChange version finalizers beside)) where
  known := hpart
  version := by
    simp [Json.version?, Json.path?, Json.member?, guardedChange, ObjectMeta.guarded, hbeside,
      Json.text?, encode]
  sent r h := by
    rw [patchRequest_eq hns hversion] at h
    exact sendTo_eq_ok h
  reached name hname hnamespace hobject := by
    have hxname : x.name = name := by rw [Resource.name, hname]; rfl
    have hne : name ≠ "" := by
      simp only [isObjectName, Bool.and_eq_true, decide_eq_true_eq] at hobject
      exact hobject.1.1
    have htarget := Target.ofText?_objectPath (kindOf (Resource Spec Status)) hnamespace hobject hpart
    rw [patchRequest_eq hns hversion, sendTo, hxname, objectPath, if_neg hne]
    simp only [bind, Except.bind, Request.send, Request.targetOf, htarget]
    rfl

/-- Without a version there is no request. -/
theorem patchRequest_of_unversioned (h : x.metadata.resourceVersion = none) (part : String)
    (inMetadata beside : Members) :
    ∃ message, patchRequest x part inMetadata beside = .error (.broken (.invalidState message)) := by
  unfold patchRequest Resource.requireNamespace
  cases x.metadata.ns with
  | none => exact ⟨_, rfl⟩
  | some ns =>
    rw [Resource.guardedPatch, Resource.requireVersion, h]
    exact ⟨_, rfl⟩

end

/-- A call that has no request sends nothing. -/
theorem Call.talk_of_error {c : Call} {e : CallError} (h : c.request = .error e)
    (script : List Response) : c.talk.converse script = (some (.error e), { script }) := by
  rw [Talk.converse, talk, h]
  rfl

/-! ## Statuses -/

/-- A patch of a status replaces the status when that leaves out nothing that the old one has. -/
theorem Resource.decode_status_replaced {Spec Status : Type} [JsonForm Spec] [JsonForm Status]
    [OfKind (Resource Spec Status)] [Dated Status] [StatusForm Status] [PresentForm Status]
    [RangedForm Status] {o : Resource Spec Status} {j : Json} {version : String} (hj : j.IsDocument)
    (h : decode j = some o)
    (hversion : o.metadata.resourceVersion = some version) {status : Status}
    (hrange : InRange o.status → InRange status)
    (hlaid : StatusForm.laidOver (cut status) (o.status.getD StatusForm.blank) = cut status) :
    decode (mergePatch (.obj (guardedChange version none (Members.always "status" status))) j) =
      some { o with status := some (cut status) } := by
  obtain ⟨members, -, -, -, hstatus⟩ := exists_members hj h
  -- The old status was read, so the calendar reaches its times, whatever they are.
  have hstored : InRange o.status := Members.inRange_of_maybeOf hstatus
  rw [decode_status hj h hversion (hrange hstored), hlaid]

section

variable {σ : Type} {answer : Answer σ} {s : σ} {now : Instant}

/-- What a workload is told that cannot serve. -/
theorem Workload.eq_unavailableStatus {w : Workload} {reason message : String} {status : WorkloadStatus}
    (h : .patchWorkloadStatus w status ∈ (w.reportUnavailable now reason message).calls answer s) :
    status = w.unavailableStatus now reason message := by
  rw [reportUnavailable_eq] at h
  dsimp only at h
  split at h
  · cases mem_calls_perform.1 h
    rfl
  · cases h

/-- What a pass on an instance reports. -/
theorem Instance.exists_eq_examinedStatus {i : Instance} {status : InstanceStatus}
    (h : .patchInstanceStatus i status ∈ (i.reconcile now).calls answer s) :
    ∃ failure, status = i.examinedStatus now failure := by
  by_cases hdel : i.isDeleting = true
  · rw [reconcile, if_pos hdel] at h
    cases h
  · obtain h | ⟨failure, _, -, -, heq⟩ := (mem_calls_reconcile (Bool.not_eq_true _ ▸ hdel)).1 h
    · have hsilent : i.gatedFailure.Only Call.silent :=
        i.only_gatedFailure (fun _ _ => rfl) fun _ _ => rfl
      cases hsilent.reportsStatus _ h
    · cases heq
      exact ⟨failure, rfl⟩

end

/-! ## Calls -/

/-- Calls that patch an object, each with the object and with what it is to become: an object with other
finalizers, an instance with other gates, or an object with the status that a controller has made from the
old one, its times cut to the second. -/
inductive Call.Alters (now : Instant) : Call → AnyResource → AnyResource → Prop
  | workloadFinalizers (w : Workload) (finalizers : List String) :
    Alters now (.setWorkloadFinalizers w finalizers) (.workload w)
      (.workload { w with metadata := { w.metadata with finalizers := some finalizers } })
  | deploymentFinalizers (d : Deployment) (finalizers : List String) :
    Alters now (.setDeploymentFinalizers d finalizers) (.deployment d)
      (.deployment { d with metadata := { d.metadata with finalizers := some finalizers } })
  | gates {i : Instance} {c : InstanceControl} (hc : i.spec.control = some c)
      (gates : List SchedulingGate) :
    Alters now (.setSchedulingGates i gates) (.inst i)
      (.inst { i with spec := { i.spec with control := some { c with gates } } })
  | aggregated (w : Workload) (ds : List Deployment) :
    Alters now (.patchWorkloadStatus w (w.aggregate now ds)) (.workload w)
      (.workload { w with status := some (cut (w.aggregate now ds)) })
  | unavailable {w : Workload} {reason message : String} {status : WorkloadStatus} {σ : Type}
      {answer : Answer σ} {s : σ}
      (hcall : .patchWorkloadStatus w status ∈ (w.reportUnavailable now reason message).calls answer s) :
    Alters now (.patchWorkloadStatus w status) (.workload w)
      (.workload { w with status := some (cut status) })
  | progressed (d : Deployment) (summary : ReplicaSummary) (networkReady : Bool) :
    Alters now (.patchDeploymentStatus d (d.progress now summary networkReady)) (.deployment d)
      (.deployment { d with status := some (cut (d.progress now summary networkReady)) })
  | examined {i : Instance} {status : InstanceStatus} {σ : Type} {answer : Answer σ} {s : σ}
      (hcall : .patchInstanceStatus i status ∈ (i.reconcile now).calls answer s) :
    Alters now (.patchInstanceStatus i status) (.inst i)
      (.inst { i with status := some (cut status) })

variable {now : Instant} {c : Call} {o o' : AnyResource}

/-- What is proved of resources of one kind holds of resources of any kind. -/
theorem AnyResource.read_of_decode {α : Type} [JsonForm α] {f : α → AnyResource}
    (hf : Function.Injective f) {x x' : α} {patch : Json}
    (h : ∀ j, j.IsDocument → decode j = some x → decode (mergePatch patch j) = some x') :
    ∀ j, j.IsDocument → (decode j).map f = some (f x) →
      (decode (mergePatch patch j)).map f = some (f x') := fun j hj hread => by
  obtain ⟨y, hy, heq⟩ := Option.map_eq_some_iff.1 hread
  cases hf heq
  rw [h j hj hy, Option.map_some]

namespace Call.Alters

open AnyResource (read_of_decode)

/-- The patch of a call, and what it makes of a document. -/
theorem exists_patch (h : c.Alters now o o') (hnow : now.InRange) {ns version : String}
    (hns : o.metadata.ns = some ns) (hversion : o.metadata.resourceVersion = some version) :
    ∃ part patch, SendsPatch c.request o.kind o.metadata ns version part patch ∧
      ∀ j, j.IsDocument → AnyResource.ofJson? o.kind j = some o →
        AnyResource.ofJson? o.kind (mergePatch patch j) = some o' := by
  have hwhole : "" ∈ ["", "/status"] := by simp
  have hpart : "/status" ∈ ["", "/status"] := by simp
  cases h with
  | workloadFinalizers w finalizers =>
    refine ⟨_, _, sendsPatch_of_request hwhole hns hversion (some finalizers) rfl,
      read_of_decode (fun _ _ => AnyResource.workload.inj) fun j hj h => ?_⟩
    exact Resource.decode_finalizers hj h hversion finalizers
  | deploymentFinalizers d finalizers =>
    refine ⟨_, _, sendsPatch_of_request hwhole hns hversion (some finalizers) rfl,
      read_of_decode (fun _ _ => AnyResource.deployment.inj) fun j hj h => ?_⟩
    exact Resource.decode_finalizers hj h hversion finalizers
  | gates hc gates =>
    refine ⟨_, _, sendsPatch_of_request hwhole hns hversion none rfl,
      read_of_decode (fun _ _ => AnyResource.inst.inj) fun j hj h => ?_⟩
    exact Instance.decode_gates hj h hversion hc gates
  | aggregated w ds =>
    refine ⟨_, _, sendsPatch_of_request hpart hns hversion none (by simp),
      read_of_decode (fun _ _ => AnyResource.workload.inj) fun j hj h => ?_⟩
    exact Resource.decode_status_replaced hj h hversion (Workload.inRange_aggregate · hnow)
      (Workload.laidOver_of_gateway rfl)
  | unavailable hcall =>
    refine ⟨_, _, sendsPatch_of_request hpart hns hversion none (by simp),
      read_of_decode (fun _ _ => AnyResource.workload.inj) fun j hj h => ?_⟩
    rw [Workload.eq_unavailableStatus hcall]
    exact Resource.decode_status_replaced hj h hversion
      (Workload.inRange_unavailableStatus · hnow _ _) (Workload.laidOver_of_gateway rfl)
  | progressed d summary networkReady =>
    refine ⟨_, _, sendsPatch_of_request hpart hns hversion none (by simp),
      read_of_decode (fun _ _ => AnyResource.deployment.inj) fun j hj h => ?_⟩
    exact Resource.decode_status_replaced hj h hversion
      (Deployment.inRange_progress · hnow summary networkReady)
      (Deployment.laidOver_of_assignment rfl rfl)
  | examined hcall =>
    refine ⟨_, _, sendsPatch_of_request hpart hns hversion none (by simp),
      read_of_decode (fun _ _ => AnyResource.inst.inj) fun j hj h => ?_⟩
    obtain ⟨failure, rfl⟩ := Instance.exists_eq_examinedStatus hcall
    exact Resource.decode_status_replaced hj h hversion (Instance.inRange_examinedStatus · hnow failure)
      (Instance.laidOver_of_runtime rfl rfl)

/-- A call on an object without a version has no request. -/
theorem request_of_unversioned (h : c.Alters now o o') (hversion : o.metadata.resourceVersion = none) :
    ∃ message, c.request = .error (.broken (.invalidState message)) := by
  cases h <;> exact patchRequest_of_unversioned hversion ..

end Call.Alters

/-- A call that patches an object sends a patch of that object under the version that was read, and what
the patch makes of a stored document is read as the object with one thing replaced. On an object without a
version the call fails, and nothing is sent. -/
theorem Call.alters_only_its_target (hnow : now.InRange) (h : c.Alters now o o') :
    (∀ ns ∈ o.metadata.ns, ∀ version ∈ o.metadata.resourceVersion, ∃ part patch,
      SendsPatch c.request o.kind o.metadata ns version part patch ∧
        ∀ j, j.IsDocument → AnyResource.ofJson? o.kind j = some o →
          AnyResource.ofJson? o.kind (mergePatch patch j) = some o') ∧
    (o.metadata.resourceVersion = none → ∀ script, ∃ message,
      c.talk.converse script = (some (.error (.broken (.invalidState message))), { script })) := by
  refine ⟨fun ns hns version hversion => h.exists_patch hnow hns hversion, fun hversion script => ?_⟩
  obtain ⟨message, hrequest⟩ := h.request_of_unversioned hversion
  exact ⟨message, Call.talk_of_error hrequest script⟩

/-- A workload with a gateway of which others report. -/
def publicWeb : Workload where
  metadata := { name := some "web", ns := some "shop", resourceVersion := some "7" }
  spec := {}
  status := some { gateway := some { addresses := [{ value := "203.0.113.7" }] } }

/-- The document in which it is stored. It holds more than is read of it. -/
def publicDocument : Json :=
  .obj
    [("kind", .str "Workload"),
      ("metadata", .obj
        [("labels", .null), ("name", .str "web"), ("namespace", .str "shop"),
          ("resourceVersion", .str "7")]),
      ("spec", encode publicWeb.spec),
      ("status", .obj
        [("phase", .str "Serving"),
          ("gateway", .obj
            [("class", .str "public"), ("addresses", .arr [.obj [("value", .str "203.0.113.7")]])])])]

theorem isDocument_publicDocument : publicDocument.IsDocument where
  once := by decide +kernel
  records path hpath items := by
    fin_cases hpath <;> exact nofun

/-- Its aggregated status says nothing of the class of the gateway or of the phase, and is read back with
the gateway. Its version is needed for that. -/
theorem alters_only_its_target_gateway :
    Instant.InRange ⟨1709208060, 500000000⟩ ∧ publicDocument.IsDocument ∧
      AnyResource.ofJson? .workload publicDocument = some (.workload publicWeb) ∧
      (∃ patch r, patch.version? = some "7" ∧
        (Call.patchWorkloadStatus publicWeb (publicWeb.aggregate ⟨1709208060, 500000000⟩ [])).request =
          .ok r ∧
        r.body = some (.mergePatch, patch) ∧
        AnyResource.ofJson? .workload (mergePatch patch publicDocument) = some (.workload
          { publicWeb with status := some (cut (publicWeb.aggregate ⟨1709208060, 500000000⟩ [])) })) ∧
      ∃ message, ((Call.setWorkloadFinalizers (publicWeb.reread none none) []).talk.converse []) =
        (some (.error (.broken (.invalidState message))), { script := [] }) := by
  have hnow : Instant.InRange ⟨1709208060, 500000000⟩ := by decide +kernel
  have hread : AnyResource.ofJson? .workload publicDocument = some (.workload publicWeb) := rfl
  refine ⟨hnow, isDocument_publicDocument, hread, ?_, ?_⟩
  · obtain ⟨_, patch, hsends, hpatch⟩ :=
      (Call.alters_only_its_target hnow (.aggregated publicWeb [])).1 "shop" rfl "7" rfl
    have hrequest := hsends.reached "web" rfl (by decide +kernel) (by decide +kernel)
    exact ⟨patch, _, hsends.version, hrequest, rfl, hpatch _ isDocument_publicDocument hread⟩
  · exact (Call.alters_only_its_target hnow
      (.workloadFinalizers (publicWeb.reread none none) [])).2 rfl []

end ControlPlane
