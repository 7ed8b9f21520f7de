import ControlPlane.Api.Requests
import ControlPlane.Proofs.Schema.Merged

/-!
# Guarded patches of stored documents

A server keeps an object as a document, which may hold more than the object does, and applies a patch to
the document. What it keeps then is read as the object with the one thing replaced that the patch is for:
its finalizers (`decode_finalizers`), the gates held on an instance (`decode_gates`), or its status, with
what the new status leaves out taken from the old one (`decode_status`).

The version that guards a patch stands in the document already, so it changes nothing there.
-/

namespace ControlPlane

open Json (mergePatch mergeMembers valuesOf valuesOf_mergeMembers_of_nil
  valuesOf_mergeMembers_obj)

/-- A document as a server keeps one of an object: it binds each name once, and it has objects for the
records that patches reach into. -/
structure Json.IsDocument (j : Json) : Prop where
  once : j.bindsOnce = true
  records : ∀ path ∈ [[], ["spec"], ["spec", "controller"], ["status"]], ∀ items,
    j.path? path ≠ some (.arr items)

/-! ## Metadata -/

namespace ObjectMeta

variable {m : ObjectMeta} {members : Members} {version : String}

/-- The changes of a guarded patch to the metadata: the version, and finalizers if they are to change. -/
def guarded (version : String) (finalizers : Option (List String)) : Members :=
  Members.always "resourceVersion" version ++ Members.optional "finalizers" finalizers

/-- Metadata that a guarded patch was merged into is as before, but for the finalizers. -/
theorem decode_guarded (hm : (Json.obj members).bindsOnce = true)
    (h : decode (.obj members) = some m) (hversion : m.resourceVersion = some version)
    (finalizers : Option (List String)) :
    decode (.obj (mergeMembers (guarded version finalizers) members)) =
      some { m with finalizers := finalizers <|> m.finalizers } := by
  have hkept {α : Type} [JsonForm α] (name : String) (hv : "resourceVersion" ≠ name)
      (hf : "finalizers" ≠ name) :
      (Members.lenient (mergeMembers (guarded version finalizers) members) name : Option (Option α)) =
        Members.lenient members name := by
    refine congrArg Members.lastOf (valuesOf_mergeMembers_of_nil ?_)
    rw [guarded, Json.valuesOf_append, Members.valuesOf_always, if_neg hv, Members.valuesOf_optional,
      if_neg hf, List.append_nil]
  -- The record is read name by name, and only two of the names are in the patch.
  obtain ⟨_, hobject, h⟩ := Option.bind_eq_some_iff.1 h
  cases hobject
  obtain ⟨_, hannotations, h⟩ := Option.bind_eq_some_iff.1 h
  obtain ⟨_, hcreation, h⟩ := Option.bind_eq_some_iff.1 h
  obtain ⟨_, hgrace, h⟩ := Option.bind_eq_some_iff.1 h
  obtain ⟨_, hdeletion, h⟩ := Option.bind_eq_some_iff.1 h
  obtain ⟨old, hold, h⟩ := Option.bind_eq_some_iff.1 h
  obtain ⟨_, hgenerateName, h⟩ := Option.bind_eq_some_iff.1 h
  obtain ⟨_, hgeneration, h⟩ := Option.bind_eq_some_iff.1 h
  obtain ⟨_, hlabels, h⟩ := Option.bind_eq_some_iff.1 h
  obtain ⟨_, hmanaged, h⟩ := Option.bind_eq_some_iff.1 h
  obtain ⟨_, hname, h⟩ := Option.bind_eq_some_iff.1 h
  obtain ⟨_, hns, h⟩ := Option.bind_eq_some_iff.1 h
  obtain ⟨_, howners, h⟩ := Option.bind_eq_some_iff.1 h
  obtain ⟨_, hsame, h⟩ := Option.bind_eq_some_iff.1 h
  obtain ⟨_, hselfLink, h⟩ := Option.bind_eq_some_iff.1 h
  obtain ⟨_, huid, heq⟩ := Option.bind_eq_some_iff.1 h
  cases heq
  cases hversion
  have hnewVersion : Members.lenient (mergeMembers (guarded version finalizers) members)
      "resourceVersion" = some (some version) :=
    Members.lastOf_merged (o := some version) hm (by simp [guarded]) (Members.maybeOf_optional _) hsame
  have hfinalizers : Members.lenient (mergeMembers (guarded version finalizers) members)
      "finalizers" = some (finalizers <|> old) :=
    Members.lastOf_merged hm (by simp [guarded]) (Members.maybeOf_optional _) hold
  unfold instJsonFormObjectMeta
  dsimp only [bind, Option.bind]
  simp (disch := decide) only [Json.object?_obj, hkept, hnewVersion, hfinalizers, hannotations, hcreation,
    hgrace, hdeletion, hgenerateName, hgeneration, hlabels, hmanaged, hname, hns, howners, hselfLink, huid]
  rfl

end ObjectMeta

/-- The only value of a name that must be there. -/
theorem Members.exists_of_required {α : Type} [JsonForm α] {members : Members} {name : String} {a : α}
    (h : members.required name = some a) : ∃ j, valuesOf name members = [j] ∧ decode j = some a := by
  change Members.onlyOf (valuesOf name members) = some a at h
  match hvalues : valuesOf name members with
  | [j] => exact ⟨j, rfl, by rwa [hvalues] at h⟩
  | [] => simp [hvalues, Members.onlyOf] at h
  | _ :: _ :: _ => simp [hvalues, Members.onlyOf] at h

/-- The members of a patch that names the version, and finalizers if they are to change. -/
def guardedChange (version : String) (finalizers : Option (List String)) (beside : Members) :
    Members :=
  ("metadata", .obj (ObjectMeta.guarded version finalizers)) :: beside

/-- The metadata of a patched document. -/
theorem ObjectMeta.required_guardedChange {m : ObjectMeta} {members beside : Members}
    {version : String} {finalizers : Option (List String)} (hj : (Json.obj members).bindsOnce = true)
    (hm : members.required "metadata" = some m) (hversion : m.resourceVersion = some version)
    (hbeside : valuesOf "metadata" beside = []) :
    Members.required (mergeMembers (guardedChange version finalizers beside) members) "metadata" =
      some { m with finalizers := finalizers <|> m.finalizers } := by
  obtain ⟨j, hvalue, hdecode⟩ := Members.exists_of_required hm
  obtain ⟨record, rfl⟩ : ∃ record, j = .obj record := by
    cases j with
    | obj record => exact ⟨record, rfl⟩
    | _ => cases hdecode
  have hchange : valuesOf "metadata" (guardedChange version finalizers beside) =
      [.obj (guarded version finalizers)] := by
    rw [guardedChange, Json.valuesOf_cons, if_pos rfl, hbeside]
  rw [Members.required_eq, valuesOf_mergeMembers_obj hchange hvalue, Members.onlyOf_singleton]
  exact decode_guarded (Json.bindsOnce_of_valuesOf hj hvalue) hdecode hversion finalizers

/-! ## Specifications -/

/-- The controller's record with other gates in it. -/
theorem InstanceControl.decode_gates {c : InstanceControl} {members : Members}
    (hm : (Json.obj members).bindsOnce = true) (h : decode (.obj members) = some c)
    (gates : List SchedulingGate) :
    decode (.obj (mergeMembers (Members.always "schedulingGates" gates) members)) =
      some { c with gates } := by
  obtain ⟨_, hobject, h⟩ := Option.bind_eq_some_iff.1 h
  cases hobject
  obtain ⟨hash, hhash, h⟩ := Option.bind_eq_some_iff.1 h
  obtain ⟨_, -, heq⟩ := Option.bind_eq_some_iff.1 h
  cases heq
  have hkept : (Members.required (mergeMembers (Members.always "schedulingGates" gates) members)
      "templateHash" : Option String) = Members.required members "templateHash" :=
    congrArg Members.onlyOf (valuesOf_mergeMembers_of_nil (by simp))
  have hgates : Members.withDefault (mergeMembers (Members.always "schedulingGates" gates) members)
      "schedulingGates" [] = some gates :=
    (Members.defaultOf_merged hm (by simp)).trans (decode_encode gates)
  unfold instJsonFormInstanceControl
  dsimp only [bind, Option.bind]
  simp only [Json.record?_obj, hkept, hhash, hgates]
  rfl

/-- The change of an instance's specification that replaces the gates in the controller's record. -/
def gatesChange (gates : List SchedulingGate) : Members :=
  [("controller", .obj (Members.always "schedulingGates" gates))]

/-- A specification with other gates in the controller's record, which is written as an object. -/
theorem InstanceSpec.decode_gates {s : InstanceSpec} {c : InstanceControl} {members : Members}
    (hm : (Json.obj members).bindsOnce = true) (h : decode (.obj members) = some s)
    (hc : s.control = some c)
    (hrecord : ∀ items, (Json.obj members).member? "controller" ≠ some (.arr items))
    (gates : List SchedulingGate) :
    decode (.obj (mergeMembers (gatesChange gates) members)) =
      some { s with control := some { c with gates } } := by
  have hkept {α : Type} [JsonForm α] (name : String) (hn : "controller" ≠ name) (default : α) :
      Members.withDefault (mergeMembers (gatesChange gates) members) name default =
        Members.withDefault members name default := by
    refine congrArg (Members.defaultOf default) (valuesOf_mergeMembers_of_nil ?_)
    rw [gatesChange, Json.valuesOf_cons, if_neg hn]
    rfl
  have hlocationKept {α : Type} [JsonForm α] (name : String) (hn : "controller" ≠ name) :
      (Members.maybe (mergeMembers (gatesChange gates) members) name : Option (Option α)) =
        Members.maybe members name := by
    refine congrArg Members.maybeOf (valuesOf_mergeMembers_of_nil ?_)
    rw [gatesChange, Json.valuesOf_cons, if_neg hn]
    rfl
  obtain ⟨_, hobject, h⟩ := Option.bind_eq_some_iff.1 h
  cases hobject
  obtain ⟨_, hruntime, h⟩ := Option.bind_eq_some_iff.1 h
  obtain ⟨_, hinterfaces, h⟩ := Option.bind_eq_some_iff.1 h
  obtain ⟨_, hvolumes, h⟩ := Option.bind_eq_some_iff.1 h
  obtain ⟨_, hlocation, h⟩ := Option.bind_eq_some_iff.1 h
  obtain ⟨_, hcontrol, heq⟩ := Option.bind_eq_some_iff.1 h
  cases heq
  cases hc
  have hgates : Members.maybe (mergeMembers (gatesChange gates) members) "controller" =
      some (some { c with gates }) := by
    obtain ⟨j, hj, hdecode⟩ := Members.exists_of_maybeOf hcontrol
    obtain ⟨record, hmembers, -⟩ := Option.bind_eq_some_iff.1 hdecode
    obtain rfl := Json.eq_obj_of_record? hmembers fun items hitems => by
      refine hrecord items ?_
      rw [Json.member?, hj, hitems]
      rfl
    have hchange : valuesOf "controller" (gatesChange gates) =
        [.obj (Members.always "schedulingGates" gates)] := by simp [gatesChange]
    rw [Members.maybe_eq, valuesOf_mergeMembers_obj hchange hj]
    exact congrArg (Option.map some)
      (InstanceControl.decode_gates (Json.bindsOnce_of_valuesOf hm hj) hdecode gates)
  unfold instJsonFormInstanceSpec
  dsimp only [bind, Option.bind]
  simp (disch := decide) only [Json.record?_obj, hkept, hlocationKept, hruntime, hinterfaces, hvolumes,
    hlocation, hgates]
  rfl

/-! ## Resources -/

namespace Resource

variable {Spec Status : Type} [JsonForm Spec] [JsonForm Status] [OfKind (Resource Spec Status)]
  {o : Resource Spec Status} {j : Json} {version : String}

theorem decode_of_parts {members : Members} {m : ObjectMeta} {spec : Spec} {status : Option Status}
    (hm : members.required "metadata" = some m) (hspec : members.required "spec" = some spec)
    (hstatus : members.maybe "status" = some status) :
    decode (.obj members) = some (⟨m, spec, status⟩ : Resource Spec Status) := by
  unfold instJsonFormResourceOfOfKind
  dsimp only [bind, Option.bind]
  simp only [resourceMembers?_obj, hm, hspec, hstatus]
  rfl

/-- The parts of an object that is read. -/
theorem parts_of_decode {members : Members} (h : decode (.obj members) = some o) :
    members.required "metadata" = some o.metadata ∧ members.required "spec" = some o.spec ∧
      members.maybe "status" = some o.status := by
  obtain ⟨_, hmembers, h⟩ := Option.bind_eq_some_iff.1 h
  cases hmembers
  obtain ⟨m, hm, h⟩ := Option.bind_eq_some_iff.1 h
  obtain ⟨spec, hspec, h⟩ := Option.bind_eq_some_iff.1 h
  obtain ⟨status, hstatus, heq⟩ := Option.bind_eq_some_iff.1 h
  cases heq
  exact ⟨hm, hspec, hstatus⟩

/-- The members of a stored document. -/
theorem exists_members (hj : j.IsDocument) (h : decode j = some o) : ∃ members : Members,
    j = .obj members ∧
    members.required "metadata" = some o.metadata ∧ members.required "spec" = some o.spec ∧
      members.maybe "status" = some o.status := by
  obtain ⟨_, hmembers, -⟩ := Option.bind_eq_some_iff.1 h
  cases j with
  | obj members => exact ⟨members, rfl, parts_of_decode h⟩
  | arr items => exact absurd rfl (hj.records [] (by simp) items)
  | _ => cases hmembers

/-- The status that stands in an object is the one that is read. -/
theorem decode_member_status {members : Members} {status : Status}
    (h : decode (.obj members) = some o) (hs : o.status = some status) :
    ((Json.obj members).member? "status").bind decode = some status := by
  obtain ⟨-, -, hstatus⟩ := parts_of_decode h
  rw [hs] at hstatus
  obtain ⟨value, hvalue, hdecode⟩ := Members.exists_of_maybeOf hstatus
  rw [Json.member?, hvalue]
  exact hdecode

variable {members : Members}

/-- A name beside the metadata that a patch does not change. -/
theorem valuesOf_guardedChange {name : String} (hname : "metadata" ≠ name) (version : String)
    (finalizers : Option (List String)) (beside : Members) :
    valuesOf name (guardedChange version finalizers beside) = valuesOf name beside := by
  rw [guardedChange, Json.valuesOf_cons, if_neg hname]

/-- A patch of the finalizers replaces the finalizers. -/
theorem decode_finalizers (hj : j.IsDocument) (h : decode j = some o)
    (hversion : o.metadata.resourceVersion = some version) (finalizers : List String) :
    decode (mergePatch (.obj (guardedChange version (some finalizers) [])) j) =
      some { o with metadata := { o.metadata with finalizers := some finalizers } } := by
  obtain ⟨members, rfl, hm, hspec, hstatus⟩ := exists_members hj h
  have hkept (name : String) (hname : "metadata" ≠ name) :
      valuesOf name (mergeMembers (guardedChange version (some finalizers) []) members) =
        valuesOf name members :=
    valuesOf_mergeMembers_of_nil (valuesOf_guardedChange hname ..)
  rw [Json.mergePatch_obj]
  refine decode_of_parts (ObjectMeta.required_guardedChange hj.once hm hversion rfl) ?_ ?_
  · rw [← hspec]
    exact congrArg Members.onlyOf (hkept "spec" (by decide))
  · rw [← hstatus]
    exact congrArg Members.maybeOf (hkept "status" (by decide))

/-- The status that stands in a document, taken as an object. -/
theorem decode_members_status [Dated Status] [StatusForm Status] {o : Option Status}
    (hj : (Json.obj members).IsDocument) (hstatus : members.maybe "status" = some o) :
    decode (.obj ((valuesOf "status" members).getLast?.getD .null).membersOrNone) =
      some (o.getD StatusForm.blank) := by
  cases o with
  | none =>
    rw [Members.getD_of_maybeOf_none hstatus]
    exact StatusForm.decode_blank
  | some status =>
    obtain ⟨value, hvalue, hdecode⟩ := Members.exists_of_maybeOf hstatus
    have hlist (items : List Json) : value ≠ .arr items := by
      rintro rfl
      refine hj.records ["status"] (by simp) items ?_
      simp [Json.path?, Json.member?, hvalue]
    obtain ⟨record, rfl⟩ := StatusForm.eq_obj_of_decode hdecode hlist
    rw [hvalue]
    exact hdecode

/-- A patch of the status writes the new status over the old one. -/
theorem decode_status [Dated Status] [StatusForm Status] [PresentForm Status]
    (hj : j.IsDocument) (h : decode j = some o) (hversion : o.metadata.resourceVersion = some version)
    {status : Status} (hs : InRange status) :
    decode (mergePatch (.obj (guardedChange version none (Members.always "status" status))) j) =
      some { o with
        status := some (StatusForm.laidOver (cut status) (o.status.getD StatusForm.blank)) } := by
  obtain ⟨members, rfl, hm, hspec, hstatus⟩ := exists_members hj h
  have hspecKept : valuesOf "spec"
      (mergeMembers (guardedChange version none (Members.always "status" status)) members) =
        valuesOf "spec" members :=
    valuesOf_mergeMembers_of_nil ((valuesOf_guardedChange (by decide) ..).trans (by simp))
  have hchange : valuesOf "status" (guardedChange version none (Members.always "status" status)) =
      [encode status] :=
    (valuesOf_guardedChange (by decide) ..).trans (by simp)
  have hmerged := StatusForm.decode_merged hs (Json.bindsOnce_getLast? hj.once "status")
    (decode_members_status hj hstatus)
  rw [Json.mergePatch_obj, Json.membersOrNone]
  refine decode_of_parts (ObjectMeta.required_guardedChange hj.once hm hversion (by simp)) ?_ ?_
  · rw [← hspec]
    exact congrArg Members.onlyOf hspecKept
  · rw [Members.maybe_eq, Members.valuesOf_merged hj.once hchange]
    show decodeUnlessNull _ = _
    rw [decodeUnlessNull_of_ne_null (Json.mergePatch_ne_null (encode_ne_null status) _), hmerged]
    rfl

end Resource

/-- A patch of the gates of an instance replaces the gates in the controller's record. -/
theorem Instance.decode_gates {i : Instance} {c : InstanceControl} {j : Json} {version : String}
    (hj : j.IsDocument) (h : decode j = some i) (hversion : i.metadata.resourceVersion = some version)
    (hc : i.spec.control = some c) (gates : List SchedulingGate) :
    decode (mergePatch (.obj (guardedChange version none [("spec", .obj (gatesChange gates))])) j) =
      some { i with spec := { i.spec with control := some { c with gates } } } := by
  obtain ⟨members, rfl, hm, hspec, hstatus⟩ := Resource.exists_members hj h
  obtain ⟨spec, hvalue, hdecode⟩ := Members.exists_of_required hspec
  obtain ⟨record, hrecord, -⟩ := Option.bind_eq_some_iff.1 hdecode
  obtain rfl := Json.eq_obj_of_record? hrecord fun items hitems => by
    refine hj.records ["spec"] (by simp) items ?_
    simp [Json.path?, Json.member?, hvalue, hitems]
  have hcontrol (items : List Json) :
      (Json.obj record).member? "controller" ≠ some (.arr items) := fun hitems => by
    refine hj.records ["spec", "controller"] (by simp) items ?_
    rw [Json.path?, Json.member?, hvalue, List.getLast?_singleton, Option.bind_some, Json.path?, hitems]
    rfl
  have hstatusKept : valuesOf "status"
      (mergeMembers (guardedChange version none [("spec", .obj (gatesChange gates))]) members) =
        valuesOf "status" members :=
    valuesOf_mergeMembers_of_nil ((Resource.valuesOf_guardedChange (by decide) ..).trans (by simp))
  have hchange : valuesOf "spec"
      (guardedChange version none [("spec", .obj (gatesChange gates))]) = [.obj (gatesChange gates)] :=
    (Resource.valuesOf_guardedChange (by decide) ..).trans (by simp)
  rw [Json.mergePatch_obj, Json.membersOrNone]
  refine Resource.decode_of_parts (ObjectMeta.required_guardedChange hj.once hm hversion (by simp)) ?_ ?_
  · rw [Members.required_eq, valuesOf_mergeMembers_obj hchange hvalue, Members.onlyOf_singleton]
    exact InstanceSpec.decode_gates (Json.bindsOnce_of_valuesOf hj.once hvalue) hdecode hc hcontrol gates
  · rw [← hstatus]
    exact congrArg Members.maybeOf hstatusKept

end ControlPlane
