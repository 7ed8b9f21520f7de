import ControlPlane.Proofs.Json.Merging
import ControlPlane.Proofs.Schema.RoundTrip

/-!
# Records merged into records

A merge patch keeps what it does not name, and a record does not name its absent members. So a record
that is merged into another one is read back with what the other had in their place. Most types have no
such members: merged into anything they are read as if they had been written (`CompleteForm`). Of the
statuses each has some, and `StatusForm.laidOver` says what it takes over from the one it is merged into.
-/

namespace ControlPlane

open Json (mergePatch mergeMembers valuesOf valuesOf_mergeMembers_of_nil
  valuesOf_mergeMembers_of_singleton)

/-- Types whose values, merged into any other, are read as if they stood in its place. -/
class CompleteForm (α : Type) [JsonForm α] : Prop extends PresentForm α where
  decode_mergePatch (a : α) {j : Json} (hj : j.bindsOnce = true) :
    (decode (mergePatch (encode a) j) : Option α) = decode (encode a)

export CompleteForm (decode_mergePatch)

/-- A record that is not written as a list is an object of its members. -/
theorem Json.eq_obj_of_record? {names : List String} {j : Json} {members : Members}
    (h : j.record? names = some members) (hj : ∀ items, j ≠ .arr items) : j = .obj members := by
  cases j with
  | obj _ =>
    cases h
    rfl
  | arr items => exact absurd rfl (hj items)
  | _ => cases h

/-! ## Values that are no records -/

instance : CompleteForm String where
  decode_mergePatch s j _ := by
    show decode (mergePatch (.str s) j) = decode (Json.str s)
    rw [mergePatch]
  encode_ne_null _ := nofun

instance : CompleteForm Int32 where
  decode_mergePatch n j _ := by
    show decode (mergePatch (.int n.toInt) j) = decode (Json.int n.toInt)
    rw [mergePatch]
  encode_ne_null _ := nofun

instance {α : Type} [JsonForm α] : CompleteForm (List α) where
  decode_mergePatch l j _ := by
    show decode (mergePatch (.arr (l.map encode)) j) = decode (Json.arr (l.map encode))
    rw [mergePatch]
  encode_ne_null _ := nofun

instance : CompleteForm ConditionSet where
  decode_mergePatch s j _ := by
    show decode (mergePatch (.arr (s.toList.map encode)) j) = decode (Json.arr (s.toList.map encode))
    rw [mergePatch]
  encode_ne_null _ := nofun

/-! ## Members -/

namespace Members

variable {α : Type} [JsonForm α] {changes members : Members} {name : String} {a : α}

theorem valuesOf_merged [PresentForm α] (hm : (Json.obj members).bindsOnce = true)
    (h : valuesOf name changes = [encode a]) : valuesOf name (mergeMembers changes members) =
      [mergePatch (encode a) ((valuesOf name members).getLast?.getD .null)] :=
  valuesOf_mergeMembers_of_singleton h (encode_ne_null a)
    (Json.length_valuesOf_le_one (Json.bindsOnce_obj_iff.1 hm).1)

variable [CompleteForm α]

/-- A member that must be there is read as the change gives it. -/
theorem onlyOf_merged (hm : (Json.obj members).bindsOnce = true)
    (h : valuesOf name changes = [encode a]) :
    (onlyOf (valuesOf name (mergeMembers changes members)) : Option α) = decode (encode a) := by
  rw [valuesOf_merged hm h]
  exact decode_mergePatch a (Json.bindsOnce_getLast? hm name)

theorem defaultOf_merged {default : α} (hm : (Json.obj members).bindsOnce = true)
    (h : valuesOf name changes = [encode a]) :
    defaultOf default (valuesOf name (mergeMembers changes members)) = decode (encode a) := by
  rw [valuesOf_merged hm h]
  exact decode_mergePatch a (Json.bindsOnce_getLast? hm name)

/-- A member that may be absent is read as the change gives it, or else as before. -/
theorem maybeOf_merged {o new previous : Option α} (hm : (Json.obj members).bindsOnce = true)
    (h : valuesOf name changes = (o.map encode).toList)
    (hnew : maybeOf (o.map encode).toList = some new)
    (hprevious : maybeOf (valuesOf name members) = some previous) :
    maybeOf (valuesOf name (mergeMembers changes members)) = some (new <|> previous) := by
  cases o with
  | none =>
    cases hnew
    rw [valuesOf_mergeMembers_of_nil h, hprevious]
    rfl
  | some a =>
    have hnull (j : Json) : mergePatch (encode a) j ≠ .null :=
      Json.mergePatch_ne_null (encode_ne_null a) j
    change decodeUnlessNull (encode a) = some new at hnew
    rw [decodeUnlessNull_of_ne_null (encode_ne_null a)] at hnew
    obtain ⟨b, hb, rfl⟩ := Option.map_eq_some_iff.1 hnew
    rw [valuesOf_merged hm h]
    change decodeUnlessNull _ = some (some b)
    rw [decodeUnlessNull_of_ne_null (hnull _),
      decode_mergePatch a (Json.bindsOnce_getLast? hm name), hb, Option.map_some]

omit [CompleteForm α] in
/-- A value that is read is the only one of its name. -/
theorem exists_of_maybeOf {values : List Json} (h : maybeOf values = some (some a)) :
    ∃ j, values = [j] ∧ decode j = some a := by
  match values with
  | [j] => exact ⟨j, rfl, (ne_null_of_decodeUnlessNull h).2⟩

omit [CompleteForm α] in
/-- Where no value is read, there is none or a `null`. -/
theorem getD_of_maybeOf_none {values : List Json} (h : maybeOf values = some (none : Option α)) :
    values.getLast?.getD .null = .null := by
  match values with
  | [] => rfl
  | [j] =>
    change decodeUnlessNull j = some (none : Option α) at h
    by_contra hj
    change j ≠ .null at hj
    rw [decodeUnlessNull_of_ne_null hj] at h
    obtain ⟨_, -, heq⟩ := Option.map_eq_some_iff.1 h
    cases heq

/-- A name that is bound once at most is read the same way under both conventions. -/
theorem lastOf_eq_maybeOf {α : Type} [JsonForm α] {values : List Json} (h : values.length ≤ 1) :
    (lastOf values : Option (Option α)) = maybeOf values := by
  match values with
  | [] => rfl
  | [_] => rfl
  | _ :: _ :: _ => simp at h

theorem lastOf_merged {o new previous : Option α} (hm : (Json.obj members).bindsOnce = true)
    (h : valuesOf name changes = (o.map encode).toList)
    (hnew : maybeOf (o.map encode).toList = some new)
    (hprevious : lastOf (valuesOf name members) = some previous) :
    lastOf (valuesOf name (mergeMembers changes members)) = some (new <|> previous) := by
  have hold : (valuesOf name members).length ≤ 1 :=
    Json.length_valuesOf_le_one (Json.bindsOnce_obj_iff.1 hm).1
  have hmerged : (valuesOf name (mergeMembers changes members)).length ≤ 1 := by
    cases o with
    | none => rwa [valuesOf_mergeMembers_of_nil h]
    | some a =>
      rw [valuesOf_merged hm h]
      exact Nat.le_refl 1
  rw [lastOf_eq_maybeOf hold] at hprevious
  rw [lastOf_eq_maybeOf hmerged, maybeOf_merged hm h hnew hprevious]

/-- A list that is not written when it is empty is read as the change gives it, or else as before. -/
theorem defaultOf_merged_unlessEmpty {α : Type} [JsonForm α] [LawfulJsonForm α] {l previous : List α}
    (hm : (Json.obj members).bindsOnce = true)
    (h : valuesOf name changes = if l = [] then [] else [encode l])
    (hprevious : defaultOf [] (valuesOf name members) = some previous) :
    defaultOf [] (valuesOf name (mergeMembers changes members)) =
      some (if l = [] then previous else l) := by
  by_cases hl : l = []
  · rw [if_pos hl] at h ⊢
    rw [valuesOf_mergeMembers_of_nil h, hprevious]
  · rw [if_neg hl] at h ⊢
    rw [defaultOf_merged hm h, decode_encode]

end Members

/-! ## Records that are always written whole -/

open Members (onlyOf_merged defaultOf_merged maybeOf_merged defaultOf_merged_unlessEmpty)

instance : CompleteForm LocationReference where
  decode_mergePatch r j hj := by
    have hm := Json.bindsOnce_membersOrNone hj
    obtain ⟨changes, hencode, hname, hns⟩ : ∃ changes, encode r = .obj changes ∧
        valuesOf "name" changes = [encode r.name] ∧ valuesOf "namespace" changes = [encode r.ns] :=
      ⟨_, rfl, by simp, by simp⟩
    rw [hencode, Json.mergePatch_obj]
    simp only [decode, Json.record?_obj, Option.bind_eq_bind, Option.bind_some, Members.required_eq,
      onlyOf_merged hm hname, onlyOf_merged hm hns, hname, hns, Members.onlyOf_singleton]
  encode_ne_null _ := nofun

instance : CompleteForm ClusterReference where
  decode_mergePatch r j hj := by
    have hm := Json.bindsOnce_membersOrNone hj
    obtain ⟨changes, hencode, hname⟩ : ∃ changes, encode r = .obj changes ∧
        valuesOf "name" changes = [encode r.name] := ⟨_, rfl, by simp⟩
    rw [hencode, Json.mergePatch_obj]
    simp only [decode, Json.record?_obj, Option.bind_eq_bind, Option.bind_some, Members.required_eq,
      onlyOf_merged hm hname, hname, Members.onlyOf_singleton]
  encode_ne_null _ := nofun

instance : CompleteForm ControlStatus where
  decode_mergePatch s j hj := by
    have hm := Json.bindsOnce_membersOrNone hj
    obtain ⟨changes, hencode, hhash⟩ : ∃ changes, encode s = .obj changes ∧
        valuesOf "observedTemplateHash" changes = [encode s.observedTemplateHash] :=
      ⟨_, rfl, by simp⟩
    rw [hencode, Json.mergePatch_obj]
    simp only [decode, Json.record?_obj, Option.bind_eq_bind, Option.bind_some,
      Members.withDefault_eq, defaultOf_merged hm hhash, hhash, Members.defaultOf_singleton]
  encode_ne_null _ := nofun

instance : CompleteForm GatewayStatus where
  decode_mergePatch s j hj := by
    have hm := Json.bindsOnce_membersOrNone hj
    obtain ⟨changes, hencode, haddresses, hconditions⟩ : ∃ changes, encode s = .obj changes ∧
        valuesOf "addresses" changes = [encode s.addresses] ∧
        valuesOf "conditions" changes = [encode s.conditions] := ⟨_, rfl, by simp, by simp⟩
    rw [hencode, Json.mergePatch_obj]
    simp only [decode, Json.record?_obj, Option.bind_eq_bind, Option.bind_some,
      Members.withDefault_eq, defaultOf_merged hm haddresses, defaultOf_merged hm hconditions,
      haddresses, hconditions, Members.defaultOf_singleton]
  encode_ne_null _ := nofun

/-! ## Statuses -/

/-- Statuses, each with what it takes over from the one it is merged into. -/
class StatusForm (Status : Type) [JsonForm Status] [Dated Status] where
  /-- The status that says nothing. -/
  blank : Status
  /-- The status with what it leaves out taken from a previous one. -/
  laidOver : Status → Status → Status
  decode_blank : decode (.obj []) = some blank
  eq_obj_of_decode {s : Status} {j : Json} (h : decode j = some s) (hj : ∀ items, j ≠ .arr items) :
    ∃ members, j = .obj members
  decode_merged {s previous : Status} {j : Json} (hs : InRange s) (hj : j.bindsOnce = true)
    (hprevious : decode (.obj j.membersOrNone) = some previous) :
    decode (mergePatch (encode s) j) = some (laidOver (cut s) previous)

/-- An instance's status leaves out its interfaces, when there are none, and what the runtime has taken
over, when it has not taken over anything. -/
instance : StatusForm InstanceStatus where
  blank := {}
  laidOver s previous := { s with
    networkInterfaces :=
      if s.networkInterfaces = [] then previous.networkInterfaces else s.networkInterfaces
    control := s.control <|> previous.control }
  decode_blank := rfl
  eq_obj_of_decode h hj :=
    have ⟨_, hmembers, _⟩ := Option.bind_eq_some_iff.1 h
    ⟨_, Json.eq_obj_of_record? hmembers hj⟩
  decode_merged {s previous j} hs hj hprevious := by
    have hm := Json.bindsOnce_membersOrNone hj
    have hrange : InRange s.conditions := hs
    simp only [decode, Json.record?_obj, Members.withDefault_eq, Members.maybe_eq,
      Option.bind_eq_bind, Option.bind_some, Option.bind_eq_some_iff] at hprevious
    obtain ⟨_, -, interfaces, hinterfaces, control, hcontrol, heq⟩ := hprevious
    cases heq
    obtain ⟨changes, hencode, hnewConditions, hnewInterfaces, hnewControl⟩ :
        ∃ changes, encode s = .obj changes ∧ valuesOf "conditions" changes = [encode s.conditions] ∧
          (valuesOf "networkInterfaces" changes =
            if s.networkInterfaces = [] then [] else [encode s.networkInterfaces]) ∧
          valuesOf "controller" changes = (s.control.map encode).toList :=
      ⟨_, rfl, by simp, by simp, by simp⟩
    rw [hencode, Json.mergePatch_obj]
    simp only [decode, Json.record?_obj, Members.withDefault_eq, Members.maybe_eq,
      Option.bind_eq_bind, Option.bind_some]
    rw [defaultOf_merged hm hnewConditions, decode_encode_of_inRange hrange,
      defaultOf_merged_unlessEmpty hm hnewInterfaces hinterfaces,
      maybeOf_merged hm hnewControl (Members.maybeOf_optional _) hcontrol]
    rfl

/-- A deployment's status leaves out its location and its cluster when it has none. -/
instance : StatusForm DeploymentStatus where
  blank := {}
  laidOver s previous := { s with
    location := s.location <|> previous.location
    cluster := s.cluster <|> previous.cluster }
  decode_blank := rfl
  eq_obj_of_decode h hj :=
    have ⟨_, hmembers, _⟩ := Option.bind_eq_some_iff.1 h
    ⟨_, Json.eq_obj_of_record? hmembers hj⟩
  decode_merged {s previous j} hs hj hprevious := by
    have hm := Json.bindsOnce_membersOrNone hj
    have hrange : InRange s.conditions := hs
    simp only [decode, Json.record?_obj, Members.withDefault_eq, Members.maybe_eq,
      Option.bind_eq_bind, Option.bind_some, Option.bind_eq_some_iff] at hprevious
    obtain ⟨location, hlocation, cluster, hcluster, _, -, _, -, _, -, _, -, _, -, heq⟩ := hprevious
    cases heq
    obtain ⟨changes, hencode, hnewLocation, hnewCluster, hconditions, hreplicas, hcurrent, hdesired,
        hready⟩ : ∃ changes, encode s = .obj changes ∧
          valuesOf "location" changes = (s.location.map encode).toList ∧
          valuesOf "clusterRef" changes = (s.cluster.map encode).toList ∧
          valuesOf "conditions" changes = [encode s.conditions] ∧
          valuesOf "replicas" changes = [encode s.replicas] ∧
          valuesOf "currentReplicas" changes = [encode s.currentReplicas] ∧
          valuesOf "desiredReplicas" changes = [encode s.desiredReplicas] ∧
          valuesOf "readyReplicas" changes = [encode s.readyReplicas] :=
      ⟨_, rfl, by simp, by simp, by simp, by simp, by simp, by simp, by simp⟩
    rw [hencode, Json.mergePatch_obj]
    simp only [decode, Json.record?_obj, Members.withDefault_eq, Members.maybe_eq,
      Option.bind_eq_bind, Option.bind_some]
    rw [maybeOf_merged hm hnewLocation (Members.maybeOf_optional _) hlocation,
      maybeOf_merged hm hnewCluster (Members.maybeOf_optional _) hcluster,
      defaultOf_merged hm hconditions, decode_encode_of_inRange hrange,
      defaultOf_merged hm hreplicas, decode_encode, defaultOf_merged hm hcurrent, decode_encode,
      defaultOf_merged hm hdesired, decode_encode, defaultOf_merged hm hready, decode_encode]
    rfl

/-- A workload's status leaves out its gateway when it has none. -/
instance : StatusForm WorkloadStatus where
  blank := {}
  laidOver s previous := { s with gateway := s.gateway <|> previous.gateway }
  decode_blank := rfl
  eq_obj_of_decode h hj :=
    have ⟨_, hmembers, _⟩ := Option.bind_eq_some_iff.1 h
    ⟨_, Json.eq_obj_of_record? hmembers hj⟩
  decode_merged {s previous j} hs hj hprevious := by
    have hm := Json.bindsOnce_membersOrNone hj
    obtain ⟨hrange, hrest⟩ : InRange s.conditions ∧ _ := List.forall_mem_append.1 hs
    obtain ⟨hplacementRange, hgatewayRange⟩ : InRange s.placements ∧ InRange s.gateway :=
      List.forall_mem_append.1 hrest
    simp only [decode, Json.record?_obj, Members.withDefault_eq, Members.maybe_eq,
      Option.bind_eq_bind, Option.bind_some, Option.bind_eq_some_iff] at hprevious
    obtain ⟨_, -, _, -, _, -, _, -, _, -, _, -, gateway, hgateway, heq⟩ := hprevious
    cases heq
    obtain ⟨changes, hencode, hconditions, hreplicas, hcurrent, hdesired, hready, hplacements,
        hnewGateway⟩ : ∃ changes, encode s = .obj changes ∧
          valuesOf "conditions" changes = [encode s.conditions] ∧
          valuesOf "replicas" changes = [encode s.replicas] ∧
          valuesOf "currentReplicas" changes = [encode s.currentReplicas] ∧
          valuesOf "desiredReplicas" changes = [encode s.desiredReplicas] ∧
          valuesOf "readyReplicas" changes = [encode s.readyReplicas] ∧
          valuesOf "placements" changes = [encode s.placements] ∧
          valuesOf "gateway" changes = (s.gateway.map encode).toList :=
      ⟨_, rfl, by simp, by simp, by simp, by simp, by simp, by simp, by simp⟩
    rw [hencode, Json.mergePatch_obj]
    simp only [decode, Json.record?_obj, Members.withDefault_eq, Members.maybe_eq,
      Option.bind_eq_bind, Option.bind_some]
    rw [defaultOf_merged hm hconditions, decode_encode_of_inRange hrange,
      defaultOf_merged hm hreplicas, decode_encode, defaultOf_merged hm hcurrent, decode_encode,
      defaultOf_merged hm hdesired, decode_encode, defaultOf_merged hm hready, decode_encode,
      defaultOf_merged hm hplacements, decode_encode_of_inRange hplacementRange,
      maybeOf_merged hm hnewGateway (Members.maybeOf_optional_of_inRange hgatewayRange) hgateway]
    rfl

end ControlPlane
