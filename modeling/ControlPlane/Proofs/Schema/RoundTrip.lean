import ControlPlane.Proofs.Schema.Dated
import ControlPlane.Schema.Any

/-!
# Resources written and read back

Every resource is read back from its JSON form as it was, but for what its times have finer than a
second and for managed fields that are described by a bare `null`, and what any JSON value describes is
written in a normal form (`AnyResource.round_trip`). The times of a resource are those of its metadata
and of the conditions in its status; specifications have none.
-/

namespace ControlPlane

/-! ## Statuses -/

instance : Dated ConditionsStatus where
  times s := times s.conditions
  cut s := { s with conditions := cut s.conditions }

instance : LawfulDated ConditionsStatus where
  decode_encode_of_inRange {s} h := by
    have hc : InRange s.conditions := h
    unfold instJsonFormConditionsStatus instDatedConditionsStatus
    dsimp only [bind, Option.bind]
    simp [hc]
  encode_cut _ := by
    unfold instJsonFormConditionsStatus instDatedConditionsStatus
    simp
  cut_eq_self {s} h := by
    have hc : IsWhole s.conditions := h
    unfold instDatedConditionsStatus
    simp [hc]
  encode_ne_null _ := nofun

instance : Dated BindingStatus where
  times s := times s.conditions
  cut s := { s with conditions := cut s.conditions }

instance : LawfulDated BindingStatus where
  decode_encode_of_inRange {s} h := by
    have hc : InRange s.conditions := h
    unfold instJsonFormBindingStatus instDatedBindingStatus
    dsimp only [bind, Option.bind]
    simp [hc]
  encode_cut _ := by
    unfold instJsonFormBindingStatus instDatedBindingStatus
    simp
  cut_eq_self {s} h := by
    have hc : IsWhole s.conditions := h
    unfold instDatedBindingStatus
    simp [hc]
  encode_ne_null _ := nofun

instance : Dated SubnetClaimStatus where
  times s := times s.conditions
  cut s := { s with conditions := cut s.conditions }

instance : LawfulDated SubnetClaimStatus where
  decode_encode_of_inRange {s} h := by
    have hc : InRange s.conditions := h
    unfold instJsonFormSubnetClaimStatus instDatedSubnetClaimStatus
    dsimp only [bind, Option.bind]
    simp [hc]
  encode_cut _ := by
    unfold instJsonFormSubnetClaimStatus instDatedSubnetClaimStatus
    simp
  cut_eq_self {s} h := by
    have hc : IsWhole s.conditions := h
    unfold instDatedSubnetClaimStatus
    simp [hc]
  encode_ne_null _ := nofun

instance : Dated SubnetStatus where
  times s := times s.conditions
  cut s := { s with conditions := cut s.conditions }

instance : LawfulDated SubnetStatus where
  decode_encode_of_inRange {s} h := by
    have hc : InRange s.conditions := h
    unfold instJsonFormSubnetStatus instDatedSubnetStatus
    dsimp only [bind, Option.bind]
    simp [hc]
  encode_cut _ := by
    unfold instJsonFormSubnetStatus instDatedSubnetStatus
    simp
  cut_eq_self {s} h := by
    have hc : IsWhole s.conditions := h
    unfold instDatedSubnetStatus
    simp [hc]
  encode_ne_null _ := nofun

instance : Dated InstanceStatus where
  times s := times s.conditions
  cut s := { s with conditions := cut s.conditions }

instance : LawfulDated InstanceStatus where
  decode_encode_of_inRange {s} h := by
    have hc : InRange s.conditions := h
    unfold instJsonFormInstanceStatus instDatedInstanceStatus
    dsimp only [bind, Option.bind]
    simp [hc]
  encode_cut _ := by
    unfold instJsonFormInstanceStatus instDatedInstanceStatus
    simp
  cut_eq_self {s} h := by
    have hc : IsWhole s.conditions := h
    unfold instDatedInstanceStatus
    simp [hc]
  encode_ne_null _ := nofun

instance : Dated DeploymentStatus where
  times s := times s.conditions
  cut s := { s with conditions := cut s.conditions }

instance : LawfulDated DeploymentStatus where
  decode_encode_of_inRange {s} h := by
    have hc : InRange s.conditions := h
    unfold instJsonFormDeploymentStatus instDatedDeploymentStatus
    dsimp only [bind, Option.bind]
    simp [hc]
  encode_cut _ := by
    unfold instJsonFormDeploymentStatus instDatedDeploymentStatus
    simp
  cut_eq_self {s} h := by
    have hc : IsWhole s.conditions := h
    unfold instDatedDeploymentStatus
    simp [hc]
  encode_ne_null _ := nofun

instance : Dated PlacementStatus where
  times s := times s.conditions
  cut s := { s with conditions := cut s.conditions }

instance : LawfulDated PlacementStatus where
  decode_encode_of_inRange {s} h := by
    have hc : InRange s.conditions := h
    unfold instJsonFormPlacementStatus instDatedPlacementStatus
    dsimp only [bind, Option.bind]
    simp [hc]
  encode_cut _ := by
    unfold instJsonFormPlacementStatus instDatedPlacementStatus
    simp
  cut_eq_self {s} h := by
    have hc : IsWhole s.conditions := h
    unfold instDatedPlacementStatus
    simp [hc]
  encode_ne_null _ := nofun

instance : Dated GatewayStatus where
  times s := times s.conditions
  cut s := { s with conditions := cut s.conditions }

instance : LawfulDated GatewayStatus where
  decode_encode_of_inRange {s} h := by
    have hc : InRange s.conditions := h
    unfold instJsonFormGatewayStatus instDatedGatewayStatus
    dsimp only [bind, Option.bind]
    simp [hc]
  encode_cut _ := by
    unfold instJsonFormGatewayStatus instDatedGatewayStatus
    simp
  cut_eq_self {s} h := by
    have hc : IsWhole s.conditions := h
    unfold instDatedGatewayStatus
    simp [hc]
  encode_ne_null _ := nofun

instance : Dated WorkloadStatus where
  times s := times s.conditions ++ (times s.placements ++ times s.gateway)
  cut s := { s with
    conditions := cut s.conditions
    placements := cut s.placements
    gateway := cut s.gateway }

instance : LawfulDated WorkloadStatus where
  decode_encode_of_inRange {s} h := by
    obtain ⟨hc, h⟩ : InRange s.conditions ∧ _ := List.forall_mem_append.1 h
    obtain ⟨hp, hg⟩ : InRange s.placements ∧ InRange s.gateway := List.forall_mem_append.1 h
    unfold instJsonFormWorkloadStatus instDatedWorkloadStatus
    dsimp only [bind, Option.bind]
    simp [hc, hp, hg]
  encode_cut _ := by
    unfold instJsonFormWorkloadStatus instDatedWorkloadStatus
    simp
  cut_eq_self {s} h := by
    obtain ⟨hc, h⟩ : IsWhole s.conditions ∧ _ := List.forall_mem_append.1 h
    obtain ⟨hp, hg⟩ : IsWhole s.placements ∧ IsWhole s.gateway := List.forall_mem_append.1 h
    unfold instDatedWorkloadStatus
    simp [hc, hp, hg]
  encode_ne_null _ := nofun

/-! ## Resources of any kind -/

namespace AnyResource

instance : Dated AnyResource where
  times
    | .workload w => times w
    | .deployment d => times d
    | .inst i => times i
    | .location l => times l
    | .network n => times n
    | .networkBinding b => times b
    | .networkContext c => times c
    | .subnetClaim c => times c
    | .subnet s => times s
  cut
    | .workload w => .workload (cut w)
    | .deployment d => .deployment (cut d)
    | .inst i => .inst (cut i)
    | .location l => .location (cut l)
    | .network n => .network (cut n)
    | .networkBinding b => .networkBinding (cut b)
    | .networkContext c => .networkContext (cut c)
    | .subnetClaim c => .subnetClaim (cut c)
    | .subnet s => .subnet (cut s)

/-- The resource without descriptions of managed fields that are a bare `null`. -/
def withoutNulls : AnyResource → AnyResource
  | .workload w => .workload w.withoutNulls
  | .deployment d => .deployment d.withoutNulls
  | .inst i => .inst i.withoutNulls
  | .location l => .location l.withoutNulls
  | .network n => .network n.withoutNulls
  | .networkBinding b => .networkBinding b.withoutNulls
  | .networkContext c => .networkContext c.withoutNulls
  | .subnetClaim c => .subnetClaim c.withoutNulls
  | .subnet s => .subnet s.withoutNulls

variable {r : AnyResource}

/-- A resource is read back with its times cut to the second, and without descriptions that are a
bare `null`. -/
theorem ofJson?_toJson (h : InYears r) : ofJson? r.kind r.toJson = some (cut r).withoutNulls := by
  have hrange : InRange r := fun t ht => (h t ht).inRange
  cases r <;> exact congrArg (Option.map _) (Resource.decode_encode (by exact hrange))

theorem toJson_cut (r : AnyResource) : (cut r).toJson = r.toJson := by
  cases r <;> exact encode_cut _

theorem cut_of_isWhole (h : IsWhole r) : cut r = r := by
  cases r <;> exact congrArg _ (cut_eq_self (by exact h))

theorem withoutNulls_eq_self_iff : r.withoutNulls = r ↔ r.metadata.NoNulls := by
  cases r <;> simp only [withoutNulls, metadata, workload.injEq, deployment.injEq, inst.injEq,
    location.injEq, network.injEq, networkBinding.injEq, networkContext.injEq, subnetClaim.injEq,
    subnet.injEq, Resource.withoutNulls_eq_self_iff]

theorem noNulls_cut (h : r.metadata.NoNulls) : (cut r).metadata.NoNulls := by
  cases r <;> exact ObjectMeta.noNulls_cut h

theorem kind_of_ofJson? {kind : Kind} {j : Json} (h : ofJson? kind j = some r) : r.kind = kind := by
  cases kind <;> obtain ⟨a, -, rfl⟩ := Option.map_eq_some_iff.1 h <;> rfl

theorem noNulls_of_ofJson? {kind : Kind} {j : Json} (h : ofJson? kind j = some r) :
    r.metadata.NoNulls := by
  cases kind <;> obtain ⟨a, ha, rfl⟩ := Option.map_eq_some_iff.1 h <;>
    exact Resource.noNulls_of_decode ha

/-- A resource with whole seconds for times, in years of four digits, is read back from its JSON form,
as it was exactly if no manager's fields are described by a bare `null`; a description of that kind is
read as none. And what any JSON value describes is written in a normal form, which is read back and
written the same way again. -/
theorem round_trip :
    (∀ r : AnyResource, (∀ t ∈ times r, t.InYears ∧ t.IsWhole) →
      ofJson? r.kind r.toJson = some r.withoutNulls ∧ (r.withoutNulls = r ↔ r.metadata.NoNulls)) ∧
    ∀ (kind : Kind) (j : Json) (r : AnyResource), ofJson? kind j = some r →
      (∀ t ∈ times r, t.InYears) →
      ∃ r', ofJson? kind r.toJson = some r' ∧ r'.toJson = r.toJson := by
  refine ⟨fun r h => ⟨?_, withoutNulls_eq_self_iff⟩, fun kind j r hj h => ?_⟩
  · have hcut : cut r = r := cut_of_isWhole fun t ht => (h t ht).2
    rw [ofJson?_toJson fun t ht => (h t ht).1, hcut]
  · have hplain : (cut r).withoutNulls = cut r :=
      withoutNulls_eq_self_iff.2 (noNulls_cut (noNulls_of_ofJson? hj))
    rw [← kind_of_ofJson? hj, ofJson?_toJson h, hplain]
    exact ⟨cut r, rfl, toJson_cut r⟩

/-- An instance of a sandbox that opens a port by number and one by name, on a volume from a
configuration map. Its list of finalizers is there, and empty. -/
def webServer : Instance where
  metadata :=
    { name := some "web-0", ns := some "shop", finalizers := some []
      creationTimestamp := some ⟨1709208000, 0⟩
      managedFields := some [{ manager := some "kubectl", time := some ⟨1709208030, 0⟩ }] }
  spec :=
    { runtime :=
        { resources :=
            { instanceType := "d1-standard-2"
              requests := .ofList Prod.fst [("memory", ⟨"512Mi"⟩), ("cpu", ⟨"500m"⟩)] }
          sandbox := some { containers := [{ name := "nginx", image := "nginx:1.27" }] } }
      networkInterfaces :=
        [{ network := ⟨"blue", none⟩
           policy := some
            { ingress := [{ ports := [{ port := some (.int 443) }, { port := some (.str "web") }] }] } }]
      volumes := [{ name := "conf", configMap := some { name := "nginx-conf", items := some [] } }] }
  status := some
    { conditions := .ofList Condition.type
        [⟨"Running", "True", "Started", "", ⟨1709208090, 0⟩, some 1⟩,
          ⟨"Ready", "False", "Probing", "", ⟨1709208060, 0⟩, none⟩] }

/-- A location as somebody has written it down: with a time of a finer grain in another zone, a `null`
for no labels, a condition reported twice, and a specification without its member names. -/
def writtenLocation : Json :=
  .obj
    [("spec", .arr [.str "self-managed", .obj [("topology.datum.net/city-code", .str "LHR")]]),
      ("metadata", .obj
        [("name", .str "lhr"), ("labels", .null),
          ("creationTimestamp", .str "2024-02-29 14:00:00.25+02:00")]),
      ("status", .obj [("conditions", .arr (["2024-02-29T12:00:30Z", "2024-02-29T12:01:00.5Z"].map
        fun time => .obj [("type", .str "Ready"), ("lastTransitionTime", .str time)]))])]

theorem round_trip_shop :
    ofJson? .inst (toJson (.inst webServer)) = some (.inst webServer) ∧
      ∃ l, ofJson? .location writtenLocation = some l ∧ (∀ t ∈ times l, t.InYears) ∧
        ∃ l', ofJson? .location l.toJson = some l' ∧ l'.toJson = l.toJson := by
  have hread : (ofJson? .location writtenLocation).any
      (fun l => decide (∀ t ∈ times l, t.InYears)) = true := by decide +kernel
  obtain ⟨l, hl, hyears⟩ := (Option.any_eq_true _ _).1 hread
  have hplain : ObjectMeta.NoNulls webServer.metadata := by
    rintro l ⟨⟩ f hf d hd
    cases List.mem_singleton.1 hf
    cases hd
  obtain ⟨hweb, hself⟩ := round_trip.1 (.inst webServer) (by decide +kernel)
  rw [hself.2 hplain] at hweb
  refine ⟨hweb, l, hl, of_decide_eq_true hyears, ?_⟩
  exact round_trip.2 .location writtenLocation l hl (of_decide_eq_true hyears)

/-- A location whose fields, as its manager has set them, are described by a bare `null`. -/
def bareLocation : Location where
  metadata :=
    { name := some "lhr", ns := some "infra"
      managedFields := some
        [{ manager := some "kubectl"
           fields := some { description := .null, isReadable := rfl, canonical := rfl } }] }
  spec := { locationClassName := "self-managed" }

/-- A description that is a bare `null` is lost. -/
theorem bare_null_lost : (∀ t ∈ times (location bareLocation), t.InYears ∧ t.IsWhole) ∧
    ofJson? .location (toJson (.location bareLocation)) ≠ some (.location bareLocation) := by
  refine ⟨by decide +kernel, fun h => ?_⟩
  have hlost : (decode (encode bareLocation) : Option Location) ≠ some bareLocation := by
    decide +kernel
  obtain ⟨l, hl, heq⟩ := Option.map_eq_some_iff.1
    (show (decode (encode bareLocation)).map AnyResource.location = some _ from h)
  cases heq
  exact hlost hl

end AnyResource

end ControlPlane
