import ControlPlane.Proofs.Writes.Stores

/-!
# What a workload's status says of its deployments

The status of a workload has an entry for each placement that its deployments are for, in the order of
the placements' names. As long as the counts that the deployments report add up within 32 bits, each
entry counts what is reported for its placement and the status what is reported for all of them. What
the status before says of other matters is carried over (`aggregate_adds_up`).

* `addsUp_of_nonneg`: counts that are not negative add up if all of them together do.
* `aggregate_perm`: in which order the deployments are listed does not matter.
-/

namespace ControlPlane

theorem pairwise_distinctSorted (names : List String) :
    (distinctSorted names).Pairwise (· < ·) :=
  (Keyed.ofList id names).ascending

theorem distinctSorted_perm {names names' : List String} (h : names.Perm names') :
    distinctSorted names = distinctSorted names' := by
  have hmem (l : List String) (name : String) : name ∈ Keyed.ofList id l ↔ name ∈ l :=
    mem_distinctSorted
  refine congrArg Keyed.toList (Keyed.ext_mem fun name => ?_)
  rw [hmem, hmem, h.mem_iff]

/-- Counts come to the same in any order. -/
theorem ReplicaCounts.sum_perm {l l' : List ReplicaCounts} (h : l.Perm l') : sum l = sum l' := by
  refine h.foldl_eq' (fun a _ b _ c => ?_) ({} : ReplicaCounts)
  simp only [add, Int32.add_assoc, Int32.add_comm a.replicas, Int32.add_comm a.current,
    Int32.add_comm a.desired, Int32.add_comm a.ready]

namespace Deployment

/-- The number that a deployment reports, zero while it has no status. -/
def reported (k : Count) (d : Deployment) : Int :=
  (d.counts.get k).toInt

/-- What deployments report together. -/
def total (k : Count) (ds : List Deployment) : Int :=
  (ds.map (reported k)).sum

/-- The deployments of a placement. -/
def ofPlacement (name : String) (ds : List Deployment) : List Deployment :=
  ds.filter (·.spec.placement == name)

/-- What the deployments report adds up within 32 bits, for all of them and for each placement. -/
def AddsUp (ds : List Deployment) : Prop :=
  ∀ k, FitsInt32 (total k ds) ∧ ∀ name, FitsInt32 (total k (ofPlacement name ds))

variable {ds ds' : List Deployment} {k : Count}

theorem get_counts_eq_ofInt (k : Count) (d : Deployment) :
    d.counts.get k = Int32.ofInt (d.reported k) :=
  (Int32.ofInt_toInt _).symm

/-- Counts that are not negative add up if all of them together do. -/
theorem addsUp_of_nonneg (hnonneg : ∀ k, ∀ d ∈ ds, 0 ≤ reported k d)
    (hfits : ∀ k, total k ds < 2 ^ 31) : AddsUp ds := by
  have hpart {part : List Deployment} (hsub : part.Sublist ds) (k : Count) :
      FitsInt32 (total k part) := by
    have hpartNonneg : ∀ n ∈ part.map (reported k), 0 ≤ n :=
      List.forall_mem_map.2 fun d hd => hnonneg k d (hsub.subset hd)
    have hle : total k part ≤ total k ds :=
      (hsub.map (reported k)).sum_le_sum (List.forall_mem_map.2 (hnonneg k))
    have := List.sum_nonneg hpartNonneg
    have := hfits k
    constructor
    · rw [total]
      omega
    · omega
  exact fun k => ⟨hpart (List.Sublist.refl ds) k, fun name => hpart List.filter_sublist k⟩

end Deployment

open Deployment (total ofPlacement AddsUp)

namespace Workload

variable {w : Workload} {now : Instant} {ds ds' : List Deployment}

/-- The status before, empty if there is none. -/
def previous (w : Workload) : WorkloadStatus :=
  w.status.getD {}

/-- What the status before says of a placement, nothing if it has no entry. -/
def conditionsBefore (w : Workload) (name : String) : ConditionSet :=
  (w.previous.placements.find? (·.name == name)).elim .empty (·.conditions)

/-- What the status of a workload says of deployments, and what it takes over from the one before. -/
structure Aggregates (w : Workload) (ds : List Deployment) (status : WorkloadStatus) : Prop where
  /-- No two entries have one name. -/
  ascending : (status.placements.map (·.name)).Pairwise (· < ·)
  occurs : ∀ name, name ∈ status.placements.map (·.name) ↔ ∃ d ∈ ds, d.spec.placement = name
  entry_counts : ∀ p ∈ status.placements, ∀ k, (p.counts.get k).toInt = total k (ofPlacement p.name ds)
  counts : ∀ k, (status.counts.get k).toInt = total k ds
  counts_entries : ∀ k,
    (status.counts.get k).toInt = (status.placements.map fun p => (p.counts.get k).toInt).sum
  entry_available : ∀ p ∈ status.placements, p.conditions.isTrue Condition.available = true ↔
    ∃ d ∈ ds, d.spec.placement = p.name ∧ d.isAvailable = true
  available : status.conditions.isTrue Condition.available = true ↔ ∃ d ∈ ds, d.isAvailable = true
  entry_conditions : ∀ p ∈ status.placements,
    p.conditions.AgreeBut Condition.available (w.conditionsBefore p.name)
  conditions : status.conditions.AgreeBut Condition.available w.previous.conditions
  gateway : status.gateway = w.previous.gateway

/-! ## The entries -/

theorem names_aggregate : (w.aggregate now ds).placements.map (·.name) =
    distinctSorted (ds.map (·.spec.placement)) := by
  simp [aggregate, Function.comp_def, name_placementStatus]

/-- An entry is made of the deployments of its placement. -/
theorem eq_placementStatus_of_mem {p : PlacementStatus}
    (h : p ∈ (w.aggregate now ds).placements) :
    p = w.placementStatus now w.previous p.name (ofPlacement p.name ds) := by
  obtain ⟨name, -, rfl⟩ := List.mem_map.1 h
  rw [name_placementStatus]
  rfl

theorem toInt_counts_of_mem {p : PlacementStatus} (h : p ∈ (w.aggregate now ds).placements)
    {k : Count} (hfits : FitsInt32 (total k (ofPlacement p.name ds))) :
    (p.counts.get k).toInt = total k (ofPlacement p.name ds) := by
  refine toInt_of_eq_ofInt ?_ hfits
  rw [eq_placementStatus_of_mem h, name_placementStatus]
  exact get_counts_placementStatus fun d _ => Deployment.get_counts_eq_ofInt k d

theorem toInt_counts_aggregate {k : Count} (hfits : FitsInt32 (total k ds)) :
    ((w.aggregate now ds).counts.get k).toInt = total k ds :=
  toInt_of_eq_ofInt (get_counts_aggregate fun d _ => Deployment.get_counts_eq_ofInt k d) hfits

/-- The entries count what all deployments report. -/
theorem sum_total_entries (k : Count) :
    ((w.aggregate now ds).placements.map fun p => total k (ofPlacement p.name ds)).sum =
      total k ds := by
  have hmap : ((w.aggregate now ds).placements.map fun p => total k (ofPlacement p.name ds)) =
      ((w.aggregate now ds).placements.map (·.name)).map fun name =>
        total k (ofPlacement name ds) := by
    rw [List.map_map]
    rfl
  rw [hmap, names_aggregate]
  exact Deployment.sum_placements _ (nodup_distinctSorted _) fun d hd =>
    mem_distinctSorted.2 (List.mem_map_of_mem hd)

theorem type_placementCondition (available : Bool) :
    (w.placementCondition now available).type = Condition.available := by
  cases available <;> rfl

theorem type_availableCondition (available : Bool) :
    (w.availableCondition now available).type = Condition.available := by
  cases available <;> rfl

theorem conditions_placementStatus (name : String) (members : List Deployment) :
    (w.placementStatus now w.previous name members).conditions =
      ((w.conditionsBefore name).set
        (w.placementCondition now (members.any Deployment.isAvailable))).1 := by
  unfold placementStatus conditionsBefore
  cases w.previous.placements.find? (·.name == name) <;> rfl

/-! ## The whole status -/

theorem aggregates_aggregate (h : AddsUp ds) : w.Aggregates ds (w.aggregate now ds) where
  ascending := by
    rw [names_aggregate]
    exact pairwise_distinctSorted _
  occurs name := by
    rw [names_aggregate, mem_distinctSorted, List.mem_map]
  entry_counts p hp k := toInt_counts_of_mem hp ((h k).2 p.name)
  counts k := toInt_counts_aggregate (h k).1
  counts_entries k := by
    have hentries : (w.aggregate now ds).placements.map (fun p => (p.counts.get k).toInt) =
        (w.aggregate now ds).placements.map fun p => total k (ofPlacement p.name ds) :=
      List.map_congr_left fun p hp => toInt_counts_of_mem hp ((h k).2 p.name)
    rw [toInt_counts_aggregate (h k).1, hentries, sum_total_entries]
  entry_available p hp := by
    rw [eq_placementStatus_of_mem hp, name_placementStatus, conditions_placementStatus,
      isTrue_set_placementCondition, List.any_eq_true]
    simp [ofPlacement, and_assoc]
  available := by
    rw [aggregate, isTrue_set_availableCondition, List.any_eq_true]
  entry_conditions p hp := by
    rw [eq_placementStatus_of_mem hp, name_placementStatus, conditions_placementStatus]
    exact type_placementCondition _ ▸ ConditionSet.agreeBut_set _ _
  conditions := type_availableCondition _ ▸ ConditionSet.agreeBut_set _ _
  gateway := rfl

/-- In which order the deployments are listed does not matter to the status. -/
theorem aggregate_perm (h : ds.Perm ds') : w.aggregate now ds = w.aggregate now ds' := by
  have hmembers (name : String) (previous : WorkloadStatus) :
      w.placementStatus now previous name (ds.filter (·.spec.placement == name)) =
        w.placementStatus now previous name (ds'.filter (·.spec.placement == name)) := by
    have hperm := h.filter (·.spec.placement == name)
    unfold placementStatus
    rw [ReplicaCounts.sum_perm (hperm.map _), hperm.any_eq]
  unfold aggregate
  simp only [distinctSorted_perm (h.map _), hmembers, h.any_eq]

/-- While what the deployments report adds up within 32 bits, the status that is made of them says how
they stand, takes over the rest, and does not tell in which order they were listed. -/
theorem aggregate_adds_up (h : AddsUp ds) : w.Aggregates ds (w.aggregate now ds) ∧
    ∀ ds', ds.Perm ds' → w.aggregate now ds' = w.aggregate now ds :=
  ⟨aggregates_aggregate h, fun _ hperm => (aggregate_perm hperm).symm⟩

/-- A deployment of which only its placement and its status are known. -/
def reporting (placement : String) (status : Option DeploymentStatus) : Deployment where
  metadata := {}
  spec := {
    workload := ⟨"web", "w1"⟩
    placement
    cityCode := "DFW"
    scale := { minReplicas := 1 } }
  status

/-- Two deployments of one placement, and one of another that has no status yet. -/
def reports : List Deployment := [
  reporting "us" (some { replicas := 2, readyReplicas := 1 }),
  reporting "eu" none,
  reporting "us" (some {
    replicas := 3
    conditions := Keyed.empty.insert (.at ⟨0, 0⟩ Condition.available Condition.holds "" "") })]

/-- A workload that is degraded, with an entry for one of these placements and one that has gone. -/
def degradedWeb : Workload :=
  { oneCityWeb with
    status := some {
      conditions := Keyed.empty.insert (.at ⟨0, 0⟩ "Degraded" Condition.holds "" "")
      placements := [⟨"us", Keyed.empty.insert (.at ⟨0, 0⟩ "Degraded" Condition.holds "" ""), 7, 7, 7, 7⟩,
        { name := "apac" }] } }

/-- The five instances are counted, the degradation stays on record, and the entry of the placement that
has gone is dropped. -/
theorem aggregate_adds_up_degraded :
    let status := degradedWeb.aggregate ⟨0, 0⟩ reports
    AddsUp reports ∧ degradedWeb.Aggregates reports status ∧
      degradedWeb.aggregate ⟨0, 0⟩ reports.reverse = status ∧
      (status.counts.get .replicas).toInt = 5 ∧ status.conditions.isTrue "Degraded" = true ∧
      "apac" ∉ status.placements.map (·.name) := by
  intro status
  have hfits : AddsUp reports := by
    refine Deployment.addsUp_of_nonneg (fun k => ?_) fun k => ?_ <;> cases k <;> decide
  obtain ⟨hstatus, hperm⟩ : degradedWeb.Aggregates reports status ∧ _ := aggregate_adds_up hfits
  refine ⟨hfits, hstatus, hperm _ (List.reverse_perm _).symm, ?_, ?_, fun hapac => ?_⟩
  · rw [hstatus.counts]
    decide
  · have hdegraded := hstatus.conditions "Degraded" (by decide)
    rw [ConditionSet.isTrue, hdegraded]
    decide
  · obtain ⟨d, hd, hplacement⟩ := (hstatus.occurs "apac").1 hapac
    revert d
    decide

end Workload

end ControlPlane
