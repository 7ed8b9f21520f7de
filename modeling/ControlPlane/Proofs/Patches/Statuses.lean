import ControlPlane.Placement.Availability
import ControlPlane.Proofs.Rest.Observation
import ControlPlane.Proofs.Schema.Merged
import ControlPlane.Proofs.Schema.Ranged
import ControlPlane.Reconcile.Instance
import ControlPlane.Reconcile.Schedule
import ControlPlane.Reconcile.Workload

/-!
# Statuses that are made from statuses

A controller makes a status from the one it has read. The times in it are those that it has read and the
time of the pass, so the calendar reaches them (`inRange_aggregate` and the like). And it leaves out
nothing that the old one has, so writing it over the old one gives the new one (`laidOver_of_gateway`,
`laidOver_of_assignment`, `laidOver_of_runtime`). A deployment that is assigned to a location is the
exception: it may leave out a cluster.
-/

namespace ControlPlane

variable {now : Instant}

/-! ## Times -/

theorem inRange_condition_iff {c : Condition} : InRange c ↔ c.lastTransitionTime.InRange :=
  inRange_instant_iff

theorem ConditionSet.inRange_filed {s : ConditionSet} {c : Condition} (hs : InRange s) (hc : InRange c) :
    InRange (s.filed c) := by
  unfold filed
  cases hold : s.get? c.type with
  | none => exact hc
  | some old =>
    have hmem : old ∈ s.toList := (Keyed.get?_eq_some_iff.1 hold).1
    dsimp only
    split
    · exact hc
    · exact inRange_conditions_iff.1 hs old hmem

/-- Filing an observation brings in no time but its own. -/
theorem ConditionSet.inRange_set {s : ConditionSet} {c : Condition} (hs : InRange s) (hc : InRange c) :
    InRange (s.set c).1 := by
  rw [set_fst]
  refine inRange_conditions_iff.2 fun x hx => ?_
  obtain rfl | hx := Keyed.mem_insert.1 hx
  · exact inRange_filed hs hc
  · exact inRange_conditions_iff.1 hs x hx.1

theorem inRange_observe {Spec Status : Type} {r : Resource Spec Status}
    {type status reason message : String} (hnow : now.InRange) :
    InRange (r.observe now type status reason message) :=
  inRange_condition_iff.2 hnow

/-! ## Workloads -/

namespace Workload

variable {w : Workload} {ds : List Deployment}

theorem inRange_status_iff {s : WorkloadStatus} :
    InRange s ↔ InRange s.conditions ∧ InRange s.placements ∧ InRange s.gateway := by
  show InRange s ↔ (∀ t ∈ times s.conditions, t.InRange) ∧ (∀ t ∈ times s.placements, t.InRange) ∧
    ∀ t ∈ times s.gateway, t.InRange
  rw [← List.forall_mem_append, ← List.forall_mem_append]
  rfl

theorem inRange_placementStatus {previous : WorkloadStatus} (hprevious : InRange previous)
    (hnow : now.InRange) (name : String) (members : List Deployment) :
    InRange (w.placementStatus now previous name members) := by
  have hbefore : InRange ((previous.placements.find? (·.name == name)).getD { name }).conditions := by
    cases hfind : previous.placements.find? (·.name == name) with
    | none => exact nofun
    | some before =>
      have hmem := List.mem_of_find?_eq_some hfind
      exact inRange_list_iff.1 (inRange_status_iff.1 hprevious).2.1 before hmem
  have hcondition : InRange (w.placementCondition now (members.any Deployment.isAvailable)) := by
    unfold placementCondition
    split
    · exact inRange_observe hnow
    · exact inRange_observe hnow
  exact ConditionSet.inRange_set hbefore hcondition

/-- The times in an aggregated status are those of the previous one, and that of the pass. -/
theorem inRange_aggregate (h : InRange w.status) (hnow : now.InRange) :
    InRange (w.aggregate now ds) := by
  have hprevious : InRange (w.status.getD {}) := inRange_getD h nofun
  have hcondition : InRange (w.availableCondition now (ds.any Deployment.isAvailable)) := by
    unfold availableCondition
    split
    · exact inRange_observe hnow
    · exact inRange_observe hnow
  obtain ⟨hconditions, -, hgateway⟩ := inRange_status_iff.1 hprevious
  refine inRange_status_iff.2
    ⟨ConditionSet.inRange_set hconditions hcondition, inRange_list_iff.2 fun p hp => ?_, hgateway⟩
  obtain ⟨name, -, rfl⟩ := List.mem_map.1 hp
  exact inRange_placementStatus hprevious hnow name _

/-- The status of a workload that cannot serve, for a reason. -/
def unavailableStatus (w : Workload) (now : Instant) (reason message : String) : WorkloadStatus :=
  { w.status.getD {} with
    conditions := ((w.status.getD {}).conditions.set
      (w.observe now Condition.available Condition.fails reason message)).1 }

theorem inRange_unavailableStatus (h : InRange w.status) (hnow : now.InRange)
    (reason message : String) : InRange (w.unavailableStatus now reason message) := by
  have hprevious : InRange (w.status.getD {}) := inRange_getD h nofun
  obtain ⟨hconditions, hrest⟩ := inRange_status_iff.1 hprevious
  exact inRange_status_iff.2 ⟨ConditionSet.inRange_set hconditions (inRange_observe hnow), hrest⟩

/-- A status with the gateway that there was is not changed by being written over the old status. -/
theorem laidOver_of_gateway {s previous : WorkloadStatus} (h : s.gateway = previous.gateway) :
    StatusForm.laidOver (cut s) previous = cut s := by
  show { cut s with gateway := cut s.gateway <|> previous.gateway } = cut s
  have hgateway : (cut s.gateway <|> previous.gateway) = cut s.gateway := by
    rw [← h]
    cases s.gateway <;> rfl
  rw [hgateway]
  rfl

end Workload

/-! ## Deployments -/

namespace Deployment

variable {d : Deployment}

theorem inRange_conditions (h : InRange d.status) : InRange (d.status.getD {}).conditions := by
  have hprevious : InRange (d.status.getD {}) := inRange_getD h nofun
  exact hprevious

/-- The times in the report of a rollout are those of the previous status, and that of the pass. -/
theorem inRange_progress (h : InRange d.status) (hnow : now.InRange) (summary : ReplicaSummary)
    (ready : Bool) : InRange (d.progress now summary ready) := by
  have hprevious := inRange_conditions h
  show InRange (d.progress now summary ready).conditions
  unfold progress
  dsimp only
  cases hcondition : d.availableCondition? now summary ready with
  | none => exact hprevious
  | some c =>
    refine ConditionSet.inRange_set hprevious ?_
    unfold availableCondition? at hcondition
    split at hcondition
    · cases hcondition
      exact inRange_observe hnow
    split at hcondition
    · cases hcondition
      exact inRange_observe hnow
    split at hcondition
    · cases hcondition
      exact inRange_observe hnow
    · cases hcondition

theorem inRange_assigned (h : InRange d.status) (hnow : now.InRange) (l : Location) :
    InRange (d.assigned now l) :=
  ConditionSet.inRange_set (inRange_conditions h) (inRange_observe hnow)

/-- A status with the location and the cluster that there were is not changed by being written over the
old status. -/
theorem laidOver_of_assignment {s previous : DeploymentStatus}
    (hlocation : s.location = previous.location) (hcluster : s.cluster = previous.cluster) : StatusForm.laidOver (cut s) previous = cut s := by
  show { cut s with
    location := s.location <|> previous.location, cluster := s.cluster <|> previous.cluster } = cut s
  have hsame {α : Type} (o : Option α) : (o <|> o) = o := by cases o <;> rfl
  rw [← hlocation, ← hcluster, hsame, hsame]
  rfl

end Deployment

/-! ## Instances -/

namespace Instance

variable {i : Instance}

/-- The status of an instance with its readiness filed. -/
def examinedStatus (i : Instance) (now : Instant) (failure : Option String) : InstanceStatus :=
  { i.status.getD {} with
    conditions := ((i.status.getD {}).conditions.set (i.readyCondition now failure)).1 }

theorem inRange_readyCondition (hnow : now.InRange) (failure : Option String) :
    InRange (i.readyCondition now failure) := by
  unfold readyCondition
  dsimp only
  split
  · split
    · exact inRange_observe hnow
    · exact inRange_observe hnow
  · split
    · exact inRange_observe hnow
    · split
      · exact inRange_observe hnow
      · exact inRange_observe hnow

theorem inRange_examinedStatus (h : InRange i.status) (hnow : now.InRange) (failure : Option String) :
    InRange (i.examinedStatus now failure) := by
  have hprevious : InRange (i.status.getD {}) := inRange_getD h nofun
  exact ConditionSet.inRange_set hprevious (inRange_readyCondition hnow failure)

/-- A status with the interfaces and the runtime's record that there were is not changed by being written
over the old status. -/
theorem laidOver_of_runtime {s previous : InstanceStatus}
    (hinterfaces : s.networkInterfaces = previous.networkInterfaces)
    (hcontrol : s.control = previous.control) : StatusForm.laidOver (cut s) previous = cut s := by
  show { cut s with
    networkInterfaces :=
      if s.networkInterfaces = [] then previous.networkInterfaces else s.networkInterfaces
    control := s.control <|> previous.control } = cut s
  have hsame : (s.control <|> s.control) = s.control := by cases s.control <;> rfl
  rw [← hinterfaces, ← hcontrol, hsame, ite_id]
  rfl

end Instance

end ControlPlane
