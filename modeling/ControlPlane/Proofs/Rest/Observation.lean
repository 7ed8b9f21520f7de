import ControlPlane.Proofs.Rest.Fidelity

/-!
# Observations that are made again

What is observed again is filed without a new transition time, so that it changes nothing
(`set_again`). A status is made up of observations and counts, and of what the previous status says:
made again from the status that it was, it is the same, whatever time it is by then.

* `aggregate_again`: the status of a workload, where each placement finds its own standing by its name.
* `progress_again`: the status of a deployment.
* `readyCondition_again`: the `Ready` condition of an instance.
-/

namespace ControlPlane

/-! ## Filing an observation again -/

namespace ConditionSet

/-- The condition that is on file once an observation was filed. -/
def filed (s : ConditionSet) (c : Condition) : Condition :=
  match s.get? c.type with
  | none => c
  | some old =>
    if old.status ≠ c.status then c else { c with lastTransitionTime := old.lastTransitionTime }

variable {s : ConditionSet} {c : Condition}

theorem set_fst (s : ConditionSet) (c : Condition) : (s.set c).1 = s.insert (s.filed c) := by
  unfold set filed
  cases hs : s.get? c.type with
  | none => rfl
  | some old =>
    have htype : old.type = c.type := (Keyed.get?_eq_some_iff.1 hs).2
    by_cases h : old.status = c.status
    · simp only [h, ne_eq, not_true_eq_false, if_false]
      rw [htype]
    · simp only [ne_eq, h, not_false_eq_true, if_true]

/-- What is on file differs from the observation in the time of the last transition at most. -/
theorem filed_eq (s : ConditionSet) (c : Condition) :
    ∃ t, s.filed c = { c with lastTransitionTime := t } := by
  unfold filed
  split
  · exact ⟨_, rfl⟩
  · split
    · exact ⟨_, rfl⟩
    · exact ⟨_, rfl⟩

/-- The same observation made at another time is no news. -/
theorem set_again (s : ConditionSet) (c : Condition) (t : Instant) :
    (s.set c).1.set { c with lastTransitionTime := t } = ((s.set c).1, false) := by
  obtain ⟨u, hu⟩ := s.filed_eq c
  have hfound : (s.insert { c with lastTransitionTime := u }).get? c.type =
      some { c with lastTransitionTime := u } := by
    rw [Keyed.get?_insert, if_pos rfl]
  rw [set_fst, hu]
  simp [set, hfound, Keyed.insert_insert]

theorem get?_set_of_ne {type : String} (h : c.type ≠ type) :
    (s.set c).1.get? type = s.get? type := by
  obtain ⟨u, hu⟩ := s.filed_eq c
  rw [set_fst, hu, Keyed.get?_insert, if_neg h]

end ConditionSet

/-! ## The statuses -/

namespace Workload

variable {w : Workload} {now later : Instant} {ds : List Deployment}

theorem find?_map_name {names : List String} {f : String → PlacementStatus}
    (hf : ∀ name, (f name).name = name) {name : String} (h : name ∈ names) :
    (names.map f).find? (·.name == name) = some (f name) := by
  cases hp : (names.map f).find? (·.name == name) with
  | none => exact absurd (List.find?_eq_none.1 hp _ (List.mem_map_of_mem h)) (by simp [hf])
  | some p =>
    have hname := List.find?_some hp
    obtain ⟨n, -, rfl⟩ := List.mem_map.1 (List.mem_of_find?_eq_some hp)
    rw [hf, beq_iff_eq] at hname
    rw [hname]

/-- A placement that finds its standing under its name stands as it did. -/
theorem placementStatus_again {previous current : WorkloadStatus} {name : String}
    {members : List Deployment} {status : Option WorkloadStatus}
    (h : current.placements.find? (·.name == name) =
      some (w.placementStatus now previous name members)) :
    placementStatus { w with status } later current name members =
      w.placementStatus now previous name members := by
  have hcond (available : Bool) : placementCondition { w with status } later available =
      { w.placementCondition now available with lastTransitionTime := later } := by
    unfold placementCondition
    split <;> rfl
  have hkept : ((w.placementStatus now previous name members).conditions.set
      (placementCondition { w with status } later (members.any Deployment.isAvailable))).1 =
        (w.placementStatus now previous name members).conditions := by
    simp only [placementStatus, hcond, ConditionSet.set_again]
  rw [placementStatus, h, Option.getD_some, hkept]
  rfl

/-- The status of a workload that has this status already, whatever time it is. -/
theorem aggregate_again :
    aggregate { w with status := some (w.aggregate now ds) } later ds = w.aggregate now ds := by
  have hcond : availableCondition { w with status := some (w.aggregate now ds) } later
      (ds.any Deployment.isAvailable) =
        { w.availableCondition now (ds.any Deployment.isAvailable) with
          lastTransitionTime := later } := by
    unfold availableCondition
    split <;> rfl
  have hplacements : ((distinctSorted (ds.map (·.spec.placement))).map fun name =>
      placementStatus { w with status := some (w.aggregate now ds) } later (w.aggregate now ds) name
        (ds.filter (·.spec.placement == name))) = (w.aggregate now ds).placements :=
    List.map_congr_left fun name hname => placementStatus_again <|
      find?_map_name (fun _ => name_placementStatus ..) hname
  unfold aggregate at hcond hplacements ⊢
  simp only [Option.getD_some]
  rw [hcond, ConditionSet.set_again, hplacements]

end Workload

namespace Deployment

/-- The status of a deployment that has this status already, whatever time it is. -/
theorem progress_again {d : Deployment} {now later : Instant} {summary : ReplicaSummary}
    {ready : Bool} :
    progress { d with status := some (d.progress now summary ready) } later summary ready =
      d.progress now summary ready := by
  have hcond : availableCondition? { d with status := some (d.progress now summary ready) } later
      summary ready = (d.availableCondition? now summary ready).map fun c =>
        { c with lastTransitionTime := later } := by
    unfold availableCondition?
    split
    · rfl
    · split
      · rfl
      · split <;> rfl
  unfold progress at hcond ⊢
  rw [hcond]
  cases d.availableCondition? now summary ready with
  | none => rfl
  | some c => simp only [Option.getD_some, Option.map_some, ConditionSet.set_again]

end Deployment

namespace Instance

/-- An instance whose `Ready` condition is on file is observed to be as ready as before. -/
theorem readyCondition_again {i : Instance} {now later : Instant} {failure : Option String}
    {status : InstanceStatus} (h : status.conditions = ((i.status.getD {}).conditions.set
      (i.readyCondition now failure)).1) :
    readyCondition { i with status := some status } later failure =
      { i.readyCondition now failure with lastTransitionTime := later } := by
  have hkeep (type : String) (hne : Condition.ready ≠ type) :
      condition? { i with status := some status } type = i.condition? type := by
    simp only [condition?, Option.bind_some, h]
    rw [ConditionSet.get?_set_of_ne (by rwa [type_readyCondition])]
    cases i.status <;> rfl
  have hprogrammed := hkeep Condition.programmed (by decide)
  have hrunning := hkeep Condition.running (by decide)
  have hgates : gates { i with status := some status } = i.gates := rfl
  unfold readyCondition
  rw [hprogrammed, hrunning, hgates]
  dsimp only
  cases i.gates.isEmpty
  · cases failure <;> rfl
  cases holds (i.condition? Condition.programmed)
  · rfl
  cases holds (i.condition? Condition.running) <;> rfl

end Instance

end ControlPlane
