import ControlPlane.Proofs.Rollout.Partition

/-!
# The order in which instances are listed

Of several instances for one slot the last one listed stays, unless one of them bears the slot's own
name. Where one does, whenever there are several, the order of the list decides nothing about the slots
(`seated_perm`): what they need is the same, in the same order, and so are the instances that go. Only
among those of one ordinal the order in which they go is that of the list (`plan_perm`).
-/

namespace ControlPlane

namespace Deployment

variable {d : Deployment} {l l' : List Instance} {k : Nat} {i : Instance} {name : String}
  {actions actions' front rest rest' : List Action}

/-- Of several instances for one slot one bears the slot's own name. -/
def Undisputed (d : Deployment) (l : List Instance) : Prop :=
  ∀ k < d.slotCount, 1 < (candidates k l).length → ∃ i ∈ l, i.name = d.slotName k

/-! ## Who holds a slot -/

theorem find?_name_eq_some_iff (hl : (l.map (·.name)).Nodup) :
    l.find? (·.name == name) = some i ↔ i ∈ l ∧ i.name = name := by
  constructor
  · intro h
    exact ⟨List.mem_of_find?_eq_some h, by simpa using List.find?_some h⟩
  · rintro ⟨hi, rfl⟩
    obtain ⟨j, hj⟩ : ∃ j, l.find? (·.name == i.name) = some j :=
      Option.isSome_iff_exists.1 (List.find?_isSome.2 ⟨i, hi, beq_self_eq_true _⟩)
    have hname : j.name = i.name := by simpa using List.find?_some hj
    rwa [List.inj_on_of_nodup_map hl (List.mem_of_find?_eq_some hj) hi hname] at hj

/-- With distinct names, the instance of a name is found wherever it is listed. -/
theorem find?_name_perm (hl : (l.map (·.name)).Nodup) (hp : l.Perm l') :
    l.find? (·.name == name) = l'.find? (·.name == name) := by
  ext i
  rw [find?_name_eq_some_iff hl, find?_name_eq_some_iff ((hp.map _).nodup_iff.1 hl), hp.mem_iff]

/-- The order of the list does not tell who holds a slot. -/
theorem seated_perm (hl : (l.map (·.name)).Nodup) (hown : d.Undisputed l) (hp : l.Perm l') (k : Nat) :
    d.seated l k = d.seated l' k := by
  unfold seated
  split
  · next hk =>
    have hcandidates : (candidates k l).Perm (candidates k l') := hp.filter _
    have hnames : ((candidates k l).map (·.name)).Nodup :=
      hl.sublist (List.filter_sublist.map _)
    rw [← find?_name_perm hnames hcandidates]
    cases hfound : (candidates k l).find? (·.name == d.slotName k) with
    | some i => rfl
    | none =>
      -- nobody bears the slot's own name, so there is one candidate at most
      have hfew : (candidates k l).length ≤ 1 := by
        by_contra hseveral
        obtain ⟨i, hi, hname⟩ := hown k hk (Nat.lt_of_not_le hseveral)
        have hcandidate : i ∈ candidates k l :=
          mem_candidates.2 ⟨hi, by rw [hname, d.slotOf?_slotName hk]⟩
        exact List.find?_eq_none.1 hfound i hcandidate (beq_iff_eq.2 hname)
      rw [Option.none_or, Option.none_or]
      obtain hzero | hone := Nat.le_one_iff_eq_zero_or_eq_one.1 hfew
      · rw [List.length_eq_zero_iff] at hzero
        rw [hzero] at hcandidates
        rw [hzero, hcandidates.nil_eq]
      · obtain ⟨i, hi⟩ := List.length_eq_one_iff.1 hone
        rw [hi] at hcandidates
        rw [hi, hcandidates.singleton_eq]
  · rfl

/-- Nor does it tell who goes. -/
theorem surplus_perm (hl : (l.map (·.name)).Nodup) (hown : d.Undisputed l) (hp : l.Perm l') :
    (d.slots l).surplus.Perm (d.slots l').surplus := by
  have hholders : d.holders (d.slots l) = d.holders (d.slots l') :=
    List.filterMap_congr fun k _ => by rw [holder_slots, holder_slots, seated_perm hl hown hp]
  have hall := (d.slots_perm l).trans (hp.trans (d.slots_perm l').symm)
  rw [hholders] at hall
  exact (List.perm_append_left_iff _).1 hall

/-! ## Steps that stand behind others -/

/-- Steps as they stand in a plan behind those in front. -/
def behind (front rest : List Action) : List Action :=
  if front = [] then skipAllButFirst rest else rest.map Action.skip

theorem skipAllButFirst_append (front rest : List Action) :
    skipAllButFirst (front ++ rest) = skipAllButFirst front ++ behind front rest := by
  cases front with
  | nil => rfl
  | cons a front => simp [skipAllButFirst, behind]

/-- Standing behind others changes no more than whether a step is left for later. -/
theorem map_behind {β : Type} {f : Action → β} (hf : ∀ a : Action, f a.skip = f a)
    (front rest : List Action) : (behind front rest).map f = rest.map f := by
  unfold behind
  split
  · exact map_skipAllButFirst hf rest
  · simp [Function.comp_def, hf]

/-- Which steps are left for later is a matter of how many there are. -/
theorem map_skipped_behind (h : rest.map (·.skipped) = rest'.map (·.skipped)) :
    (behind front rest).map (·.skipped) = (behind front rest').map (·.skipped) := by
  have hlater {x y : List Action} (h : x.length = y.length) :
      (x.map Action.skip).map (·.skipped) = (y.map Action.skip).map (·.skipped) := by
    simp [Function.comp_def, Action.skip, List.map_const', h]
  have hlength : rest.length = rest'.length := by simpa using congrArg List.length h
  unfold behind
  split
  · cases rest <;> cases rest' <;> simp only [List.length_cons, List.length_nil] at hlength
    · rfl
    · omega
    · omega
    · simp only [skipAllButFirst, List.map_cons, List.cons.injEq] at h ⊢
      exact ⟨h.1, hlater (by omega)⟩
  · exact hlater hlength

/-! ## The plan -/

/-- Plans that have the same steps in the same order up to the deletions. They delete the same
instances, from the highest ordinal down, and differ in the order of those of one ordinal only. -/
def Alike (actions actions' : List Action) : Prop :=
  ∃ front deletes deletes', actions = front ++ deletes ∧ actions' = front ++ deletes' ∧
    (∀ a ∈ front, a.type ≠ .delete) ∧ (∀ a ∈ deletes ++ deletes', a.type = .delete) ∧
    (deletes.map (·.target)).Perm (deletes'.map (·.target)) ∧
    deletes.map Action.ordinal = deletes'.map Action.ordinal ∧
    deletes.map (·.skipped) = deletes'.map (·.skipped)

/-- Sorted by their ordinals, the same steps have the same ordinals one after the other. -/
theorem map_ordinal_descending (h : actions.Perm actions') :
    (descending actions).map Action.ordinal = (descending actions').map Action.ordinal := by
  have hsorted (actions : List Action) :
      ((descending actions).map Action.ordinal).Pairwise (· ≥ ·) :=
    List.pairwise_map.2 (pairwise_descending actions)
  have hperm : (descending actions).Perm (descending actions') :=
    (List.mergeSort_perm ..).trans (h.trans (List.mergeSort_perm ..).symm)
  exact (hperm.map _).eq_of_pairwise (fun a b _ _ hab hba => Int.le_antisymm hba hab)
    (hsorted actions) (hsorted actions')

/-- Plans with the same steps in front are alike if they delete the same instances. -/
theorem alike_of_surplus {surplus surplus' : List Instance} (hfront : ∀ a ∈ front, a.type ≠ .delete)
    (hp : surplus.Perm surplus') :
    Alike
      (skipAllButFirst (front ++ descending (surplus.map fun i => ⟨.delete, i, false⟩)))
      (skipAllButFirst (front ++ descending (surplus'.map fun i => ⟨.delete, i, false⟩))) := by
  let deletion (i : Instance) : Action := ⟨.delete, i, false⟩
  have hmem {surplus : List Instance} {a : Action} (ha : a ∈ descending (surplus.map deletion)) :
      a.type = .delete ∧ a.skipped = false := by
    obtain ⟨i, -, rfl⟩ := List.mem_map.1 (mem_descending.1 ha)
    exact ⟨rfl, rfl⟩
  have hdeletes : (descending (surplus.map deletion)).Perm (descending (surplus'.map deletion)) :=
    (List.mergeSort_perm ..).trans ((hp.map _).trans (List.mergeSort_perm ..).symm)
  have htypes {x y : List Action} {P : ActionType → Prop}
      (hxy : x.map (·.type) = y.map (·.type)) (hy : ∀ a ∈ y, P a.type) : ∀ a ∈ x, P a.type := by
    rw [← List.forall_mem_map] at hy ⊢
    rwa [hxy]
  refine ⟨_, _, _, skipAllButFirst_append .., skipAllButFirst_append .., ?_, ?_, ?_, ?_, ?_⟩
  · exact htypes (P := (· ≠ .delete)) (map_skipAllButFirst (fun _ => rfl) front) hfront
  · intro a ha
    obtain ha | ha := List.mem_append.1 ha
    all_goals
      exact htypes (P := (· = .delete)) (map_behind (fun _ => rfl) ..) (fun a ha => (hmem ha).1) a ha
  · rw [map_behind fun _ => rfl, map_behind fun _ => rfl]
    exact hdeletes.map _
  · rw [map_behind fun _ => rfl, map_behind fun _ => rfl]
    exact map_ordinal_descending (hp.map _)
  · refine map_skipped_behind ?_
    rw [List.map_congr_left fun a ha => (hmem ha).2, List.map_congr_left fun a ha => (hmem ha).2,
      List.map_const', List.map_const', hdeletes.length_eq]

theorem exists_eq_pending (h : d.slotActions (d.slots l).holder (List.range d.slotCount) = .ok actions) :
    ∃ owner, actions = d.pending owner l := by
  cases howner : d.requireOwner with
  | ok owner =>
    rw [slotActions_eq howner] at h
    exact ⟨owner, (Except.ok.inj h).symm⟩
  | error e => exact ⟨{}, slotActions_eq_of_ok howner h⟩

/-- The order in which instances are listed does not matter to a plan, where of several for one slot one
bears the slot's own name: it comes about or fails in the same way, and the plans are alike. -/
theorem plan_perm (hl : (l.map (·.name)).Nodup) (hown : d.Undisputed l) (hp : l.Perm l') :
    (∀ e, d.plan l = .error e ↔ d.plan l' = .error e) ∧
      ∀ actions, d.plan l = .ok actions → ∃ actions', d.plan l' = .ok actions' ∧
        Alike actions actions' := by
  have hholder : (d.slots l).holder = (d.slots l').holder := by
    funext k
    rw [holder_slots, holder_slots, seated_perm hl hown hp]
  unfold plan
  cases d.spec.scale.policy
  simp only [orderedPlan, ← hholder]
  cases hsteps : d.slotActions (d.slots l).holder (List.range d.slotCount) with
  | error e =>
    refine ⟨fun _ => Iff.rfl, fun _ h => ?_⟩
    cases h
  | ok steps =>
    refine ⟨fun _ => iff_of_false (fun h => ?_) fun h => ?_, ?_⟩
    · cases h
    · cases h
    rintro actions ⟨⟩
    refine ⟨_, rfl, alike_of_surplus (fun a ha => ?_) (surplus_perm hl hown hp)⟩
    obtain ⟨owner, rfl⟩ := exists_eq_pending hsteps
    obtain ha | ha := List.mem_append.1 ha
    · exact type_ne_delete_of_mem_pending (List.mem_filter.1 (mem_ascending.1 ha)).1
    · exact type_ne_delete_of_mem_pending (List.mem_filter.1 (mem_descending.1 ha)).1

/-- Two instances for the second slot of two, and two for a slot beyond. -/
def tied : List Instance :=
  ["web-7", "web-01", "web-1", "job-7"].map bare

/-- Listed from the other end, the second slot is held by the same instance, and the three others go. -/
theorem plan_perm_tied :
    (tied.map (·.name)).Nodup ∧ twoSlots.Undisputed tied ∧ tied.Perm tied.reverse ∧
      (∃ actions, twoSlots.plan tied = .ok actions ∧
        ∃ actions', twoSlots.plan tied.reverse = .ok actions' ∧ Alike actions actions') ∧
      twoSlots.seated tied.reverse 1 = some (bare "web-1") ∧
      (twoSlots.slots tied.reverse).surplus = ["job-7", "web-01", "web-7"].map bare := by
  have hnames : (tied.map (·.name)).Nodup := by decide
  have hown : twoSlots.Undisputed tied := by
    unfold Undisputed
    decide
  have hperm : tied.Perm tied.reverse := (List.reverse_perm tied).symm
  obtain ⟨owner, howner⟩ := exists_owner (d := twoSlots) rfl rfl
  have halike := (plan_perm hnames hown hperm).2 _ (plan_eq howner tied)
  exact ⟨hnames, hown, hperm, ⟨_, plan_eq howner tied, halike⟩, by rfl, by rfl⟩

end Deployment

end ControlPlane
