import Mathlib.Data.List.Count
import ControlPlane.Proofs.Rollout.Order

/-!
# Every instance and every slot has its part in a plan

Seating sends an instance into a slot or among the surplus, and loses nobody on the way (`slots_perm`).
A plan answers to that one to one: an instance is deleted once if it holds no slot and never if it does
(`count_delete`), and a slot gets the step that it needs and no other (`stepsFor_plan`). With the order
of the steps this tells the whole of a plan (`plan_partitions`).

The holder of a slot is told by `seated`, that is from the list of the instances alone: the one under the
slot's own name, or the last whose name ends in the slot.
-/

namespace ControlPlane

/-- What an action does, and to which instance. -/
def Action.step (a : Action) : ActionType × Instance :=
  (a.type, a.target)

@[simp] theorem Action.step_fst (a : Action) : a.step.1 = a.type := rfl

@[simp] theorem Action.step_snd (a : Action) : a.step.2 = a.target := rfl

/-- The steps that some actions have for a slot, deletions apart. -/
def stepsFor (k : Nat) (actions : List Action) : List (ActionType × Instance) :=
  (actions.map Action.step).filter fun s => s.1 ≠ .delete ∧ ordinal s.2.name = k

namespace Deployment

variable {d : Deployment} {owner : OwnerReference} {l : List Instance} {k : Nat} {i : Instance}
  {actions : List Action}

/-! ## The steps, whichever are left for later -/

/-- A plan has the steps for the slots and the deletions, in another order. -/
theorem exists_map_step_perm (h : d.plan l = .ok actions) : ∃ owner,
    actions.map Action.step = (d.inOrder owner l).map Action.step ∧
      (actions.map Action.step).Perm
        ((d.pending owner l).map Action.step ++ (d.removals l).map Action.step) := by
  obtain ⟨owner, -, rfl⟩ := exists_plan_eq h
  have hsame : (skipAllButFirst (d.inOrder owner l)).map Action.step =
      (d.inOrder owner l).map Action.step := map_skipAllButFirst (fun _ => rfl) _
  refine ⟨owner, hsame, ?_⟩
  rw [hsame, ← List.map_append]
  exact (inOrder_perm l).map Action.step

theorem type_ne_delete_of_mem_pending {a : Action} (ha : a ∈ d.pending owner l) :
    a.type ≠ .delete := by
  obtain ⟨k, -, hs⟩ := List.mem_filterMap.1 ha
  cases hh : (d.slots l).holder k with
  | none =>
    rw [hh] at hs
    cases hs
    simp
  | some i =>
    rw [hh, slotStep] at hs
    split at hs
    · cases hs
      simp
    · split at hs
      · cases hs
        simp
      · cases hs

/-! ## Instances -/

/-- An instance is deleted as often as it is among the surplus. -/
theorem count_delete (h : d.plan l = .ok actions) (i : Instance) :
    (actions.map Action.step).count (.delete, i) = (d.slots l).surplus.count i := by
  obtain ⟨owner, -, hperm⟩ := exists_map_step_perm h
  have hpending : ((d.pending owner l).map Action.step).count (.delete, i) = 0 := by
    refine List.count_eq_zero.2 fun hmem => ?_
    obtain ⟨a, ha, hstep⟩ := List.mem_map.1 hmem
    exact type_ne_delete_of_mem_pending ha (congrArg Prod.fst hstep)
  have hremovals : (d.removals l).map Action.step =
      (d.slots l).surplus.map fun i => (ActionType.delete, i) := by
    simp [removals, Action.step, Function.comp_def]
  have hinj : Function.Injective fun i : Instance => (ActionType.delete, i) :=
    fun _ _ he => congrArg Prod.snd he
  rw [hperm.count_eq, List.count_append, hpending, Nat.zero_add, hremovals,
    List.count_map_of_injective _ _ hinj]

theorem mem_holders : i ∈ d.holders (d.slots l) ↔ ∃ k < d.slotCount, d.seated l k = some i := by
  simp [holders, List.mem_filterMap, holder_slots]

theorem mem_holders_or_mem_surplus (hi : i ∈ l) :
    i ∈ d.holders (d.slots l) ∨ i ∈ (d.slots l).surplus :=
  List.mem_append.1 ((d.slots_perm l).mem_iff.2 hi)

/-- With distinct names, the surplus are the instances that hold no slot. -/
theorem mem_surplus_iff (hl : (l.map (·.name)).Nodup) :
    i ∈ (d.slots l).surplus ↔ i ∈ l ∧ ∀ k, d.seated l k ≠ some i := by
  constructor
  · intro hi
    refine ⟨d.surplus_subset hi, fun k hseated => ?_⟩
    exact d.holder_ne_of_mem_surplus hl hi ((d.holder_slots l k).trans hseated) rfl
  · rintro ⟨hi, hunseated⟩
    refine (mem_holders_or_mem_surplus hi).resolve_left fun hheld => ?_
    obtain ⟨k, -, hseated⟩ := mem_holders.1 hheld
    exact hunseated k hseated

/-- With distinct names, an instance holds a slot or is among the surplus, once and not both. -/
theorem count_holders_add_count_surplus (hl : (l.map (·.name)).Nodup) (hi : i ∈ l) :
    (d.holders (d.slots l)).count i + (d.slots l).surplus.count i = 1 := by
  rw [← List.count_append, (d.slots_perm l).count_eq]
  exact List.count_eq_one_of_mem (.of_map _ hl) hi

theorem target_mem_surplus (h : d.plan l = .ok actions) {a : Action} (ha : a ∈ actions)
    (htype : a.type = .delete) : a.target ∈ (d.slots l).surplus := by
  have hmem : (ActionType.delete, a.target) ∈ actions.map Action.step :=
    List.mem_map.2 ⟨a, ha, by rw [Action.step, htype]⟩
  have hpos := List.count_pos_iff.2 hmem
  rw [count_delete h] at hpos
  exact List.count_pos_iff.1 hpos

/-- The slot's own name is that of its holder, if any instance bears it. -/
theorem exists_seated_of_slotName (hk : k < d.slotCount) (hi : i ∈ l) (hn : i.name = d.slotName k) :
    ∃ held, d.seated l k = some held ∧ held.name = d.slotName k := by
  have hcandidate : i ∈ candidates k l := mem_candidates.2 ⟨hi, by rw [hn, d.slotOf?_slotName hk]⟩
  have hfound : ((candidates k l).find? (·.name == d.slotName k)).isSome :=
    List.find?_isSome.2 ⟨i, hcandidate, by simp [hn]⟩
  obtain ⟨held, hheld⟩ := Option.isSome_iff_exists.1 hfound
  refine ⟨held, ?_, by simpa using List.find?_some hheld⟩
  rw [seated, if_pos hk, hheld, Option.some_or]

/-! ## Slots -/

/-- A function that has a value at one item of a list only collects that value. -/
theorem filterMap_eq_toList {α β : Type} {f : α → Option β} {l : List α} {a : α} (hl : l.Nodup)
    (ha : a ∈ l) (h : ∀ x ∈ l, x ≠ a → f x = none) : l.filterMap f = (f a).toList := by
  obtain ⟨before, after, rfl⟩ := List.append_of_mem ha
  have hdistinct : a ∉ before ∧ a ∉ after := by
    rw [List.nodup_middle, List.nodup_cons, List.mem_append, not_or] at hl
    exact hl.1
  have hbefore : before.filterMap f = [] := by
    refine List.filterMap_eq_nil_iff.2 fun x hx => h x (List.mem_append_left _ hx) ?_
    exact fun he => hdistinct.1 (he ▸ hx)
  have hafter : after.filterMap f = [] := by
    refine List.filterMap_eq_nil_iff.2 fun x hx => h x ?_ fun he => hdistinct.2 (he ▸ hx)
    exact List.mem_append_right _ (List.mem_cons_of_mem _ hx)
  rw [List.filterMap_append, hbefore, List.nil_append, List.filterMap_cons]
  cases f a <;> simp [hafter]

/-- Of what the slots need, one slot needs its own step. -/
theorem filter_pending (hk : k < d.slotCount) :
    (d.pending owner l).filter (fun a => a.ordinal = (k : Int)) =
      (d.slotStep owner k ((d.slots l).holder k)).toList := by
  rw [pending, List.filter_filterMap, filterMap_eq_toList List.nodup_range (List.mem_range.2 hk)]
  · cases hs : d.slotStep owner k ((d.slots l).holder k) with
    | none => rfl
    | some a => simp [ordinal_of_slotStep hk hs]
  · intro j hj hne
    cases hs : d.slotStep owner j ((d.slots l).holder j) with
    | none => rfl
    | some a =>
      have hother : a.ordinal ≠ k := by
        rw [ordinal_of_slotStep (List.mem_range.1 hj) hs]
        omega
      simp [hother]

/-- A plan has for a slot the step that the slot needs, and no other. -/
theorem stepsFor_plan (h : d.plan l = .ok actions) (hk : k < d.slotCount) : ∃ owner,
    stepsFor k actions = (d.slotStep owner k (d.seated l k)).toList.map Action.step := by
  obtain ⟨owner, -, hperm⟩ := exists_map_step_perm h
  refine ⟨owner, ?_⟩
  have hpending : ((d.pending owner l).map Action.step).filter
      (fun s => s.1 ≠ .delete ∧ ordinal s.2.name = k) =
        (d.slotStep owner k (d.seated l k)).toList.map Action.step := by
    rw [← holder_slots, ← filter_pending hk, List.filter_map]
    refine congrArg (List.map Action.step) (List.filter_congr fun a ha => ?_)
    show decide (a.type ≠ .delete ∧ a.ordinal = k) = decide (a.ordinal = k)
    exact decide_eq_decide.2 (and_iff_right (type_ne_delete_of_mem_pending ha))
  have hremovals : ((d.removals l).map Action.step).filter
      (fun s => s.1 ≠ .delete ∧ ordinal s.2.name = k) = [] := by
    simp [removals, Action.step]
  have hsteps := hperm.filter fun s => s.1 ≠ .delete ∧ ordinal s.2.name = k
  rw [List.filter_append, hpending, hremovals, List.append_nil] at hsteps
  cases hs : d.slotStep owner k (d.seated l k) with
  | none =>
    rw [hs] at hsteps
    exact hsteps.eq_nil
  | some a =>
    rw [hs] at hsteps
    exact hsteps.eq_singleton

/-- Whatever is not a deletion is for a slot. -/
theorem exists_slot_of_mem (h : d.plan l = .ok actions) {a : Action} (ha : a ∈ actions)
    (htype : a.type ≠ .delete) : ∃ k < d.slotCount, a.ordinal = k := by
  obtain ⟨owner, -, hperm⟩ := exists_map_step_perm h
  have hmem := hperm.subset (List.mem_map_of_mem ha)
  obtain hmem | hmem := List.mem_append.1 hmem
  · obtain ⟨b, hb, hstep⟩ := List.mem_map.1 hmem
    obtain ⟨k, hk, hs⟩ := List.mem_filterMap.1 hb
    have htarget : b.target = a.target := congrArg Prod.snd hstep
    refine ⟨k, List.mem_range.1 hk, ?_⟩
    rw [Action.ordinal, ← htarget]
    exact ordinal_of_slotStep (List.mem_range.1 hk) hs
  · obtain ⟨b, hb, hstep⟩ := List.mem_map.1 hmem
    obtain ⟨i, -, rfl⟩ := List.mem_map.1 hb
    exact absurd (congrArg Prod.fst hstep.symm) htype

/-! ## The parts of a plan -/

/-- Actions that create or wait come first, in strictly ascending order, then updates in strictly
descending order, then deletions in descending order. -/
def Ordered (actions : List Action) : Prop :=
  ∃ up updates deletes, actions = up ++ updates ++ deletes ∧
    ((∀ a ∈ up, a.type = .create ∨ a.type = .wait) ∧
      up.Pairwise fun a b => a.ordinal < b.ordinal) ∧
    ((∀ a ∈ updates, a.type = .update) ∧
      updates.Pairwise fun a b => b.ordinal < a.ordinal) ∧
    (∀ a ∈ deletes, a.type = .delete) ∧
      deletes.Pairwise fun a b => b.ordinal ≤ a.ordinal

/-- The order is that of the steps, whichever of them are left for later. -/
theorem Ordered.congr {actions' : List Action} (h : Ordered actions)
    (hsame : actions'.map Action.step = actions.map Action.step) : Ordered actions' := by
  have htypes {x y : List Action} (h : x.map Action.step = y.map Action.step) {P : ActionType → Prop}
      (hy : ∀ a ∈ y, P a.type) : ∀ a ∈ x, P a.type := by
    have hmap : x.map (·.type) = y.map (·.type) := by
      have htypes := congrArg (List.map Prod.fst) h
      rwa [List.map_map, List.map_map] at htypes
    rw [← List.forall_mem_map] at hy ⊢
    rwa [hmap]
  have hordinals {x y : List Action} (h : x.map Action.step = y.map Action.step)
      {R : Int → Int → Prop} (hy : y.Pairwise fun a b => R a.ordinal b.ordinal) :
      x.Pairwise fun a b => R a.ordinal b.ordinal := by
    have hmap : x.map Action.ordinal = y.map Action.ordinal := by
      have hnames := congrArg (List.map fun s => ordinal s.2.name) h
      rwa [List.map_map, List.map_map] at hnames
    rw [← List.pairwise_map] at hy ⊢
    rwa [hmap]
  obtain ⟨up, updates, deletes, rfl, ⟨hup, hup'⟩, ⟨hupdates, hupdates'⟩, hdeletes, hdeletes'⟩ := h
  rw [List.map_append, List.map_append] at hsame
  obtain ⟨first, deletes', rfl, hfirst, hd⟩ := List.map_eq_append_iff.1 hsame
  obtain ⟨up', updates', rfl, hu, hs⟩ := List.map_eq_append_iff.1 hfirst
  exact ⟨up', updates', deletes', rfl,
    ⟨htypes hu (P := fun t => t = .create ∨ t = .wait) hup, hordinals hu hup'⟩,
    ⟨htypes hs (P := (· = .update)) hupdates, hordinals hs (R := fun a b => b < a) hupdates'⟩,
    htypes hd (P := (· = .delete)) hdeletes, hordinals hd (R := fun a b => b ≤ a) hdeletes'⟩

theorem ordered_inOrder : Ordered (d.inOrder owner l) := by
  refine ⟨_, _, _, rfl, ⟨fun a ha => ?_, pairwise_lt_ascending (pairwise_ne_pending _)⟩,
    ⟨fun a ha => ?_, pairwise_lt_descending (pairwise_ne_pending _)⟩,
    fun a ha => ?_, pairwise_descending _⟩
  · obtain ⟨hpending, hne⟩ := List.mem_filter.1 (mem_ascending.1 ha)
    have hdelete := type_ne_delete_of_mem_pending hpending
    rw [decide_eq_true_eq] at hne
    cases htype : a.type <;> simp [htype] at hne hdelete ⊢
  · simpa using (List.mem_filter.1 (mem_descending.1 ha)).2
  · obtain ⟨i, -, rfl⟩ := List.mem_map.1 (mem_descending.1 ha)
    rfl

/-- What a plan has for every instance and for every slot, and in which order. -/
structure Partitions (d : Deployment) (l : List Instance) (actions : List Action) : Prop where
  /-- An instance holds the slot that its name ends in and is not deleted, or it holds none and is
  deleted once. -/
  seated_or_deleted : ∀ i ∈ l,
    (∃ k < d.slotCount, ordinal i.name = k ∧ d.seated l k = some i ∧
      (actions.map Action.step).count (.delete, i) = 0) ∨
    (∀ k, d.seated l k ≠ some i) ∧ (actions.map Action.step).count (.delete, i) = 1
  /-- Nothing else is deleted. -/
  deleted : ∀ a ∈ actions, a.type = .delete → a.target ∈ l
  /-- No instance under a slot's own name is deleted. -/
  own_name : ∀ a ∈ actions, a.type = .delete → ∀ k < d.slotCount, a.target.name ≠ d.slotName k
  /-- A slot without a holder gets an instance under its own name, once. -/
  vacant : ∀ k < d.slotCount, d.seated l k = none →
    ∃ i, stepsFor k actions = [(.create, i)] ∧ i.name = d.slotName k
  /-- A holder is left alone, waited for, or updated. -/
  held : ∀ k < d.slotCount, ∀ i, d.seated l k = some i → stepsFor k actions = [] ∨
    stepsFor k actions = [(.wait, i)] ∨ stepsFor k actions = [(.update, d.renewedInstance k i)]
  /-- Whatever is not a deletion is for a slot. -/
  slots : ∀ a ∈ actions, a.type ≠ .delete → ∃ k < d.slotCount, a.ordinal = k
  ordered : Ordered actions
  /-- All but the first are left for later. -/
  first : ∀ n a, actions[n]? = some a → (a.skipped = false ↔ n = 0)

/-- Every instance with a name of its own and every slot has its part in a plan. -/
theorem plan_partitions (hl : (l.map (·.name)).Nodup) (h : d.plan l = .ok actions) :
    d.Partitions l actions where
  seated_or_deleted i hi := by
    have hcount := count_holders_add_count_surplus (d := d) hl hi
    rw [count_delete h]
    by_cases hheld : i ∈ d.holders (d.slots l)
    · have hpos := List.count_pos_iff.2 hheld
      obtain ⟨k, hk, hseated⟩ := mem_holders.1 hheld
      have hslot := (d.holder_mem ((d.holder_slots l k).trans hseated)).2.2
      exact .inl ⟨k, hk, ordinal_eq_natCast hslot, hseated, by omega⟩
    · have hzero := List.count_eq_zero.2 hheld
      refine .inr ⟨fun k hseated => hheld (mem_holders.2 ⟨k, ?_, hseated⟩), by omega⟩
      exact (d.holder_mem ((d.holder_slots l k).trans hseated)).1
  deleted a ha htype := d.surplus_subset (target_mem_surplus h ha htype)
  own_name a ha htype k hk hn := by
    have hsurplus := target_mem_surplus h ha htype
    obtain ⟨held, hseated, hheld⟩ := exists_seated_of_slotName hk (d.surplus_subset hsurplus) hn
    rw [← holder_slots] at hseated
    exact d.holder_ne_of_mem_surplus hl hsurplus hseated (hheld.trans hn.symm)
  vacant k hk hv := by
    obtain ⟨owner, hsteps⟩ := stepsFor_plan h hk
    rw [hv] at hsteps
    exact ⟨d.newInstance k owner, hsteps, rfl⟩
  held k hk i hi := by
    obtain ⟨owner, hsteps⟩ := stepsFor_plan h hk
    rw [hi, slotStep] at hsteps
    split at hsteps
    · exact .inr (.inl hsteps)
    · split at hsteps
      · exact .inr (.inr hsteps)
      · exact .inl hsteps
  slots a := exists_slot_of_mem h
  ordered := by
    obtain ⟨owner, hsame, -⟩ := exists_map_step_perm h
    exact ordered_inOrder.congr hsame
  first n a hn := by
    obtain ⟨owner, -, rfl⟩ := exists_plan_eq h
    exact skipped_skipAllButFirst (fun a ha => skipped_of_step (step_of_mem_inOrder ha)) hn

/-- An instance of that name, of which nothing else is known. -/
def bare (name : String) : Instance :=
  { metadata := { name := some name }, spec := {} }

/-- A deployment of two slots. -/
def twoSlots : Deployment where
  metadata := { name := some "web", uid := some "d1" }
  spec := {
    workload := ⟨"web", "w1"⟩
    placement := "us"
    cityCode := "DFW"
    scale := { minReplicas := 2 } }

/-- Two instances for its second slot, one beyond its slots and one that it cannot place. -/
def strays : List Instance :=
  ["web-01", "web-1", "web-7", "job"].map bare

/-- Of the two instances for the second slot the one under the slot's own name stays, the other goes, and
the first slot is filled. -/
theorem plan_partitions_strays :
    (strays.map (·.name)).Nodup ∧ ∃ actions, twoSlots.plan strays = .ok actions ∧
      twoSlots.Partitions strays actions ∧ twoSlots.seated strays 1 = some (bare "web-1") ∧
      (actions.map Action.step).count (.delete, bare "web-01") = 1 ∧
      ∃ i, stepsFor 0 actions = [(.create, i)] ∧ i.name = "web-0" := by
  have hnames : (strays.map (·.name)).Nodup := by decide
  obtain ⟨owner, howner⟩ := exists_owner (d := twoSlots) rfl rfl
  have hplan := plan_eq howner strays
  have hparts := plan_partitions hnames hplan
  have hseated : twoSlots.seated strays 1 = some (bare "web-1") := by rfl
  refine ⟨hnames, _, hplan, hparts, hseated, ?_, hparts.vacant 0 (by decide) (by rfl)⟩
  obtain ⟨k, hk, hordinal, hheld, -⟩ | ⟨-, hdeleted⟩ :=
    hparts.seated_or_deleted (bare "web-01") List.mem_cons_self
  · -- its name ends in the slot that the other holds
    have hone : ordinal (bare "web-01").name = (1 : Nat) := by decide
    obtain rfl : k = 1 := by omega
    exact absurd (hseated.symm.trans hheld) (by decide)
  · exact hdeleted

end Deployment

end ControlPlane
