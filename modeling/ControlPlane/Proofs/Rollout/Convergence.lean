import Mathlib.Data.List.Count
import ControlPlane.Meta.Observation
import ControlPlane.Proofs.Rollout.Steps

/-!
# Rollouts converge

A rollout takes rounds: the first step of the plan is carried out, then the instances settle, which
drops those that are being deleted and leaves every other one ready. Whatever instances there are at
the start, the plan is one step shorter after every round from a settled state (`length_round`), and
when it is empty there is one instance of the current template in every slot and no other
(`rolledOut_of_plan_eq_nil`).

What is left to do is counted by `load`: the slots without an instance of the current template, and
the surplus. Every step lowers it by one, since it leaves the holders of all other slots alone.
-/

namespace ControlPlane

/-- What a step makes of the instances. -/
def Action.apply (a : Action) (l : List Instance) : List Instance :=
  match a.type with
  | .create => l ++ [a.target]
  | .update => l.map fun i => if i.name = a.target.name then a.target else i
  | .delete => l.filter (·.name ≠ a.target.name)
  | .wait => l

/-- A report on every instance that it is ready. -/
structure ReadyReport where
  status : Instance → InstanceStatus
  isTrue_ready (i : Instance) : (status i).conditions.isTrue Condition.ready = true

namespace ReadyReport

variable (r : ReadyReport)

/-- The instance as it is reported. -/
def mark (i : Instance) : Instance :=
  { i with status := some (r.status i) }

/-- Drops the instances that are being deleted and reports all others ready. -/
def settle (l : List Instance) : List Instance :=
  (l.filter (!·.isDeleting)).map r.mark

@[simp] theorem mark_name (i : Instance) : (r.mark i).name = i.name := rfl

@[simp] theorem mark_isDeleting (i : Instance) : (r.mark i).isDeleting = i.isDeleting := rfl

@[simp] theorem mark_isReady (i : Instance) : (r.mark i).isReady = true :=
  r.isTrue_ready i

@[simp] theorem isOutdated_mark (d : Deployment) (i : Instance) :
    d.isOutdated (r.mark i) = d.isOutdated i := rfl

end ReadyReport

/-- The report that files the condition and leaves the rest of every status as it is. -/
def ReadyReport.filed (now : Instant) : ReadyReport where
  status i :=
    let s := i.status.getD {}
    { s with
      conditions := (s.conditions.set (i.observe now Condition.ready Condition.holds "" "")).1 }
  isTrue_ready _ := ConditionSet.isTrue_set _ _

/-- No instance is being deleted, and all are ready. -/
def Settled (l : List Instance) : Prop :=
  ∀ i ∈ l, i.isDeleting = false ∧ i.isReady = true

theorem settled_settle (r : ReadyReport) (l : List Instance) : Settled (r.settle l) := by
  intro i hi
  obtain ⟨j, hj, rfl⟩ := List.mem_map.1 hi
  have hd := (List.mem_filter.1 hj).2
  exact ⟨by simpa using hd, r.mark_isReady j⟩

theorem settle_names_nodup (r : ReadyReport) {l : List Instance} (h : (l.map (·.name)).Nodup) :
    ((r.settle l).map (·.name)).Nodup := by
  have hs : (r.settle l).map (·.name) = (l.filter (!·.isDeleting)).map (·.name) := by
    simp [ReadyReport.settle]
  rw [hs]
  exact h.sublist (List.filter_sublist.map _)

namespace Deployment

/-- One round: the first step of the plan is carried out, then the instances settle. -/
def round (d : Deployment) (r : ReadyReport) (l : List Instance) : Except Error (List Instance) := do
  match ← d.plan l with
  | [] => return r.settle l
  | a :: _ => return r.settle (a.apply l)

/-- The instances after some rounds, the `n`-th of which ends in the report `reports n`. -/
def rounds (d : Deployment) (reports : Nat → ReadyReport) (l : List Instance) :
    Nat → Except Error (List Instance)
  | 0 => .ok l
  | n + 1 => do d.round (reports n) (← d.rounds reports l n)

/-- There is one instance in every slot, made from the current template, and no other. -/
structure RolledOut (d : Deployment) (l : List Instance) : Prop where
  ordinals : (l.map fun i => ordinal i.name).Perm
    ((List.range d.spec.scale.minReplicas.toInt.toNat).map Int.ofNat)
  current : ∀ i ∈ l, ∃ c, i.spec.control = some c ∧ c.templateHash = d.templateHash

/-- A slot that no instance of the current template holds. -/
def lacks (d : Deployment) (t : SlotTable) (k : Nat) : Bool :=
  (t.holder k).all d.isOutdated

/-- How much is left to do: the slots that lack an instance and the surplus. -/
def load (d : Deployment) (l : List Instance) : Nat :=
  (List.range d.slotCount).countP (d.lacks (d.slots l)) + (d.slots l).surplus.length

variable {d : Deployment} {owner : OwnerReference} {r : ReadyReport} {l : List Instance}

@[simp] theorem newInstance_name (k : Nat) : (d.newInstance k owner).name = d.slotName k := rfl

@[simp] theorem newInstance_isDeleting (k : Nat) :
    (d.newInstance k owner).isDeleting = false := rfl

@[simp] theorem renewedInstance_name (k : Nat) (i : Instance) :
    (d.renewedInstance k i).name = i.name := rfl

@[simp] theorem renewedInstance_isDeleting (k : Nat) (i : Instance) :
    (d.renewedInstance k i).isDeleting = i.isDeleting := rfl

@[simp] theorem isOutdated_newInstance (k : Nat) : d.isOutdated (d.newInstance k owner) = false := by
  simp [isOutdated, newInstance, instanceSpec]

@[simp] theorem isOutdated_renewedInstance (k : Nat) (i : Instance) :
    d.isOutdated (d.renewedInstance k i) = false := by
  simp [isOutdated, renewedInstance, instanceSpec]

/-! ## What is left to do -/

/-- Among settled instances a slot needs a step exactly when it lacks an instance. -/
theorem slotStep_isSome (hl : Settled l) (k : Nat) :
    (d.slotStep owner k ((d.slots l).holder k)).isSome = d.lacks (d.slots l) k := by
  unfold lacks
  cases hh : (d.slots l).holder k with
  | none => rfl
  | some i =>
    obtain ⟨hd, hr⟩ := hl i (d.holder_mem hh).2.1
    simp only [slotStep, hd, hr]
    cases hi : d.isOutdated i <;> simp [hi]

theorem length_plan_eq_load (h : d.requireOwner = .ok owner) (hl : Settled l)
    {actions : List Action} (hp : d.plan l = .ok actions) : actions.length = d.load l := by
  have hc : (d.pending owner l).length = (List.range d.slotCount).countP (d.lacks (d.slots l)) := by
    rw [pending, List.length_filterMap_eq_countP]
    exact List.countP_congr fun k _ => by rw [slotStep_isSome hl]
  rw [length_plan h hp, hc, load]

theorem countP_of_change {p q : Nat → Bool} {ks : List Nat} {k : Nat} (hk : k ∈ ks)
    (hn : ks.Nodup) (hp : p k = true) (hq : q k = false) (h : ∀ j, j ≠ k → q j = p j) :
    ks.countP p = ks.countP q + 1 := by
  have he : (ks.erase k).countP q = (ks.erase k).countP p := by
    refine List.countP_congr fun j hj => ?_
    rw [h j ((List.Nodup.mem_erase_iff hn).1 hj).1]
  rw [(List.perm_cons_erase hk).countP_eq p, (List.perm_cons_erase hk).countP_eq q,
    List.countP_cons_of_pos hp, List.countP_cons_of_neg (by simp [hq]), he]

/-- Filling one slot and leaving all others as they are lowers the load by one. -/
theorem load_of_fill {l m : List Instance} {k : Nat} (hk : k < d.slotCount)
    (hp : d.lacks (d.slots l) k = true) (hq : d.lacks (d.slots m) k = false)
    (h : ∀ j, j ≠ k → d.lacks (d.slots m) j = d.lacks (d.slots l) j)
    (hs : (d.slots m).surplus.length = (d.slots l).surplus.length) :
    d.load l = d.load m + 1 := by
  have := countP_of_change (List.mem_range.2 hk) List.nodup_range hp hq h
  unfold load
  omega

/-- Readiness does not count. -/
theorem load_settle (h : ∀ i ∈ l, i.isDeleting = false) : d.load (r.settle l) = d.load l := by
  have hf : l.filter (!·.isDeleting) = l := by
    refine List.filter_eq_self.2 fun i hi => ?_
    rw [h i hi]
    rfl
  obtain ⟨hs, hh⟩ := d.slots_map (f := r.mark) (fun _ => rfl) l
  have hc : d.lacks (d.slots (l.map r.mark)) = d.lacks (d.slots l) := by
    funext k
    rw [lacks, hh, lacks, Option.all_map]
    rfl
  rw [ReadyReport.settle, hf, load, load, hc, hs, List.length_map]

/-! ## One step -/

/-- An instance made for a vacant slot lowers the load by one. -/
theorem load_append {k : Nat} (hk : k < d.slotCount) (hv : (d.slots l).holder k = none) :
    d.load l = d.load (l ++ [d.newInstance k owner]) + 1 := by
  obtain ⟨hs, hh⟩ := d.slots_append_of_vacant (i := d.newInstance k owner) hk
    (d.slotOf?_slotName hk) hv
  refine load_of_fill hk (by rw [lacks, hv]; rfl) ?_ (fun j hj => ?_) (by rw [hs])
  · rw [lacks, hh, if_pos rfl, Option.all_some, isOutdated_newInstance]
  · rw [lacks, hh, if_neg hj, lacks]

/-- An outdated holder brought up to the template lowers the load by one: the other holders bear
other names, since their names end in other slots. -/
theorem load_renew {k : Nat} {i : Instance} (hh : (d.slots l).holder k = some i)
    (ho : d.isOutdated i = true) :
    d.load l = d.load (Action.apply ⟨.update, d.renewedInstance k i, false⟩ l) + 1 := by
  obtain ⟨hk, -, hi⟩ := d.holder_mem hh
  obtain ⟨hs, hm⟩ := d.slots_map
    (f := fun j => if j.name = i.name then d.renewedInstance k i else j)
    (fun j => by
      show (if j.name = i.name then d.renewedInstance k i else j).name = j.name
      split
      · next h => rw [renewedInstance_name, h]
      · rfl) l
  show d.load l = d.load (l.map fun j => if j.name = i.name then d.renewedInstance k i else j) + 1
  refine load_of_fill hk (by rw [lacks, hh]; exact ho) ?_ (fun j hj => ?_)
    (by rw [hs, List.length_map])
  · rw [lacks, hm, hh, Option.map_some, if_pos rfl, Option.all_some, isOutdated_renewedInstance]
  · rw [lacks, hm, lacks]
    cases hx : (d.slots l).holder j with
    | none => rfl
    | some x =>
      have hn : x.name ≠ i.name := by
        intro e
        have hxj := (d.holder_mem hx).2.2
        rw [e, hi] at hxj
        exact hj (Option.some.inj hxj).symm
      rw [Option.map_some, if_neg hn]

theorem length_filter_name {i : Instance} (hl : (l.map (·.name)).Nodup) (hi : i ∈ l) :
    (l.filter (·.name ≠ i.name)).length + 1 = l.length := by
  have hc : l.countP (fun x => !decide (x.name ≠ i.name)) = 1 := by
    have := List.count_eq_one_of_mem hl (List.mem_map_of_mem (f := (·.name)) hi)
    rw [List.count, List.countP_map] at this
    rw [← this]
    refine List.countP_congr fun x _ => ?_
    simp
  have := List.length_eq_countP_add_countP (fun x : Instance => decide (x.name ≠ i.name)) (l := l)
  rw [← List.countP_eq_length_filter]
  simp only [Bool.not_eq_true, Bool.decide_eq_false] at this
  omega

/-- Deleting one of the surplus lowers the load by one: no slot loses its holder. -/
theorem load_filter {i : Instance} (hl : (l.map (·.name)).Nodup) (hi : i ∈ (d.slots l).surplus) :
    d.load l = d.load (l.filter (·.name ≠ i.name)) + 1 := by
  have hh := d.slots_filter_surplus hl hi
  have hc : d.lacks (d.slots (l.filter (·.name ≠ i.name))) = d.lacks (d.slots l) := by
    funext k
    rw [lacks, hh, lacks]
  have ht : d.holders (d.slots (l.filter (·.name ≠ i.name))) = d.holders (d.slots l) :=
    List.filterMap_congr fun k _ => hh k
  have h₁ := (d.slots_perm l).length_eq
  have h₂ := (d.slots_perm (l.filter (·.name ≠ i.name))).length_eq
  have h₃ := length_filter_name hl (d.surplus_subset hi)
  rw [List.length_append] at h₁ h₂
  rw [ht] at h₂
  rw [load, load, hc]
  omega

variable {a : Action}

/-- Among settled instances every step lowers the load by one. -/
theorem load_apply (hl : Settled l) (hn : (l.map (·.name)).Nodup) (ha : Step d owner l a) :
    d.load l = d.load (a.apply l) + 1 := by
  cases ha with
  | create hk hv => exact load_append hk hv
  | update hh hd hr ho => exact load_renew hh ho
  | delete hi => exact load_filter hn hi
  | wait hh hw =>
    -- settled instances need no waiting for
    obtain ⟨hd, hr⟩ := hl _ (d.holder_mem hh).2.1
    rw [hd, hr] at hw
    exact absurd hw (by decide)

theorem apply_isDeleting (hl : ∀ i ∈ l, i.isDeleting = false) (ha : Step d owner l a) :
    ∀ i ∈ a.apply l, i.isDeleting = false := by
  intro i hi
  cases ha with
  | create hk hv =>
    rcases List.mem_append.1 hi with hi | hi
    · exact hl i hi
    · rw [List.mem_singleton.1 hi, newInstance_isDeleting]
  | update hh hd hr ho =>
    obtain ⟨j, hj, rfl⟩ := List.mem_map.1 hi
    split
    · exact hd
    · exact hl j hj
  | delete hs => exact hl i (List.mem_filter.1 hi).1
  | wait hh hw => exact hl i hi

/-- No step makes two instances bear one name: a created one is the first whose name ends in its
slot. -/
theorem apply_names_nodup (hn : (l.map (·.name)).Nodup) (ha : Step d owner l a) :
    ((a.apply l).map (·.name)).Nodup := by
  cases ha with
  | @create k hk hv =>
    show ((l ++ [d.newInstance k owner]).map (·.name)).Nodup
    rw [List.map_append, List.nodup_append]
    refine ⟨hn, List.nodup_singleton _, ?_⟩
    intro x hx y hy e
    obtain ⟨i, hi, rfl⟩ := List.mem_map.1 hx
    rw [List.map_singleton, newInstance_name, List.mem_singleton] at hy
    rw [hy] at e
    exact (d.holder_eq_none_iff hk).1 hv i hi (e ▸ d.slotOf?_slotName hk)
  | @update k i hh hd hr ho =>
    have he : (Action.apply ⟨.update, d.renewedInstance k i, false⟩ l).map (·.name) =
        l.map (·.name) := by
      simp only [Action.apply, List.map_map]
      refine List.map_congr_left fun j _ => ?_
      show (if j.name = i.name then d.renewedInstance k i else j).name = j.name
      split
      · next h => rw [renewedInstance_name, h]
      · rfl
    rw [he]
    exact hn
  | delete hs => exact hn.sublist (List.filter_sublist.map _)
  | wait hh hw => exact hn

/-! ## Rounds -/

/-- A round succeeds and keeps the names distinct. -/
theorem round_spec (h : d.requireOwner = .ok owner) (hn : (l.map (·.name)).Nodup) :
    ∃ m, d.round r l = .ok m ∧ Settled m ∧ (m.map (·.name)).Nodup := by
  have hp := plan_eq h l
  rw [round, hp]
  cases ha : skipAllButFirst (d.inOrder owner l) with
  | nil => exact ⟨_, rfl, settled_settle r l, settle_names_nodup r hn⟩
  | cons a rest =>
    have hs : Step d owner l a := head_plan h hp (by rw [ha, List.head?_cons])
    exact ⟨_, rfl, settled_settle r _, settle_names_nodup r (apply_names_nodup hn hs)⟩

/-- A round from a settled state makes the plan one step shorter, unless nothing was left to do. -/
theorem length_round (h : d.requireOwner = .ok owner) (hl : Settled l)
    (hn : (l.map (·.name)).Nodup) {m : List Instance} (hm : d.round r l = .ok m)
    {before after : List Action} (hb : d.plan l = .ok before) (ha : d.plan m = .ok after) :
    after.length = before.length - 1 := by
  have hs : Settled m := by
    obtain ⟨m', hm', hs, -⟩ := round_spec (r := r) h hn
    rw [hm] at hm'
    cases hm'
    exact hs
  have hd : ∀ i ∈ l, i.isDeleting = false := fun i hi => (hl i hi).1
  rw [length_plan_eq_load h hl hb, length_plan_eq_load h hs ha]
  rw [round, hb] at hm
  cases before with
  | nil =>
    cases hm
    have h0 := length_plan_eq_load h hl hb
    rw [load_settle hd, ← h0]
    rfl
  | cons a rest =>
    cases hm
    have hst : Step d owner l a := head_plan h hb List.head?_cons
    have := load_apply hl hn hst
    rw [load_settle (apply_isDeleting hd hst)]
    omega

/-- Nothing is left to do only where every slot has one instance of the current template, and there
is no other. -/
theorem rolledOut_of_plan_eq_nil (h : d.requireOwner = .ok owner) (hp : d.plan l = .ok []) :
    d.RolledOut l := by
  obtain ⟨hk, hs⟩ := (plan_eq_nil_iff h).1 hp
  -- with no surplus the instances are the holders
  have hl := d.slots_perm l
  rw [hs, List.append_nil] at hl
  have holds (k : Nat) (hk' : k < d.slotCount) :
      ∃ i, (d.slots l).holder k = some i ∧ d.isOutdated i = false := by
    have := hk k hk'
    cases hh : (d.slots l).holder k with
    | none => simp [hh, slotStep] at this
    | some i =>
      refine ⟨i, rfl, ?_⟩
      rw [hh, slotStep] at this
      split at this
      · cases this
      · simpa using this
  refine ⟨(hl.map _).symm.trans (.of_eq ?_), fun i hi => ?_⟩
  · have ho : ∀ ks : List Nat, (∀ k ∈ ks, k < d.slotCount) →
        (ks.filterMap (d.slots l).holder).map (fun i => ordinal i.name) = ks.map Int.ofNat := by
      intro ks hks
      induction ks with
      | nil => rfl
      | cons k rest ih =>
        obtain ⟨i, hi, -⟩ := holds k (hks k List.mem_cons_self)
        rw [List.filterMap_cons_some hi, List.map_cons, List.map_cons,
          ordinal_eq_natCast (d.holder_mem hi).2.2,
          ih fun j hj => hks j (List.mem_cons_of_mem _ hj)]
        rfl
    exact ho _ fun k => List.mem_range.1
  · obtain ⟨k, hk', hi'⟩ := List.mem_filterMap.1 (hl.symm.subset hi)
    obtain ⟨j, hj, ho⟩ := holds k (List.mem_range.1 hk')
    rw [hi'] at hj
    cases hj
    unfold isOutdated at ho
    cases hc : i.spec.control with
    | none => rw [hc] at ho; cases ho
    | some c => exact ⟨c, rfl, by simpa [hc] using ho⟩

/-- The states that the rounds go through. -/
theorem rounds_spec (h : d.requireOwner = .ok owner) (reports : Nat → ReadyReport)
    (hn : (l.map (·.name)).Nodup) (n : Nat) :
    ∃ m, d.rounds reports l n = .ok m ∧ (m.map (·.name)).Nodup ∧ (0 < n → Settled m) := by
  induction n with
  | zero => exact ⟨l, rfl, hn, fun h => absurd h (Nat.lt_irrefl 0)⟩
  | succ n ih =>
    obtain ⟨m, hm, hmn, -⟩ := ih
    obtain ⟨m', hm', hs, hn'⟩ := round_spec (r := reports n) h hmn
    refine ⟨m', ?_, hn', fun _ => hs⟩
    rw [rounds, hm]
    exact hm'

/-- A rollout converges from any instances with distinct names: it never fails, from the first
settled state on every round leaves one step less, and once nothing is left, which takes no more
rounds than that state has steps, the deployment is rolled out. -/
theorem rollout_converges (d : Deployment) {name uid : String} (hname : d.metadata.name = some name)
    (huid : d.metadata.uid = some uid) (reports : Nat → ReadyReport) {l : List Instance}
    (hl : (l.map (·.name)).Nodup) :
    ∃ (state : Nat → List Instance) (actions : Nat → List Action),
      (∀ n, d.rounds reports l n = .ok (state n) ∧ d.plan (state n) = .ok (actions n)) ∧
      (∀ n, Settled (state (n + 1))) ∧
      (∀ n, Settled (state n) → (actions (n + 1)).length = (actions n).length - 1) ∧
      (∀ n, (actions 1).length < n → actions n = []) ∧
      ∀ n, actions n = [] → d.RolledOut (state n) := by
  obtain ⟨owner, ho⟩ := exists_owner hname huid
  choose state hr hn hs using rounds_spec ho reports hl
  have planned (n : Nat) : ∃ actions, d.plan (state n) = .ok actions := ⟨_, plan_eq ho (state n)⟩
  choose actions hp using planned
  have hlen (n : Nat) (h : Settled (state n)) :
      (actions (n + 1)).length = (actions n).length - 1 := by
    have hm := hr (n + 1)
    rw [rounds, hr n] at hm
    exact length_round ho h (hn n) hm (hp n) (hp (n + 1))
  refine ⟨state, actions, fun n => ⟨hr n, hp n⟩, fun n => hs _ n.succ_pos, hlen,
    fun n hlt => ?_, fun n he => ?_⟩
  · have hk (k : Nat) : (actions (k + 1)).length = (actions 1).length - k := by
      induction k with
      | zero => rfl
      | succ k ih =>
        rw [hlen _ (hs _ k.succ_pos), ih]
        omega
    obtain ⟨k, rfl⟩ : ∃ k, n = k + 1 := ⟨n - 1, by omega⟩
    have := hk k
    exact List.length_eq_zero_iff.1 (by omega)
  · exact rolledOut_of_plan_eq_nil ho (by rw [hp n, he])

/-- A deployment of two slots that finds two instances for one slot, one beyond its slots and one
that it cannot place. -/
theorem rollout_converges_of_strays :
    let d : Deployment :=
      { metadata := { name := some "web", uid := some "d1" }
        spec := { workload := ⟨"web", "w1"⟩, placement := "", cityCode := "",
                  scale := { minReplicas := 2 } } }
    let strays : List Instance := ["web-01", "web-1", "web-7", "job"].map fun n =>
      { metadata := { name := some n }, spec := {} }
    ∃ n final, d.rounds (fun _ => .filed ⟨0, 0⟩) strays n = .ok final ∧ d.plan final = .ok [] ∧
      (final.map fun i => ordinal i.name).Perm [0, 1] := by
  intro d strays
  obtain ⟨state, actions, hr, -, -, he, hc⟩ :=
    rollout_converges d rfl rfl (fun _ => .filed ⟨0, 0⟩) (l := strays) (by decide)
  have hn := he _ (Nat.lt_succ_self _)
  refine ⟨_, _, (hr _).1, ?_, (hc _ hn).ordinals⟩
  rw [(hr _).2, hn]

end Deployment

end ControlPlane
