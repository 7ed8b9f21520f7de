import ControlPlane.Proofs.Rollout.Steps
import ControlPlane.Proofs.Server.Server
import ControlPlane.Proofs.Staging.Chain
import ControlPlane.Reconcile.Deployment

/-!
# When a deployment's pass conflicts with itself

A pass lists the instances once. It carries out the first step of the plan, and when the networks are
ready it lifts the network gate from the instances as they were listed. An instance that the step has
renewed or deleted is not what was listed any more, so lifting its gate is refused: the pass ends well
exactly when its step leaves it nothing to trip over (`reconcile_ok_iff`).
-/

namespace ControlPlane

open Pass (perform run_bind_eq_ok)

/-! ## Lifting gates -/

/-- The instance is not being deleted and holds the network gate. -/
def Instance.awaitsNetwork (i : Instance) : Bool :=
  !i.isDeleting && i.gates.any (·.name == SchedulingGate.network)

namespace Deployment

variable (now : Instant) {d : Deployment} {s : Server} {owner : OwnerReference} {i : Instance}
  {l : List Instance} {a : Action}

theorem liftNetworkGate_run_of_not (h : i.awaitsNetwork = false) :
    i.liftNetworkGate.run (Server.answer now) s = (.ok (), s) := by
  unfold Instance.awaitsNetwork at h
  rw [Instance.liftNetworkGate, h]
  rfl

theorem liftNetworkGate_run_eq (h : i.awaitsNetwork = true) :
    i.liftNetworkGate.run (Server.answer now) s = s.onInstances (s.instances.patch i
      (Server.withGates (i.gates.filter (·.name != SchedulingGate.network)))) := by
  unfold Instance.awaitsNetwork at h
  rw [Instance.liftNetworkGate, if_pos h, Pass.run_perform]
  rfl

theorem liftNetworkGate_run (h : i.awaitsNetwork = true) (hc : s.instances.IsCurrent i) :
    ∃ ns f, i.metadata.ns = some ns ∧ i.liftNetworkGate.run (Server.answer now) s =
      (.ok (), { s with instances := s.instances.change ns i.name f }) := by
  obtain ⟨ns, f, hns, hp⟩ := Table.patch_of_isCurrent
    (g := Server.withGates (i.gates.filter (·.name != SchedulingGate.network))) hc
  refine ⟨ns, f, hns, ?_⟩
  rw [liftNetworkGate_run_eq now h, hp]
  rfl

theorem liftNetworkGate_run_stale (h : i.awaitsNetwork = true) (hc : ¬ s.instances.IsCurrent i) :
    ∃ e, i.liftNetworkGate.run (Server.answer now) s = (.error e, s) := by
  obtain ⟨e, hp⟩ := Table.patch_of_not_isCurrent
    (g := Server.withGates (i.gates.filter (·.name != SchedulingGate.network))) hc
  refine ⟨e, ?_⟩
  rw [liftNetworkGate_run_eq now h, hp]
  rfl

/-- Lifting the gate of one instance makes no other stale. -/
theorem isCurrent_lifted {j : Instance} {ns : String} {f : Instance → Option Instance}
    (hns : i.metadata.ns = some ns) (hj : j.destination ≠ i.destination) :
    (s.instances.change ns i.name f).IsCurrent j ↔ s.instances.IsCurrent j :=
  Table.isCurrent_change_of_ne fun e => hj (by rw [e, Resource.destination, hns])

/-- The gates of several instances are lifted, if those that hold one are what is stored. -/
theorem liftAll_run (hl : (l.map Resource.destination).Nodup)
    (hc : ∀ i ∈ l, i.awaitsNetwork = true → s.instances.IsCurrent i) :
    ∃ t, (Pass.forEach Instance.liftNetworkGate l).run (Server.answer now) s =
      (.ok (), { s with instances := t }) := by
  induction l generalizing s with
  | nil => exact ⟨s.instances, rfl⟩
  | cons i rest ih =>
    rw [List.map_cons, List.nodup_cons] at hl
    have hrest : ∀ j ∈ rest, j.destination ≠ i.destination := fun j hj e =>
      hl.1 (e ▸ List.mem_map_of_mem hj)
    cases hg : i.awaitsNetwork with
    | false =>
      obtain ⟨t, ht⟩ := ih hl.2 fun j hj => hc j (List.mem_cons_of_mem _ hj)
      refine ⟨t, ?_⟩
      rw [Pass.forEach, Pass.bind_eq, Pass.run_bind_of_ok (liftNetworkGate_run_of_not now hg), ht]
    | true =>
      obtain ⟨ns, f, hns, hi⟩ := liftNetworkGate_run now hg (hc i List.mem_cons_self hg)
      obtain ⟨t, ht⟩ := ih (s := { s with instances := s.instances.change ns i.name f }) hl.2
        fun j hj hgj => (isCurrent_lifted hns (hrest j hj)).2 (hc j (List.mem_cons_of_mem _ hj) hgj)
      refine ⟨t, ?_⟩
      rw [Pass.forEach, Pass.bind_eq, Pass.run_bind_of_ok hi, ht]

/-- If one of them is not, lifting the gates fails, at the latest when it gets to that one. -/
theorem liftAll_run_stale (hl : (l.map Resource.destination).Nodup) (hi : i ∈ l)
    (hg : i.awaitsNetwork = true) (hc : ¬ s.instances.IsCurrent i) :
    ∃ e t, (Pass.forEach Instance.liftNetworkGate l).run (Server.answer now) s = (.error e, t) := by
  induction l generalizing s with
  | nil => cases hi
  | cons j rest ih =>
    rw [List.map_cons, List.nodup_cons] at hl
    rw [Pass.forEach, Pass.bind_eq]
    rcases List.mem_cons.1 hi with rfl | hi
    · obtain ⟨e, he⟩ := liftNetworkGate_run_stale now hg hc
      exact ⟨e, s, Pass.run_bind_of_error he _⟩
    · have hne : i.destination ≠ j.destination := fun e =>
        hl.1 (e ▸ List.mem_map_of_mem hi)
      cases hgj : j.awaitsNetwork with
      | false =>
        rw [Pass.run_bind_of_ok (liftNetworkGate_run_of_not now hgj)]
        exact ih hl.2 hi hc
      | true =>
        by_cases hcj : s.instances.IsCurrent j
        · obtain ⟨ns, f, hns, hj⟩ := liftNetworkGate_run now hgj hcj
          rw [Pass.run_bind_of_ok hj]
          exact ih hl.2 hi fun h => hc ((isCurrent_lifted hns hne).1 h)
        · obtain ⟨e, he⟩ := liftNetworkGate_run_stale now hgj hcj
          exact ⟨e, s, Pass.run_bind_of_error he _⟩

/-! ## The step that is carried out -/

/-- The step leaves the pass nothing to trip over: what it creates is not there yet, and what it
renews or deletes holds no network gate. -/
def Harmless (s : Server) (a : Action) : Prop :=
  match a.type with
  | .create => ∀ o ∈ s.instances.objects, o.address ≠ a.target.address
  | .update | .delete => a.target.awaitsNetwork = false
  | .wait => True

theorem forEach_execute_skip (l : List Action) :
    Pass.forEach Action.execute (l.map Action.skip) = .done () := by
  induction l with
  | nil => rfl
  | cons a rest ih => exact ih

/-- Of a plan only the first step is carried out. -/
theorem forEach_execute_skipAllButFirst (l : List Action) :
    Pass.forEach Action.execute (skipAllButFirst l) =
      match l.head? with
      | none => .done ()
      | some a => a.execute := by
  cases l with
  | nil => rfl
  | cons a rest =>
    rw [skipAllButFirst, Pass.forEach, forEach_execute_skip, List.head?_cons]
    exact Pass.bind_done _

theorem destination_ne_of_ne {j : Instance} (hi : i ∈ s.instances.objects)
    (hj : j ∈ s.instances.objects) (h : i ≠ j) : i.destination ≠ j.destination := by
  rw [← Table.address_eq_of_mem hi, ← Table.address_eq_of_mem hj]
  exact fun e => h (Table.eq_of_address_eq hi hj e)

/-- Once the object of a listed instance has been changed, all gates can still be lifted exactly when
that instance holds none. -/
theorem forall_isCurrent_change_iff (hl : ∀ i ∈ l, i ∈ s.instances.objects) (hi : i ∈ l)
    {ns : String} (hns : i.metadata.ns = some ns) (f : Instance → Option Instance) :
    (∀ j ∈ l, j.awaitsNetwork = true → (s.instances.change ns i.name f).IsCurrent j) ↔
      i.awaitsNetwork = false := by
  have ha : i.address = (some ns, some i.name) := by
    rw [Table.address_eq_of_mem (hl i hi), Resource.destination, hns]
  constructor
  · intro h
    rw [← Bool.not_eq_true]
    exact fun hg => Table.not_isCurrent_change_self (hl i hi) ha (h i hi hg)
  · intro hg j hj hgj
    have hne : j ≠ i := fun e => by
      rw [e, hg] at hgj
      cases hgj
    have hd := destination_ne_of_ne (hl j hj) (hl i hi) hne
    exact (isCurrent_lifted hns hd).2 (Table.isCurrent_of_mem (hl j hj))

/-- Creating fails when the name is taken, and makes nothing stale. -/
theorem execute_create_run {ns : String} (hns : d.metadata.ns = some ns)
    (hl : ∀ i ∈ l, i ∈ s.instances.objects) (k : Nat) (owner : OwnerReference) :
    let a : Action := ⟨.create, d.newInstance k owner, false⟩
    (¬ Harmless s a ∧ ∃ e, a.execute.run (Server.answer now) s = (.error e, s)) ∨
      Harmless s a ∧ ∃ t, a.execute.run (Server.answer now) s =
        (.ok (), { s with instances := t }) ∧ ∀ i ∈ l, t.IsCurrent i := by
  intro a
  have hrun : a.execute.run (Server.answer now) s =
      s.onInstances (s.instances.create now (d.newInstance k owner)) := by
    show (perform (.createInstance _)).run _ _ = _
    rw [Pass.run_perform]
    rfl
  have hm : (d.newInstance k owner).metadata.ns = some ns := hns
  have hn : (d.newInstance k owner).metadata.name = some (d.slotName k) := rfl
  have hharm : Harmless s a ↔ s.instances.find? ns (d.slotName k) = none := by
    rw [Table.find?_eq_none_iff]
    show (∀ o ∈ s.instances.objects, o.address ≠ (d.newInstance k owner).address) ↔ _
    rw [Resource.address, hm, hn]
  rw [hrun, hharm]
  by_cases hf : s.instances.find? ns (d.slotName k) = none
  · have hc := Table.create_of_free now hm hn hf
    rw [hc]
    exact .inr ⟨hf, _, rfl, fun i hi => Table.isCurrent_add hf (hl i hi) _⟩
  · rw [Table.create_of_taken now hm hn hf]
    exact .inl ⟨hf, _, rfl⟩

/-- Renewing an instance makes what was listed of it stale, and nothing else. -/
theorem execute_update_run (hl : ∀ i ∈ l, i ∈ s.instances.objects) (hi : i ∈ l) (k : Nat) :
    let a : Action := ⟨.update, d.renewedInstance k i, false⟩
    ∃ t, a.execute.run (Server.answer now) s = (.ok (), { s with instances := t }) ∧
      ((∀ j ∈ l, j.awaitsNetwork = true → t.IsCurrent j) ↔ Harmless s a) := by
  intro a
  have hc : s.instances.IsCurrent (d.renewedInstance k i) :=
    ⟨i, hl i hi, Table.address_eq_of_mem (hl i hi), rfl⟩
  have hrun : a.execute.run (Server.answer now) s =
      s.onInstances (s.instances.replace (d.renewedInstance k i)) := by
    show (perform (.replaceInstance _)).run _ _ = _
    rw [Pass.run_perform]
    rfl
  obtain ⟨ns, o, hns, -, hu⟩ :=
    Table.update_of_isCurrent (g := (d.renewedInstance k i).inPlaceOf) hc
  refine ⟨_, by rw [hrun, Table.replace, hu]; rfl, ?_⟩
  exact forall_isCurrent_change_iff hl hi hns _

/-- Deleting an instance makes what was listed of it stale unless it was being deleted before. -/
theorem execute_delete_run (hl : ∀ i ∈ l, i ∈ s.instances.objects) (hi : i ∈ l) :
    let a : Action := ⟨.delete, i, false⟩
    ∃ t, a.execute.run (Server.answer now) s = (.ok (), { s with instances := t }) ∧
      ((∀ j ∈ l, j.awaitsNetwork = true → t.IsCurrent j) ↔ Harmless s a) := by
  intro a
  obtain ⟨ns, name, ha⟩ := Table.exists_address (hl i hi)
  have hd := (Table.address_eq_of_mem (hl i hi)).symm.trans ha
  rw [Resource.destination, Prod.mk.injEq, Option.some.injEq] at hd
  obtain ⟨hns, rfl⟩ := hd
  have hrun : a.execute.run (Server.answer now) s =
      s.onInstances (s.instances.delete now i) := by
    show (perform (.deleteInstance _)).run _ _ = _
    rw [Pass.run_perform]
    rfl
  refine ⟨s.instances.remove now ns i.name, by rw [hrun, Table.delete, hns]; rfl, ?_⟩
  show _ ↔ i.awaitsNetwork = false
  cases hdel : i.isDeleting with
  | false =>
    obtain ⟨f, hf⟩ := Table.remove_of_not_isDeleting (hl i hi) ha hdel now
    rw [hf]
    exact forall_isCurrent_change_iff hl hi hns f
  | true =>
    have hg : i.awaitsNetwork = false := by simp [Instance.awaitsNetwork, hdel]
    refine iff_of_true ?_ hg
    rcases s.instances.remove_cases now ns i.name with he | ⟨f, he, -⟩
    · rw [he]
      exact fun j hj _ => Table.isCurrent_of_mem (hl j hj)
    · rw [he]
      exact (forall_isCurrent_change_iff hl hi hns f).2 hg

/-- Carrying out the first step either fails, or leaves a server on which the gates can be lifted
exactly when the step is harmless. -/
theorem execute_run {ns : String} (hns : d.metadata.ns = some ns)
    (hl : ∀ i ∈ l, i ∈ s.instances.objects) (ha : Step d owner l a) :
    (¬ Harmless s a ∧ ∃ e, a.execute.run (Server.answer now) s = (.error e, s)) ∨
      ∃ t, a.execute.run (Server.answer now) s = (.ok (), { s with instances := t }) ∧
        ((∀ i ∈ l, i.awaitsNetwork = true → t.IsCurrent i) ↔ Harmless s a) := by
  cases ha with
  | @create k hk hv =>
    rcases execute_create_run now hns hl k owner with h | ⟨hh, t, hr, hc⟩
    · exact .inl h
    · exact .inr ⟨t, hr, iff_of_true (fun i hi _ => hc i hi) hh⟩
  | update hh hd hr ho => exact .inr (execute_update_run now hl (d.holder_mem hh).2.1 _)
  | delete hi => exact .inr (execute_delete_run now hl (d.surplus_subset hi))
  | wait hh hw =>
    exact .inr ⟨s.instances, rfl, iff_of_true (fun i hi _ => Table.isCurrent_of_mem (hl i hi)) trivial⟩

/-! ## The whole pass -/

/-- What a pass does once it has carried out its step: with the networks ready, it succeeds exactly
when the gates of the listed instances can be lifted. -/
theorem finish_run (hd : d ∈ s.deployments.objects) (hnet : s.NetworksReady d)
    (hl : (l.map Resource.destination).Nodup) (status : Bool → DeploymentStatus) :
    ((do
      let networkReady ← d.stageNetworks
      if networkReady then
        Pass.forEach Instance.liftNetworkGate l
      if d.status ≠ some (status networkReady) then
        perform (.patchDeploymentStatus d (status networkReady))
      return awaitChange : Pass Requeue).run (Server.answer now) s).1 = .ok awaitChange ↔
      ∀ i ∈ l, i.awaitsNetwork = true → s.instances.IsCurrent i := by
  rw [Pass.bind_eq, Pass.run_bind_of_ok (stageNetworks_run_true_iff.2 ⟨rfl, hnet⟩)]
  simp only [if_true]
  by_cases hc : ∀ i ∈ l, i.awaitsNetwork = true → s.instances.IsCurrent i
  · refine iff_of_true ?_ hc
    obtain ⟨t, ht⟩ := liftAll_run now hl hc
    rw [Pass.bind_eq, Pass.run_bind_of_ok ht]
    split
    · obtain ⟨ns, f, -, hp⟩ := Table.patch_of_isCurrent
        (g := Resource.mergeStatus (status true)) (Table.isCurrent_of_mem hd)
      have hrun : (perform (.patchDeploymentStatus d (status true))).run (Server.answer now)
          { s with instances := t } =
          (.ok (), { s with instances := t, deployments := s.deployments.change ns d.name f }) := by
        rw [Pass.run_perform]
        show Server.onDeployments _ (s.deployments.patch _ _) = _
        rw [hp]
        rfl
      rw [Pass.bind_eq, Pass.run_bind_of_ok hrun]
      rfl
    · rfl
  · refine iff_of_false ?_ hc
    rw [not_forall] at hc
    obtain ⟨i, hc⟩ := hc
    rw [Classical.not_imp, Classical.not_imp] at hc
    obtain ⟨hi, hg, hc⟩ := hc
    obtain ⟨e, t, he⟩ := liftAll_run_stale now hl hi hg hc
    rw [Pass.bind_eq, Pass.run_bind_of_error he]
    intro h
    cases h

theorem reconcile_run_iff {uid : String} {actions : List Action}
    (hd : d ∈ s.deployments.objects) (hdel : d.isDeleting = false)
    (hfin : finalizer ∈ d.finalizers) (huid : d.metadata.uid = some uid)
    (hnet : s.NetworksReady d) (ho : d.requireOwner = .ok owner)
    (hp : d.plan (s.instancesOf d.namespaceName uid) = .ok actions) :
    ((d.reconcile now).run (Server.answer now) s).1 = .ok awaitChange ↔
      ∀ a, actions.head? = some a → Harmless s a := by
  obtain ⟨ns, location, hns, hloc, -⟩ := id hnet
  have hl : ∀ i ∈ s.instancesOf d.namespaceName uid, i ∈ s.instances.objects :=
    fun i hi => (List.mem_filter.1 hi).1
  have hn := s.instances.list_destinations_nodup d.namespaceName
    (·.label? Deployment.uidLabel == some uid)
  have hpass : d.reconcile now = d.rollOut now :=
    reconcile_eq_rollOut hdel hfin (by rw [hloc]; exact Option.some_ne_none _)
  have hreq : d.requireUid = .done uid := by
    rw [requireUid, huid]
    rfl
  have hlist : (perform (.listInstances d.namespaceName uid)).run (Server.answer now) s =
      (.ok (s.instancesOf d.namespaceName uid), s) := by
    rw [Pass.run_perform]
    rfl
  have hstep (a : Action) (ha : actions.head? = some a) :
      Step d owner (s.instancesOf d.namespaceName uid) a := head_plan ho hp ha
  rw [plan_eq ho] at hp
  cases hp
  rw [hpass, rollOut, hreq, Pass.bind_eq, Pass.done_bind, Pass.bind_eq,
    Pass.run_bind_of_ok hlist, plan_eq ho, Pass.ofExcept, Pass.bind_eq, Pass.done_bind,
    Pass.bind_eq, forEach_execute_skipAllButFirst]
  rw [head?_skipAllButFirst] at hstep ⊢
  generalize ReplicaSummary.ofInstances (s.instancesOf d.namespaceName uid) d.templateHash = summary
  cases hh : (d.inOrder owner (s.instancesOf d.namespaceName uid)).head? with
  | none =>
    refine (finish_run now hd hnet hn (d.progress now summary)).trans (iff_of_true ?_ (by simp))
    exact fun i hi _ => Table.isCurrent_of_mem (hl i hi)
  | some a =>
    have hone : (∀ b, some a = some b → Harmless s b) ↔ Harmless s a := by simp
    rw [hone]
    rcases execute_run now hns hl (hstep a hh) with ⟨hbad, e, he⟩ | ⟨t, ht, hc⟩
    · refine iff_of_false ?_ hbad
      rw [Pass.run_bind_of_error he]
      intro h
      cases h
    · rw [Pass.run_bind_of_ok ht]
      exact (finish_run now (s := { s with instances := t }) hd hnet hn (d.progress now summary)).trans
        hc

/-- A pass on a scheduled deployment whose networks are ready, with no other writer, succeeds exactly
when the step that it carries out first is harmless. A step that renews or deletes an instance which
still holds the network gate makes the pass fail: it goes on to lift that gate from the instance as
it was listed. -/
theorem reconcile_ok_iff {uid : String} (hd : d ∈ s.deployments.objects)
    (hdel : d.isDeleting = false) (hfin : finalizer ∈ d.finalizers)
    (huid : d.metadata.uid = some uid) (hnet : s.NetworksReady d) :
    ∃ actions, d.plan (s.instancesOf d.namespaceName uid) = .ok actions ∧
      (((d.reconcile now).run (Server.answer now) s).1 = .ok awaitChange ↔
        ∀ a, actions.head? = some a → Harmless s a) := by
  obtain ⟨name, hname⟩ := Option.isSome_iff_exists.1 (s.deployments.complete d hd).2.1
  obtain ⟨owner, ho⟩ := exists_owner hname huid
  have hp := plan_eq ho (s.instancesOf d.namespaceName uid)
  exact ⟨_, hp, reconcile_run_iff now hd hdel hfin huid hnet ho hp⟩

/-- A deployment of no instances, scheduled to a location. -/
def scaledDown : Deployment where
  metadata := {
    name := some "web"
    ns := some "shop"
    uid := some "d1"
    resourceVersion := some "1"
    finalizers := some [finalizer] }
  spec := {
    workload := ⟨"web", "w1"⟩
    placement := "us"
    cityCode := "DFW"
    scale := { minReplicas := 0 } }
  status := some { location := some ⟨"dfw", "infra"⟩ }

/-- An instance of it with the given gates. -/
def leftOver (gates : List SchedulingGate) : Instance where
  metadata := {
    name := some "web-0"
    ns := some "shop"
    labels := some (Dict.set .empty uidLabel "d1")
    resourceVersion := some "1" }
  spec := { control := some { templateHash := "", gates } }

/-- A server with both. -/
def scaledDownServer (gates : List SchedulingGate) : Server :=
  { Server.empty with
    deployments := Table.empty.add "shop" "web" scaledDown rfl
    instances := Table.empty.add "shop" "web-0" (leftOver gates) rfl }

theorem networksReady_scaledDown (gates : List SchedulingGate) :
    (scaledDownServer gates).NetworksReady scaledDown :=
  ⟨"shop", _, rfl, rfl, fun _ hi => absurd hi (Nat.not_lt_zero _)⟩

theorem plan_scaledDown (gates : List SchedulingGate) :
    scaledDown.plan ((scaledDownServer gates).instancesOf scaledDown.namespaceName "d1") =
      .ok [⟨.delete, leftOver gates, false⟩] := by
  have hl : (scaledDownServer gates).instancesOf scaledDown.namespaceName "d1" =
      [leftOver gates] := by rfl
  have hc : scaledDown.slotCount = 0 := by rfl
  have hi : slotOf? (leftOver gates).name = some 0 := by
    show slotOf? "web-0" = some 0
    decide
  have hs : (scaledDown.slots [leftOver gates]).surplus = [leftOver gates] := by
    simp [slots, SlotTable.seat, hi, hc, SlotTable.dismiss]
  rw [hl]
  show scaledDown.orderedPlan _ = _
  simp [orderedPlan, hs, hc, slotActions, ascending, descending, skipAllButFirst, pure,
    Except.pure, bind, Except.bind]

/-- A gate is held on the instance that the pass deletes: the pass fails. -/
theorem reconcile_fails_on_gated :
    let s := scaledDownServer [⟨SchedulingGate.network⟩]
    scaledDown ∈ s.deployments.objects ∧ scaledDown.isDeleting = false ∧
      finalizer ∈ scaledDown.finalizers ∧ scaledDown.metadata.uid = some "d1" ∧
      s.NetworksReady scaledDown ∧
      ((scaledDown.reconcile ⟨0, 0⟩).run (Server.answer ⟨0, 0⟩) s).1 ≠ .ok awaitChange := by
  intro s
  have hd : scaledDown ∈ s.deployments.objects := List.mem_singleton.2 rfl
  have hf : finalizer ∈ scaledDown.finalizers := List.mem_singleton.2 rfl
  have hnet : s.NetworksReady scaledDown := networksReady_scaledDown _
  obtain ⟨owner, ho⟩ := exists_owner (d := scaledDown) rfl rfl
  refine ⟨hd, rfl, hf, rfl, hnet, fun h => ?_⟩
  have hbad : (leftOver [⟨SchedulingGate.network⟩]).awaitsNetwork = false :=
    (reconcile_run_iff _ hd rfl hf rfl hnet ho (plan_scaledDown _)).1 h _ rfl
  exact absurd hbad (by decide)

/-- No gate is held on it: the pass succeeds. -/
theorem reconcile_ok_of_ungated :
    let s := scaledDownServer []
    s.NetworksReady scaledDown ∧
      ((scaledDown.reconcile ⟨0, 0⟩).run (Server.answer ⟨0, 0⟩) s).1 = .ok awaitChange := by
  intro s
  have hnet : s.NetworksReady scaledDown := networksReady_scaledDown _
  have hd : scaledDown ∈ s.deployments.objects := List.mem_singleton.2 rfl
  obtain ⟨actions, hp, h⟩ :=
    reconcile_ok_iff ⟨0, 0⟩ hd rfl (List.mem_singleton.2 rfl) rfl hnet
  rw [plan_scaledDown, Except.ok.injEq] at hp
  refine ⟨hnet, h.2 fun a ha => ?_⟩
  rw [← hp, List.head?_cons, Option.some.injEq] at ha
  rw [← ha]
  show (leftOver []).awaitsNetwork = false
  decide

end Deployment

end ControlPlane
