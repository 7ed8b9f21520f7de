import ControlPlane.Proofs.Deployment.Conflict
import ControlPlane.Proofs.Server.Footprint
import ControlPlane.Proofs.Server.History

/-!
# Gates over whole runs

An instance is created with the network gate. It keeps it until a pass on a deployment lifts it, and
that pass has staged the networks of its deployment with success before. Nothing else that the
controllers do adds a gate to an instance or takes one away.

* `GateSafe`: how the calls of a pass deal with gates. `Task.meets_gateSafe` has it of every pass.
* `System.Written`: where the gates of a stored instance come from, step by step.
* `network_gate_held`: the gate is held from the creation until it is lifted.
-/

namespace ControlPlane

open Pass (perform)

/-! ## What passes do to gates -/

/-- The networks of the deployment were staged with success in these exchanges. -/
def Deployment.StagedIn (d : Deployment) (log : List Exchange) : Prop :=
  ∃ before staging after, log = before ++ staging ++ after ∧ d.stageNetworks.Ends staging true

/-- The gates without the network gate. -/
def withoutNetwork (gates : List SchedulingGate) : List SchedulingGate :=
  gates.filter (·.name != SchedulingGate.network)

/-- What a pass writes as the gates of an instance, after what it has asked and was told: those of a
new instance, those that were listed, or these without the network gate once networks are staged. -/
def GateSafe (task : Task) (log : List Exchange) : Call → Prop
  | .createInstance i => (∃ d, task = .deployment d) ∧ i.gates = [⟨SchedulingGate.network⟩]
  | .replaceInstance r => ∃ i ∈ listedIn log, r.destination = i.destination ∧
      r.metadata.resourceVersion = i.metadata.resourceVersion ∧ r.gates = i.gates
  | .setSchedulingGates i gates => (∃ d, task = .deployment d ∧ d.StagedIn log) ∧
      i ∈ listedIn log ∧ gates = withoutNetwork i.gates
  | _ => True

namespace Deployment

variable {d : Deployment} {now : Instant} {log : List Exchange} {l : List Instance}

/-- The instances of a deployment's pass have been listed. -/
def Listed (l : List Instance) (log : List Exchange) : Prop :=
  ∀ i ∈ l, i ∈ listedIn log

theorem Listed.append (h : Listed l log) (rest : List Exchange) : Listed l (log ++ rest) := by
  intro i hi
  rw [listedIn_append]
  exact List.mem_append_left _ (h i hi)

theorem StagedIn.append (h : d.StagedIn log) (rest : List Exchange) : d.StagedIn (log ++ rest) := by
  obtain ⟨before, staging, after, rfl, hs⟩ := h
  exact ⟨before, staging, after ++ rest, by simp, hs⟩

theorem meets_execute {owner : OwnerReference} {a : Action} (ha : Step d owner l a)
    (hl : Listed l log) :
    a.execute.Meets (GateSafe (.deployment d)) (fun _ => Listed l) log := by
  cases ha with
  | create _ _ => exact Pass.meets_perform ⟨⟨d, rfl⟩, rfl⟩ fun _ => hl.append _
  | wait _ _ => exact hl
  | update hh _ _ _ =>
    have hi := (holder_mem d hh).2.1
    exact Pass.meets_perform ⟨_, hl _ hi, rfl, rfl, rfl⟩ fun _ => hl.append _
  | delete _ => exact Pass.meets_perform trivial fun _ => hl.append _

theorem meets_liftNetworkGate {i : Instance} (hi : i ∈ l) (hl : Listed l log)
    (hs : d.StagedIn log) : i.liftNetworkGate.Meets (GateSafe (.deployment d))
      (fun _ log => Listed l log ∧ d.StagedIn log) log := by
  rw [Instance.liftNetworkGate]
  split
  · exact Pass.meets_perform ⟨⟨d, rfl, hs⟩, hl i hi, rfl⟩ fun _ => ⟨hl.append _, hs.append _⟩
  · exact ⟨hl, hs⟩

theorem meets_stageNetworks (hl : Listed l log) :
    d.stageNetworks.Meets (GateSafe (.deployment d))
      (fun ready log => Listed l log ∧ (ready = true → d.StagedIn log)) log := by
  have hcalls : d.stageNetworks.Meets (GateSafe (.deployment d)) (fun _ _ => True) log := by
    refine d.only_stageNetworks.meets fun _ c hc => ?_
    cases c <;> trivial
  refine hcalls.ends.imp (fun _ _ h => h) ?_
  rintro ready log' ⟨rest, rfl, hends⟩
  refine ⟨hl.append rest, ?_⟩
  rintro rfl
  exact ⟨log, rest, [], (List.append_nil _).symm, hends⟩

theorem meets_forEach_execute {actions : List Action} (hp : d.plan l = .ok actions)
    (hl : Listed l log) : (Pass.forEach Action.execute actions).Meets (GateSafe (.deployment d))
      (fun _ => Listed l) log := by
  obtain ⟨owner, -, rfl⟩ := exists_plan_eq hp
  rw [forEach_execute_skipAllButFirst]
  split
  · exact hl
  · next a ha => exact meets_execute (step_of_head ((head?_skipAllButFirst _).trans ha)) hl

theorem meets_rollOut :
    (d.rollOut now).Meets (GateSafe (.deployment d)) (fun _ _ => True) log := by
  refine Pass.Meets.bind (P := fun _ _ => True) ?_ fun uid log _ => ?_
  · exact (d.only_requireUid (q := fun _ => false)).meets fun _ c hc => by cases hc
  refine Pass.Meets.bind (P := Listed) (Pass.meets_perform trivial fun l i hi => ?_) ?_
  · rw [listedIn_append, listedIn_singleton]
    exact List.mem_append_right _ hi
  intro l log hl
  refine Pass.Meets.bind (P := fun actions log => d.plan l = .ok actions ∧ Listed l log) ?_ ?_
  · exact Pass.meets_ofExcept fun actions hp => ⟨hp, hl⟩
  rintro actions log ⟨hp, hl⟩
  refine (meets_forEach_execute hp hl).bind fun _ log hl => ?_
  refine (meets_stageNetworks hl).bind ?_
  rintro ready log ⟨hl, hs⟩
  have hreport (log : List Exchange) (status : DeploymentStatus) : Pass.Meets
      (GateSafe (.deployment d)) (fun _ _ => True) (if d.status ≠ some status then do
        perform (.patchDeploymentStatus d status)
        pure awaitChange
      else pure awaitChange) log := by
    split
    · exact ⟨trivial, fun _ => trivial⟩
    · trivial
  simp only
  split
  · next hready =>
    refine Pass.Meets.bind (P := fun _ log => Listed l log ∧ d.StagedIn log) ?_
      fun _ log _ => hreport log _
    exact Pass.meets_forEach (fun i hi log h => meets_liftNetworkGate hi h.1 h.2) ⟨hl, hs hready⟩
  · exact hreport log _

theorem meets_reconcile :
    (d.reconcile now).Meets (GateSafe (.deployment d)) (fun _ _ => True) log :=
  d.meets_reconcile_of now (fun _ => d.only_tearDown.meets fun _ c hc => by cases c <;> trivial)
    (fun _ _ _ => trivial) fun _ _ => meets_rollOut

end Deployment

theorem Task.meets_gateSafe (task : Task) (now : Instant) :
    (task.pass now).Meets (GateSafe task) (fun _ _ => True) [] := by
  cases task with
  | workload w => exact (w.only_reconcile now).meets fun _ c hc => by cases c <;> trivial
  | scheduling d => exact (d.only_schedule now).meets fun _ c hc => by cases c <;> trivial
  | deployment d => exact Deployment.meets_reconcile
  | inst i => exact (Instance.only_reconcile i now).meets fun _ c hc => by cases c <;> trivial

/-! ## Gates step by step -/

/-- What others do to a server. They change what they like, and of the instances all but their
specifications. -/
structure Server.Disturbed (a b : Server) : Prop where
  advances : a.instances.Advances b.instances
  specs : ∀ x ∈ b.instances.objects, ∃ o ∈ a.instances.objects, o.address = x.address ∧
    x.spec = o.spec

theorem Server.Disturbed.refl (a : Server) : a.Disturbed a :=
  ⟨.refl _, fun x hx => ⟨x, hx, rfl, rfl⟩⟩

theorem gates_of_spec {x o : Instance} (h : x.spec = o.spec) : x.gates = o.gates := by
  rw [Instance.gates, Instance.gates, h]

theorem gates_withGates (o : Instance) :
    Instance.gates (Server.withGates (withoutNetwork o.gates) o) = withoutNetwork o.gates := by
  simp only [Instance.gates, Server.withGates]
  cases o.spec.control <;> rfl

namespace System

variable {s t : System} {x : Instance} {w : Nat → System}

/-- A pass on a deployment, which has staged the networks of the deployment with success before,
lifts the network gate from the instance of this address. -/
def Lifts (s t : System) (address : Option String × Option String) : Prop :=
  ∃ j d i, s.Performs j (.setSchedulingGates i (withoutNetwork i.gates)) t ∧
    j.task = .deployment d ∧ d.StagedIn j.log ∧ i.destination = address

/-- Where the gates of an instance come from that is stored after a step. -/
inductive Written (s t : System) (x : Instance) : Prop
  /-- They are those of the instance that was stored before. -/
  | kept {o : Instance} (stored : o ∈ s.server.instances.objects) (address : o.address = x.address)
    (gates : x.gates = o.gates)
  /-- They are those of the instance that was stored before, and the network gate was lifted. -/
  | lifted {o : Instance} (stored : o ∈ s.server.instances.objects)
    (address : o.address = x.address) (lifts : s.Lifts t x.address)
    (gates : x.gates = withoutNetwork o.gates)
  /-- The instance was created by a pass on a deployment, with the network gate alone. -/
  | created {j : Job} {d : Deployment} {i : Instance}
    (performs : s.Performs j (.createInstance i) t) (task : j.task = .deployment d)
    (free : ∀ o ∈ s.server.instances.objects, o.address ≠ x.address)
    (gates : x.gates = [⟨SchedulingGate.network⟩])

theorem written_of_performs {j : Job} {c : Call} (h : s.Orderly GateSafe) (hp : s.Performs j c t)
    (hx : x ∈ t.server.instances.objects) : Written s t x := by
  have hok := h.ok_of_performs hp
  have stays (hx : x ∈ s.server.instances.objects) : Written s t x := .kept hx rfl rfl
  obtain ht | ⟨now, ht⟩ := hp.server_cases
  · rw [ht] at hx
    exact stays hx
  rw [ht] at hx
  cases c with
  | createInstance i =>
    obtain ⟨⟨d, hd⟩, hg⟩ := hok
    rcases Table.mem_create now hx with hx | ⟨hf, ns, name, -, -, rfl⟩
    · exact stays hx
    · exact .created hp hd hf hg
  | replaceInstance r =>
    obtain ⟨i, hi, hd, hv, hg⟩ := hok
    rcases Table.mem_update hx with hx | ⟨o, ho, ha, hod, hov, ns, name, n, rfl⟩
    · exact stays hx
    · have hoi := (h.known_of_performs hp hi).unchanged o ho (hod.trans hd) (hov.trans hv)
      exact .kept ho ha (hg.trans (by rw [hoi]))
  | deleteInstance i =>
    rcases Table.mem_delete now hx with hx | ⟨o, ho, ha, ns, name, n, rfl⟩
    · exact stays hx
    · exact .kept ho ha rfl
  | patchInstanceStatus i status =>
    rcases Table.mem_patch hx with hx | ⟨o, ho, ha, -, -, ns, name, n, rfl⟩
    · exact stays hx
    · exact .kept ho ha rfl
  | setSchedulingGates i gates =>
    obtain ⟨⟨d, hd, hs⟩, hi, rfl⟩ := hok
    rcases Table.mem_patch hx with hx | ⟨o, ho, ha, hod, hov, ns, name, n, rfl⟩
    · exact stays hx
    · cases (h.known_of_performs hp hi).unchanged o ho hod hov
      exact .lifted ho ha ⟨j, d, i, hp, hd, hs, hod.symm.trans ha⟩ (gates_withGates i)
  | _ => exact stays hx

theorem written_of_step (h : s.Orderly GateSafe) (hs : Step Server.Disturbed s t)
    (hx : x ∈ t.server.instances.objects) : Written s t x := by
  cases hs with
  | begins free => exact .kept hx rfl rfl
  | performs hp => exact written_of_performs h hp hx
  | others ho =>
    obtain ⟨o, hm, ha, hs⟩ := ho.specs x hx
    exact .kept hm ha (gates_of_spec hs)

/-- In every run an instance that was not there before holds the network gate, unless it was lifted
since by a pass that had staged the networks of its deployment. Each step leaves the gates of an
instance as they are but for that, and only passes on deployments create instances. -/
theorem network_gate_held (h : Run Server.Disturbed w) :
    (∀ m n (x : Instance), m < n → x ∈ (w n).server.instances.objects →
      (∀ o ∈ (w m).server.instances.objects, o.address ≠ x.address) →
        ⟨SchedulingGate.network⟩ ∈ x.gates ∨
          ∃ k, m < k ∧ k < n ∧ (w k).Lifts (w (k + 1)) x.address) ∧
      ∀ n x, x ∈ (w (n + 1)).server.instances.objects → Written (w n) (w (n + 1)) x := by
  have hwritten (n : Nat) (x : Instance) (hx : x ∈ (w (n + 1)).server.instances.objects) :
      Written (w n) (w (n + 1)) x :=
    written_of_step (h.orderly (fun _ _ ho => ho.advances) Task.meets_gateSafe n) (h.step n) hx
  refine ⟨fun m n x hmn hx hfree => ?_, hwritten⟩
  induction n generalizing x with
  | zero => exact absurd hmn (Nat.not_lt_zero m)
  | succ n ih =>
    -- what is stored at that address after step `m` was created by it
    have earlier {o : Instance} (ho : o ∈ (w n).server.instances.objects)
        (ha : o.address = x.address) : m < n := by
      refine Nat.lt_of_le_of_ne (Nat.le_of_lt_succ hmn) ?_
      rintro rfl
      exact hfree o ho ha
    cases hwritten n x hx with
    | created _ _ _ hg =>
      rw [hg]
      exact .inl List.mem_cons_self
    | lifted ho ha hl _ => exact .inr ⟨n, earlier ho ha, Nat.lt_succ_self n, hl⟩
    | kept ho ha hg =>
      rw [hg, ← ha]
      exact (ih _ (earlier ho ha) ho (ha ▸ hfree)).imp_right fun ⟨k, hmk, hkn, hl⟩ =>
        ⟨k, hmk, Nat.lt_succ_of_lt hkn, hl⟩

/-- A scheduled deployment of one instance, which has no networks to stage. -/
def frontend : Deployment where
  metadata := {
    name := some "frontend"
    ns := some "market"
    uid := some "d7"
    finalizers := some [Deployment.finalizer]
    resourceVersion := some "4" }
  spec := {
    workload := { name := "frontend", uid := "w7" }
    placement := "any"
    cityCode := "LHR"
    scale := { minReplicas := 1 } }
  status := some { location := some { name := "lhr", ns := "sites" } }

/-- Two passes on it, each up to its second call: the first creates the instance, and the second
lifts the gate. -/
def twoPasses : Nat → System :=
  after ⟨.empty, fun _ => none⟩
    [.begin 0 (.deployment frontend) ⟨0, 0⟩, .call 0 ⟨0, 0⟩, .call 0 ⟨0, 0⟩,
      .begin 1 (.deployment frontend) ⟨9, 0⟩, .call 1 ⟨9, 0⟩, .call 1 ⟨9, 0⟩]

/-- An instance without a gate is stored at the end, so its gate was lifted on the way. -/
theorem network_gate_held_twoPasses : Run Server.Disturbed twoPasses ∧
    ∃ x : Instance, x ∈ (twoPasses 6).server.instances.objects ∧ x.gates = [] ∧
      ∃ k, 0 < k ∧ k < 6 ∧ (twoPasses k).Lifts (twoPasses (k + 1)) x.address := by
  have hrun : Run Server.Disturbed twoPasses := run_after Server.Disturbed.refl (fun _ => rfl) (by simp)
  obtain ⟨x, hx, hg⟩ : ∃ x ∈ (twoPasses 6).server.instances.objects, Instance.gates x = [] := by
    decide +kernel
  have hfree : ∀ o ∈ (twoPasses 0).server.instances.objects, o.address ≠ x.address :=
    fun o ho => by cases ho
  have hgate := (network_gate_held hrun).1 0 6 x (by decide) hx hfree
  rw [hg] at hgate
  exact ⟨hrun, x, hx, hg, hgate.resolve_left List.not_mem_nil⟩

end System

end ControlPlane
