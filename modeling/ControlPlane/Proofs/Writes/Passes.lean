import ControlPlane.Proofs.Rest.Fidelity
import ControlPlane.Proofs.Writes.Deployments
import ControlPlane.Proofs.Writes.Workloads

/-!
# Who writes what

Each of the four controllers has its own share of what is stored, and keeps to it whatever the store
holds (`Task.shares`). The scheduler and the pass that rolls deployments out write to the same status:
the one as long as the deployment has no location, the other from then on.
-/

namespace ControlPlane

open Pass (perform forall_calls_bind forall_calls_perform)

namespace Instance

/-- What a pass on an instance may write. -/
inductive MayWrite (i : Instance) : Call → Prop
  | status {conditions : ConditionSet}
      (h : ConditionSet.AgreeBut Condition.ready conditions (i.status.getD {}).conditions) :
    MayWrite i (.patchInstanceStatus i { i.status.getD {} with conditions })

/-- What a pass on an instance writes. -/
theorem mayWrite_reconcile {σ : Type} {answer : Answer σ} {s : σ} {i : Instance} {now : Instant} :
    ∀ c ∈ (i.reconcile now).writes answer s, i.MayWrite c := by
  rw [Pass.forall_writes]
  cases hdel : i.isDeleting with
  | true =>
    rw [reconcile, if_pos hdel]
    simp
  | false =>
    have hgated : i.gatedFailure.Only Call.reads := i.only_gatedFailure (fun _ _ => rfl) fun _ _ => rfl
    rw [reconcile_eq now hdel]
    refine forall_calls_bind hgated.forall_calls_isWrite fun failure t _ => ?_
    dsimp only
    split
    · have hagree := ConditionSet.agreeBut_set (i.status.getD {}).conditions
        (i.readyCondition now failure)
      rw [type_readyCondition] at hagree
      exact forall_calls_bind (forall_calls_perform fun _ => .status hagree) fun _ _ _ => by simp
    · simp

end Instance

namespace Deployment

variable {σ τ : Type} {answer : Answer σ} {s : σ} {d : Deployment} {now : Instant} {c : Call}

/-- A pass that reports the progress of a deployment finds it with a location. -/
theorem location_of_reconcile (hanswer : answer.Faithful)
    (h : c ∈ (d.reconcile now).calls answer s) (hreport : c.reportsStatus = true) :
    d.location ≠ none := by
  have hwrite : c.isWrite = true := by cases c <;> first | rfl | cases hreport
  have hmay := mayWrite_reconcile hanswer c (List.mem_filter.2 ⟨h, hwrite⟩)
  cases hmay with
  | status _ hlocation _ => exact hlocation
  | _ => cases hreport

end Deployment

/-- Over any faithful store, whatever it holds:

* A pass on a workload writes the finalizers and the status of that workload, and deployments of its
  namespace. While a network that the workload refers to is missing, no network having a slash in its
  name, or while there is no location, a pass on a workload that is not being deleted and holds its
  finalizer writes one status at most, which differs from the one before in the `Available` condition
  at most.
* A pass of the scheduler writes the status of the deployment, and there the location, the cluster and
  the `Available` condition.
* A pass on a deployment writes the finalizers of that deployment, its status as far as it counts
  instances and has an `Available` condition, but only with a location and while it is not being
  deleted, instances of its namespace, gates of instances that were listed, bindings of its
  interfaces and one claim at most. While it is being deleted, instances that were listed are deleted,
  and otherwise at most one instance is created, replaced or deleted.
* A pass on an instance writes the status of that instance, and there the `Ready` condition.

No deployment as it was read is reported on by both the scheduler and the pass that rolls it out,
whenever they run and whatever the store holds then. -/
theorem Task.shares {σ : Type} {answer : Answer σ} (hanswer : answer.Faithful) (s : σ)
    (now : Instant) :
    (∀ w : Workload, (∀ c ∈ (w.reconcile now).writes answer s, w.MayWrite c) ∧
      (w.isDeleting = false → Workload.finalizer ∈ w.finalizers →
        (∀ ns name, '/' ∈ name.toList → (answer (.getNetwork ns name) s).1 = .ok none) →
        w.LacksNetwork answer s ∨ (answer .listLocations s).1 = .ok [] →
          (w.reconcile now).writes answer s = [] ∨ ∃ conditions,
            ConditionSet.AgreeBut Condition.available conditions (w.status.getD {}).conditions ∧
              (w.reconcile now).writes answer s =
                [.patchWorkloadStatus w { w.status.getD {} with conditions }])) ∧
    (∀ d : Deployment, ∀ c ∈ (d.schedule now).writes answer s, d.MaySchedule c) ∧
    (∀ d : Deployment,
      (∀ c ∈ (d.reconcile now).writes answer s, d.MayWrite (d.listed answer s) c) ∧
      (d.isDeleting = false → ((d.reconcile now).writes answer s).countP Call.byRollout ≤ 1) ∧
      ((d.reconcile now).writes answer s).countP Call.claimsSubnet ≤ 1) ∧
    (∀ i : Instance, ∀ c ∈ (i.reconcile now).writes answer s, i.MayWrite c) ∧
    ∀ (d : Deployment) (later : Instant) (t : σ),
      ¬ ((∃ c ∈ (d.schedule now).calls answer s, c.reportsStatus = true) ∧
        ∃ c ∈ (d.reconcile later).calls answer t, c.reportsStatus = true) := by
  refine ⟨fun w => ⟨Workload.mayWrite_reconcile hanswer, fun hdel hfin hnames hheld => ?_⟩,
    fun d => Deployment.maySchedule_schedule, fun d => ⟨Deployment.mayWrite_reconcile hanswer,
      fun hdel => ?_, Deployment.atMost_claimsSubnet.countP_writes s⟩,
    fun i => Instance.mayWrite_reconcile, ?_⟩
  · exact Workload.writes_of_held hanswer hnames hdel hfin hheld
  · exact (Deployment.atMost_byRollout hdel).countP_writes s
  · rintro d later t ⟨⟨c, hc, -⟩, c', hc', hreport⟩
    exact Deployment.location_of_reconcile hanswer hc' hreport (Deployment.location_of_schedule hc)

/-- A workload whose network is missing is reported on, and nothing else is written. For a deployment
that has no instance yet one is created. What the scheduler has placed, and no pass has reported on
yet, is reported on by the other pass only. -/
theorem Task.shares_branch :
    let answer := Server.answer ⟨0, 0⟩
    let vacant := Workload.waitingDeployment "d3"
    let placed := { Workload.waitingDeployment "d1" with
      status := some { location := some ⟨"dallas", "sites"⟩ } }
    (∃ conditions,
      ConditionSet.AgreeBut Condition.available conditions (usingLan.status.getD {}).conditions ∧
        (usingLan.reconcile ⟨0, 0⟩).writes answer Workload.branchServer =
          [.patchWorkloadStatus usingLan { usingLan.status.getD {} with conditions }]) ∧
    ((vacant.reconcile ⟨0, 0⟩).writes answer Workload.branchServer).countP Call.byRollout = 1 ∧
    (∃ c ∈ (Deployment.reconcile placed ⟨0, 0⟩).calls answer Workload.branchServer,
      c.reportsStatus = true) ∧
    ∀ c ∈ (Deployment.schedule placed ⟨0, 0⟩).calls answer Workload.branchServer,
      c.reportsStatus = false := by
  intro answer vacant placed
  obtain ⟨hworkloads, -, hdeployments, -, hboth⟩ :=
    Task.shares (Server.faithful ⟨0, 0⟩) Workload.branchServer ⟨0, 0⟩
  have hheld : usingLan.LacksNetwork answer Workload.branchServer :=
    ⟨⟨⟨"lan", none⟩, none⟩, List.mem_singleton_self _, rfl⟩
  have hreports : ((usingLan.reconcile ⟨0, 0⟩).writes answer Workload.branchServer).length = 1 := by
    decide +kernel
  have hcreates :
      0 < ((vacant.reconcile ⟨0, 0⟩).writes answer Workload.branchServer).countP Call.byRollout := by
    decide +kernel
  have hrolledOut : ∃ c ∈ (Deployment.reconcile placed ⟨0, 0⟩).calls answer Workload.branchServer,
      c.reportsStatus = true := by
    decide +kernel
  refine ⟨?_, ((hdeployments vacant).2.1 (by decide +kernel)).antisymm hcreates, hrolledOut,
    fun c hc => ?_⟩
  · refine ((hworkloads usingLan).2 rfl (List.mem_singleton_self _) (fun _ _ _ => rfl)
      (.inl hheld)).resolve_left fun hnil => ?_
    rw [hnil] at hreports
    cases hreports
  · exact Bool.eq_false_iff.2 fun hreport =>
      hboth placed ⟨0, 0⟩ Workload.branchServer ⟨⟨c, hc, hreport⟩, hrolledOut⟩

end ControlPlane
