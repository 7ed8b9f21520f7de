import ControlPlane.Proofs.Deployment.Bindings
import ControlPlane.Proofs.Rest.Reports
import ControlPlane.Proofs.Writes.Stores

/-!
# What the passes on a deployment write

The scheduler writes the status of a deployment, and there the location, the cluster and the
`Available` condition (`MaySchedule`). The pass that rolls a deployment out writes its finalizers, its
instances and what belongs to its networks, and in its status the counts and the `Available`
condition (`MayWrite`). It changes at most one instance and makes at most one claim
(`atMost_byRollout`, `atMost_claimsSubnet`). The scheduler is done with a deployment that has a
location, and the other pass reports nothing of one that has none.
-/

namespace ControlPlane

open Pass (perform forall_calls_bind forall_calls_perform forall_calls_forEach)

/-- The calls that claim a subnet. -/
def Call.claimsSubnet (c : Call) : Bool :=
  c matches .createSubnetClaim _

namespace Deployment

variable {σ : Type} {answer : Answer σ} {s t : σ} {d : Deployment} {now : Instant}

/-! ## Scheduling -/

/-- What a pass of the scheduler may write. -/
inductive MaySchedule (d : Deployment) : Call → Prop
  | status {location : Option LocationReference} {cluster : Option ClusterReference}
      {conditions : ConditionSet}
      (h : ConditionSet.AgreeBut Condition.available conditions (d.status.getD {}).conditions) :
    MaySchedule d
      (.patchDeploymentStatus d { d.status.getD {} with location, cluster, conditions })

theorem maySchedule_reportUnscheduled {reason message : String} {c : Call}
    (h : c ∈ (d.reportUnscheduled now reason message).calls answer s) : d.MaySchedule c := by
  rw [mem_calls_reportUnscheduled h]
  exact .status (ConditionSet.agreeBut_set (d.status.getD {}).conditions
    (d.unavailable now reason message))

theorem maySchedule_enact (selection : Selection) :
    ∀ c ∈ (d.enact now selection).calls answer s, d.MaySchedule c := by
  cases selection with
  | noLocations =>
    exact forall_calls_bind (fun _ h => maySchedule_reportUnscheduled h) fun _ _ _ => by simp
  | noCandidates =>
    exact forall_calls_bind (fun _ h => maySchedule_reportUnscheduled h) fun _ _ _ => by simp
  | selected l =>
    refine forall_calls_bind (forall_calls_perform ?_) fun _ _ _ => by simp
    exact .status (ConditionSet.agreeBut_set (d.status.getD {}).conditions
      (d.unavailable now "LocationAssigned" "Deployment has been assigned a location."))

/-- What a pass of the scheduler writes. -/
theorem maySchedule_schedule : ∀ c ∈ (d.schedule now).writes answer s, d.MaySchedule c := by
  rw [Pass.forall_writes, schedule_eq]
  split
  · simp
  · have hlist : (perform .listLocations).Only Call.reads := Pass.only_perform rfl
    exact forall_calls_bind hlist.forall_calls_isWrite fun locations t _ c hc _ =>
      maySchedule_enact _ c hc

/-- The scheduler is done with a deployment that has a location. -/
theorem location_of_schedule {c : Call} (h : c ∈ (d.schedule now).calls answer s) :
    d.location = none := by
  rw [schedule_eq] at h
  split at h
  · cases h
  · next hdue =>
    rw [Bool.or_eq_true, not_or] at hdue
    exact Option.not_isSome_iff_eq_none.1 hdue.2

/-! ## What is listed -/

/-- The instances of a deployment, as the store lists them. -/
def listed (answer : Answer σ) (s : σ) (d : Deployment) : List Instance :=
  match d.metadata.uid with
  | none => []
  | some uid =>
    match (answer (.listInstances d.namespaceName uid) s).1 with
    | .ok instances => instances
    | .error _ => []

theorem namespaceName_of_mem_listed (hanswer : answer.Faithful) {i : Instance}
    (hi : i ∈ d.listed answer s) : i.namespaceName = d.namespaceName := by
  unfold listed at hi
  split at hi
  · cases hi
  · split at hi
    · next hlist => exact hanswer.instances _ _ _ _ hlist i hi
    · cases hi

/-- The instances that a pass is given are those that the store lists. -/
theorem eq_listed {uid : String} {instances : List Instance} {u : σ}
    (huid : d.requireUid.run answer s = (.ok uid, t))
    (hlist : (perform (.listInstances d.namespaceName uid)).run answer t = (.ok instances, u)) :
    instances = d.listed answer s := by
  rw [Pass.run_perform] at hlist
  unfold requireUid at huid
  cases h : d.metadata.uid with
  | none =>
    rw [h] at huid
    cases huid
  | some found =>
    rw [h] at huid
    cases huid
    simp only [listed, h, hlist]

theorem reads_listInstances (ns uid : String) : (perform (.listInstances ns uid)).Only Call.reads :=
  Pass.only_perform rfl

/-! ## Rolling out -/

/-- What a pass on a deployment with these instances may write. -/
inductive MayWrite (d : Deployment) (listed : List Instance) : Call → Prop
  | finalizers (finalizers : List String) : MayWrite d listed (.setDeploymentFinalizers d finalizers)
  | status {replicas currentReplicas desiredReplicas readyReplicas : Int32}
      {conditions : ConditionSet} (hdel : d.isDeleting = false) (hlocation : d.location ≠ none)
      (h : ConditionSet.AgreeBut Condition.available conditions (d.status.getD {}).conditions) :
    MayWrite d listed (.patchDeploymentStatus d { d.status.getD {} with
      replicas, currentReplicas, desiredReplicas, readyReplicas, conditions })
  | create {i : Instance} (hdel : d.isDeleting = false) (h : i.namespaceName = d.namespaceName) :
    MayWrite d listed (.createInstance i)
  | replace {i : Instance} (hdel : d.isDeleting = false) (h : i.namespaceName = d.namespaceName) :
    MayWrite d listed (.replaceInstance i)
  | delete {i : Instance} (hi : i ∈ listed) (h : i.namespaceName = d.namespaceName) :
    MayWrite d listed (.deleteInstance i)
  | gates {i : Instance} {gates : List SchedulingGate} (hdel : d.isDeleting = false)
      (hi : i ∈ listed) : MayWrite d listed (.setSchedulingGates i gates)
  | binding {b : NetworkBinding} {index : Nat} (hdel : d.isDeleting = false)
      (hindex : index < d.interfaces.length)
      (h : b.address = (d.metadata.ns, some (NetworkBinding.nameFor d.name index))) :
    MayWrite d listed (.createNetworkBinding b)
  | claim (c : SubnetClaim) (hdel : d.isDeleting = false) : MayWrite d listed (.createSubnetClaim c)

theorem mayWrite_tearDown (hanswer : answer.Faithful) :
    ∀ c ∈ d.tearDown.calls answer s, c.isWrite = true → d.MayWrite (d.listed answer s) c := by
  rw [tearDown]
  split
  · simp
  · refine forall_calls_bind ?_ fun finalized t _ => ?_
    · refine forall_calls_bind d.only_requireUid.forall_calls_isWrite fun uid t huid => ?_
      refine forall_calls_bind (reads_listInstances _ _).forall_calls_isWrite fun instances t hlist => ?_
      obtain rfl := eq_listed huid hlist
      refine forall_calls_bind (forall_calls_forEach fun i hi _ => forall_calls_perform fun _ => ?_)
        fun _ _ _ => by simp
      have hmem := List.mem_of_mem_filter hi
      exact .delete hmem (namespaceName_of_mem_listed hanswer hmem)
    · split
      · exact forall_calls_bind (forall_calls_perform fun _ => .finalizers _) fun _ _ _ => by simp
      · simp

theorem mayWrite_execute {l : List Instance} {owner : OwnerReference} {a : Action}
    (hdel : d.isDeleting = false) (hl : ∀ i ∈ l, i.namespaceName = d.namespaceName)
    (h : Step d owner l a) : ∀ c ∈ a.execute.calls answer s, c.isWrite = true → d.MayWrite l c := by
  cases h with
  | create hk hv => exact forall_calls_perform fun _ => .create hdel rfl
  | wait hh hw => exact fun _ hc => absurd hc List.not_mem_nil
  | @update _ i hh _ _ _ =>
    have hns : i.namespaceName = d.namespaceName := hl i (holder_mem d hh).2.1
    exact forall_calls_perform fun _ => .replace hdel hns
  | @delete i hi =>
    have hmem : i ∈ l := surplus_subset d hi
    exact forall_calls_perform fun _ => .delete hmem (hl i hmem)

theorem mayWrite_forEach_execute {l : List Instance} {actions : List Action}
    (hdel : d.isDeleting = false) (hl : ∀ i ∈ l, i.namespaceName = d.namespaceName)
    (hplan : d.plan l = .ok actions) :
    ∀ c ∈ (Pass.forEach Action.execute actions).calls answer s, c.isWrite = true → d.MayWrite l c := by
  obtain ⟨owner, -, rfl⟩ := exists_plan_eq hplan
  rw [forEach_execute_skipAllButFirst]
  split
  · simp
  · next a ha =>
    have hhead : (skipAllButFirst (d.inOrder owner l)).head? = some a := by
      rwa [head?_skipAllButFirst]
    exact mayWrite_execute hdel hl (step_of_head hhead)

theorem mayWrite_stageNetworks {l : List Instance} (hdel : d.isDeleting = false) :
    ∀ c ∈ d.stageNetworks.calls answer s, c.isWrite = true → d.MayWrite l c := by
  have hmeets : d.stageNetworks.Meets (fun _ c => c.isWrite = true → d.MayWrite l c)
      (fun _ _ => True) [] := by
    refine meets_stageNetworks_of (fun _ _ _ => nofun) (fun _ b hb _ => ?_) fun _ c hc hwrite => ?_
    · obtain ⟨index, haddress, hplace⟩ := hb
      refine .binding hdel ?_ haddress
      by_contra hout
      rw [placeFor?, List.getElem?_eq_none (not_lt.1 hout)] at hplace
      cases hplace
    · cases c with
      | createSubnetClaim claim => exact .claim claim hdel
      | _ => first
        | exact absurd hwrite Bool.false_ne_true
        | exact absurd hc Bool.false_ne_true
  exact hmeets.forall_calls

theorem mayWrite_liftNetworkGate {l : List Instance} (hdel : d.isDeleting = false) :
    ∀ c ∈ (Pass.forEach Instance.liftNetworkGate l).calls answer s,
      c.isWrite = true → d.MayWrite l c := by
  refine forall_calls_forEach fun i hi t => ?_
  rw [Instance.liftNetworkGate]
  split
  · exact forall_calls_perform fun _ => .gates hdel hi
  · simp

theorem mayWrite_advance (hanswer : answer.Faithful) (hdel : d.isDeleting = false) :
    ∀ c ∈ d.advance.calls answer s, c.isWrite = true → d.MayWrite (d.listed answer s) c := by
  refine forall_calls_bind d.only_requireUid.forall_calls_isWrite fun uid t huid => ?_
  refine forall_calls_bind (reads_listInstances _ _).forall_calls_isWrite fun instances t hlist => ?_
  obtain rfl := eq_listed huid hlist
  have hplan : (Pass.ofExcept (d.plan (d.listed answer s))).Only Call.reads := Pass.only_ofExcept _
  refine forall_calls_bind hplan.forall_calls_isWrite fun actions t hactions => ?_
  refine forall_calls_bind (mayWrite_forEach_execute hdel
    (fun i hi => namespaceName_of_mem_listed hanswer hi) (Pass.run_ofExcept_eq_ok hactions))
    fun _ t _ => ?_
  refine forall_calls_bind (mayWrite_stageNetworks hdel) fun ready t _ => ?_
  dsimp only
  split
  · exact forall_calls_bind (mayWrite_liftNetworkGate hdel) fun _ _ _ => by simp
  · simp

theorem agreeBut_progress (summary : ReplicaSummary) (ready : Bool) :
    ConditionSet.AgreeBut Condition.available (d.progress now summary ready).conditions
      (d.status.getD {}).conditions := by
  unfold progress
  cases h : d.availableCondition? now summary ready with
  | none => exact .refl _ _
  | some c =>
    have htype : c.type = Condition.available := by
      unfold availableCondition? at h
      split at h
      · cases h; rfl
      split at h
      · cases h; rfl
      split at h
      · cases h; rfl
      · cases h
    exact htype ▸ ConditionSet.agreeBut_set (d.status.getD {}).conditions c

/-- What a pass on a deployment writes. -/
theorem mayWrite_reconcile (hanswer : answer.Faithful) :
    ∀ c ∈ (d.reconcile now).writes answer s, d.MayWrite (d.listed answer s) c := by
  rw [Pass.forall_writes, reconcile]
  split
  · exact mayWrite_tearDown hanswer
  next hdel =>
  rw [Bool.not_eq_true] at hdel
  split
  · exact forall_calls_bind (forall_calls_perform fun _ => .finalizers _) fun _ _ _ => by simp
  split
  · simp
  next hlocation =>
  rw [Option.isNone_iff_eq_none] at hlocation
  rw [rollOut_eq]
  refine forall_calls_bind (mayWrite_advance hanswer hdel) fun seen t _ c hc _ => ?_
  rw [mem_calls_reportProgress hc]
  exact .status hdel hlocation (agreeBut_progress _ _)

/-! ## How many -/

theorem byRollout_of_reads {c : Call} (h : c.reads = true) : c.byRollout = false := by
  cases c <;> first | rfl | cases h

theorem claimsSubnet_of_reads {c : Call} (h : c.reads = true) : c.claimsSubnet = false := by
  cases c <;> first | rfl | cases h

/-- Holding the finalizer and reporting aside, a pass makes no more calls than a rollout that has come
to its report. -/
theorem atMost_reconcile {q : Call → Bool} {n : Nat} (hdel : d.isDeleting = false)
    (hhold : ∀ finalizers, q (.setDeploymentFinalizers d finalizers) = false)
    (hreport : ∀ status, q (.patchDeploymentStatus d status) = false)
    (h : d.advance.AtMost answer q n) : (d.reconcile now).AtMost answer q n := by
  have honly {c : Call} (hc : q c = false) :
      ((perform c).bind fun _ => .done awaitChange).Only fun c => !q c :=
    Pass.Only.bind (Pass.only_perform (by rw [hc]; rfl)) fun _ => Pass.only_done _
  have hnone : ∀ c, (!q c) = true → q c = false := fun c hc => by simpa using hc
  rw [reconcile, hdel, if_neg Bool.false_ne_true]
  split
  · exact (honly (hhold _)).atMost hnone
  split
  · exact Pass.atMost_done _
  · rw [rollOut_eq]
    refine Pass.AtMost.bind (n := 0) h fun _ seen _ _ => ?_
    unfold reportProgress
    dsimp only
    split
    · exact (honly (hreport _)).atMost hnone
    · exact Pass.atMost_done _

theorem only_liftAll {q : Call → Bool} (hq : ∀ i gates, q (.setSchedulingGates i gates) = true)
    (l : List Instance) : (Pass.forEach Instance.liftNetworkGate l).Only q := by
  refine Pass.only_forEach fun i _ => ?_
  rw [Instance.liftNetworkGate]
  split
  · exact Pass.only_perform (hq _ _)
  · exact Pass.only_done _

/-- What a rollout does once it has staged the networks. -/
theorem atMost_lifted {q : Call → Bool} {n : Nat} (hq : ∀ i gates, q (.setSchedulingGates i gates) = false)
    (l : List Instance) (ready : Bool) :
    (if ready = true then (Pass.forEach Instance.liftNetworkGate l).bind fun _ => .done (l, ready)
      else .done (l, ready) : Pass (List Instance × Bool)).AtMost answer q n := by
  split
  · refine Pass.Only.atMost (r := fun c => !q c) ?_ fun c hc => by simpa using hc
    exact (only_liftAll (fun i gates => by rw [hq]; rfl) l).bind fun _ => Pass.only_done _
  · exact Pass.atMost_done _

theorem atMost_forEach_execute {l : List Instance} {actions : List Action}
    (hplan : d.plan l = .ok actions) :
    (Pass.forEach Action.execute actions).AtMost answer Call.byRollout 1 := by
  obtain ⟨owner, -, rfl⟩ := exists_plan_eq hplan
  rw [forEach_execute_skipAllButFirst]
  split
  · exact Pass.atMost_done _
  · rw [Action.execute]
    split
    · exact Pass.atMost_done _
    · split <;> first | exact Pass.atMost_perform _ | exact Pass.atMost_done _

/-- A pass on a deployment that is not being deleted changes at most one instance. -/
theorem atMost_byRollout (hdel : d.isDeleting = false) :
    (d.reconcile now).AtMost answer Call.byRollout 1 := by
  refine atMost_reconcile hdel (fun _ => rfl) (fun _ => rfl) ?_
  have hread : ∀ c, Call.reads c = true → c.byRollout = false := fun _ => byRollout_of_reads
  refine Pass.Only.atMost_bind d.only_requireUid hread fun _ uid _ _ => ?_
  refine Pass.Only.atMost_bind (reads_listInstances _ _) hread fun _ instances _ _ => ?_
  refine Pass.Only.atMost_bind (Pass.only_ofExcept _) hread fun _ actions _ hplan => ?_
  refine Pass.AtMost.bind (n := 0) (atMost_forEach_execute (Pass.run_ofExcept_eq_ok hplan))
    fun _ _ _ _ => ?_
  refine d.only_stageNetworks.atMost_bind (fun c hc => ?_) fun _ ready _ _ => ?_
  · cases c <;> first | rfl | cases hc
  · exact atMost_lifted (fun _ _ => rfl) instances ready

theorem atMost_claimSubnet (context : NetworkContext) (location : LocationReference) :
    (claimSubnet context location).AtMost answer Call.claimsSubnet 1 := by
  rw [claimSubnet]
  split
  · exact Pass.atMost_perform _
  · exact Pass.atMost_abort _

/-- Where staging a subnet makes a claim, the subnet is not ready. -/
theorem atMost_stageSubnet_bind {α : Type} {f : Bool → Pass α} {location : LocationReference}
    {context : ContextReference} (hready : (f true).AtMost answer Call.claimsSubnet 1)
    (hnot : (f false).AtMost answer Call.claimsSubnet 0) :
    ((stageSubnet location context).bind f).AtMost answer Call.claimsSubnet 1 := by
  have hread : ∀ c, Call.reads c = true → c.claimsSubnet = false := fun _ => claimsSubnet_of_reads
  have hnot' : (f false).AtMost answer Call.claimsSubnet 1 := hnot.mono (Nat.zero_le 1)
  rw [stageSubnet, Pass.bind_eq, Pass.bind_assoc]
  refine Pass.Only.atMost_bind (Pass.only_perform rfl) hread fun _ found _ _ => ?_
  cases found with
  | none => exact hnot'
  | some found =>
    dsimp only
    split
    · exact hnot'
    rw [Pass.bind_eq, Pass.bind_assoc]
    refine Pass.Only.atMost_bind (Pass.only_perform rfl) hread fun _ claims _ _ => ?_
    split
    · rw [Pass.bind_eq, Pass.bind_assoc]
      exact (atMost_claimSubnet found location).bind fun _ _ _ _ => hnot
    · split
      · exact hnot'
      split
      · exact hnot'
      · rw [Pass.bind_eq, Pass.bind_assoc]
        refine Pass.Only.atMost_bind (Pass.only_perform rfl) hread fun _ subnet _ _ => ?_
        cases subnet with
        | none => exact hnot'
        | some subnet =>
          dsimp only [Pass.pure_eq, Pass.done_bind]
          cases Subnet.isReady subnet
          · exact hnot'
          · exact hready

theorem atMost_stageSubnets (location : LocationReference) (contexts : List ContextReference) :
    (stageSubnets location contexts).AtMost answer Call.claimsSubnet 1 := by
  induction contexts with
  | nil => exact Pass.atMost_done _
  | cons context rest ih => exact atMost_stageSubnet_bind ih (Pass.atMost_done _)

theorem atMost_stageNetworks : d.stageNetworks.AtMost answer Call.claimsSubnet 1 := by
  have hbindings (ns : String) (location : LocationReference) (index : Nat)
      (l : List NetworkInterface) :
      (d.stageBindings ns location index l).Only fun c => !c.claimsSubnet := by
    induction l generalizing index with
    | nil => exact Pass.only_done _
    | cons i rest ih =>
      refine Pass.Only.bind (Pass.Only.bind (Pass.only_perform rfl) fun found => ?_) fun _ =>
        (ih (index + 1)).bind fun _ => Pass.only_done _
      cases found with
      | some found => exact Pass.only_done _
      | none =>
        dsimp only
        split
        · exact Pass.only_perform rfl
        · exact Pass.only_abort _
  rw [stageNetworks]
  split
  · exact Pass.atMost_done _
  split
  · exact Pass.atMost_abort _
  refine (hbindings _ _ _ _).atMost_bind (fun c hc => by simpa using hc) fun _ bindings _ _ => ?_
  split
  · exact atMost_stageSubnets _ _
  · exact Pass.atMost_done _

/-- A pass on a deployment makes at most one claim. -/
theorem atMost_claimsSubnet : (d.reconcile now).AtMost answer Call.claimsSubnet 1 := by
  cases hdel : d.isDeleting with
  | true =>
    rw [reconcile, if_pos hdel]
    exact d.only_tearDown.atMost fun c hc => by cases c <;> first | rfl | cases hc
  | false =>
  refine atMost_reconcile hdel (fun _ => rfl) (fun _ => rfl) ?_
  have hread : ∀ c, Call.reads c = true → c.claimsSubnet = false := fun _ => claimsSubnet_of_reads
  refine Pass.Only.atMost_bind d.only_requireUid hread fun _ uid _ _ => ?_
  refine Pass.Only.atMost_bind (reads_listInstances _ _) hread fun _ instances _ _ => ?_
  refine Pass.Only.atMost_bind (Pass.only_ofExcept _) hread fun _ actions _ _ => ?_
  have hexecute : (Pass.forEach Action.execute actions).Only Call.byRollout :=
    Pass.only_forEach fun a _ => a.only_execute
  refine hexecute.atMost_bind (fun c hc => ?_) fun _ _ _ _ => ?_
  · cases c <;> first | rfl | cases hc
  refine Pass.AtMost.bind (n := 0) atMost_stageNetworks fun _ ready _ _ => ?_
  exact atMost_lifted (fun _ _ => rfl) instances ready

end Deployment

end ControlPlane
