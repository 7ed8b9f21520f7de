import ControlPlane.Proofs.Meta.History
import ControlPlane.Proofs.Rest.Reports
import ControlPlane.Proofs.Watch.Networks

/-!
# What an instance is told of its networks

While a gate is held on an instance, a pass on it looks through the bindings of its deployment, and
reports the first of them whose network could not be made. Passes on instances begin only when an
instance was added or changed (`exists_pass_iff`), and no pass asks to be run again. So a binding that
fails after a pass has looked at it is not reported until the instance itself is changed
(`failure_told_iff`).

* `firstFailure_cons`, `calls_firstFailure_cons`: one step of the search for a failed binding.
* `gatedFailure_of_fails`: a pass that has read a binding finds it once it has failed.
-/

namespace ControlPlane

open Pass (perform run_bind_of_ok mem_calls_bind mem_calls_perform requeue_bind requeue_done)

namespace Server

/-- The message of the binding of that name, if there is one and its network could not be made. -/
def failure? (s : Server) (ns name : String) : Option String :=
  (s.bindings.find? ns name).bind NetworkBinding.failure?

/-- The binding of that name has come to have failed, and nothing else has changed that passes on
instances look at. -/
structure Fails (s s' : Server) (ns name : String) (b : NetworkBinding) (message : String) :
    Prop where
  deployments : s'.deployments = s.deployments
  others : ∀ other ≠ name, s'.bindings.find? ns other = s.bindings.find? ns other
  found : s'.bindings.find? ns name = some b
  failed : NetworkBinding.failure? b = some message

variable {s s' : Server} {ns name message : String} {b : NetworkBinding}

theorem Fails.failure? (h : s.Fails s' ns name b message) : s'.failure? ns name = some message := by
  rw [Server.failure?, h.found, Option.bind_some, h.failed]

theorem Fails.failure?_of_ne (h : s.Fails s' ns name b message) {other : String}
    (hne : other ≠ name) : s'.failure? ns other = s.failure? ns other := by
  rw [Server.failure?, Server.failure?, h.others other hne]

end Server

namespace Instance

variable {i : Instance} {s s' t : Server} {now later : Instant} {ns name message : String}
  {b : NetworkBinding} {scope : Option String}

/-! ## What a pass reads -/

/-- The search for a failed binding ends with the first that has failed. -/
theorem firstFailure_cons (ns name : String) (rest : List String) :
    firstFailure ns (name :: rest) = (perform (.getNetworkBinding ns name)).bind fun found =>
      match found.bind NetworkBinding.failure? with
      | some message => .done (some message)
      | none => firstFailure ns rest := by
  refine congrArg (Pass.bind _) (funext fun found => ?_)
  cases found with
  | none => rfl
  | some b =>
    rw [Option.bind_some]
    dsimp only
    cases NetworkBinding.failure? b <;> rfl

theorem run_getNetworkBinding : (perform (.getNetworkBinding ns name)).run (Server.answer now) s =
    (.ok (s.bindings.find? ns name), s) :=
  Pass.run_perform ..

theorem firstFailure_cons_run (ns name : String) (rest : List String) :
    (firstFailure ns (name :: rest)).run (Server.answer now) s =
      match s.failure? ns name with
      | some message => (.ok (some message), s)
      | none => (firstFailure ns rest).run (Server.answer now) s := by
  rw [firstFailure_cons, run_bind_of_ok run_getNetworkBinding, ← Server.failure?]
  cases s.failure? ns name <;> rfl

theorem calls_firstFailure_cons (ns name : String) (rest : List String) :
    (firstFailure ns (name :: rest)).calls (Server.answer now) s =
      .getNetworkBinding ns name :: match s.failure? ns name with
        | some _ => []
        | none => (firstFailure ns rest).calls (Server.answer now) s := by
  rw [firstFailure_cons, Pass.calls_bind, Pass.calls_perform, run_getNetworkBinding]
  dsimp only
  rw [← Server.failure?]
  cases s.failure? ns name <;> rfl

/-- A search that has come to a binding stops there once the binding has failed. -/
theorem firstFailure_of_fails {names : List String} (hfails : s.Fails s' ns name b message)
    (h : .getNetworkBinding ns name ∈ (firstFailure ns names).calls (Server.answer now) s) :
    (firstFailure ns names).run (Server.answer later) s' = (.ok (some message), s') := by
  induction names with
  | nil => cases h
  | cons first rest ih =>
    rw [firstFailure_cons_run]
    by_cases hfirst : first = name
    · rw [hfirst, hfails.failure?]
    · rw [calls_firstFailure_cons, List.mem_cons] at h
      obtain h | h := h
      · cases h
        exact absurd rfl hfirst
      · rw [hfails.failure?_of_ne hfirst]
        cases hfailure : s.failure? ns first with
        | some m =>
          rw [hfailure] at h
          cases h
        | none =>
          rw [hfailure] at h
          exact ih h

/-- Bindings are read in the search for a failed one, once the deployment is found. -/
theorem exists_search_of_networkFailure
    (h : .getNetworkBinding ns name ∈ i.networkFailure.calls (Server.answer now) s) :
    ∃ owner d, i.controllingDeployment? = some owner ∧
      s.deployments.find? i.namespaceName owner.name = some d ∧
      .getNetworkBinding ns name ∈ (firstFailure i.namespaceName ((List.range
        (Deployment.interfaces d).length).map (NetworkBinding.nameFor d.name))).calls
          (Server.answer now) s := by
  unfold networkFailure at h
  split at h
  · cases h
  next owner howner =>
  obtain h | ⟨found, t, hget, h⟩ := mem_calls_bind.1 h
  · cases mem_calls_perform.1 h
  rw [Pass.run_perform] at hget
  cases hget
  cases hd : s.deployments.find? i.namespaceName owner.name with
  | none =>
    rw [hd] at h
    cases h
  | some d =>
    rw [hd] at h
    exact ⟨owner, d, howner, hd, h⟩

/-- They are read only while a gate is held. -/
theorem gates_of_reads
    (h : .getNetworkBinding ns name ∈ (i.reconcile now).calls (Server.answer now) s) :
    i.isDeleting = false ∧ i.gates.isEmpty = false ∧
      .getNetworkBinding ns name ∈ i.networkFailure.calls (Server.answer now) s := by
  cases hdel : i.isDeleting with
  | true =>
    rw [reconcile, hdel] at h
    cases h
  | false =>
    rw [reconcile_eq now hdel] at h
    obtain h | ⟨failure, t, -, h⟩ := mem_calls_bind.1 h
    · unfold gatedFailure at h
      split at h
      · cases h
      · next hgates => exact ⟨rfl, Bool.not_eq_true _ ▸ hgates, h⟩
    · dsimp only at h
      split at h
      · obtain h | ⟨_, _, _, h⟩ := mem_calls_bind.1 h
        · cases mem_calls_perform.1 h
        · cases h
      · cases h

/-- The search goes through the bindings of one namespace. -/
theorem ns_of_reads {names : List String} {searched : String}
    (h : .getNetworkBinding ns name ∈ (firstFailure searched names).calls (Server.answer now) s) :
    searched = ns := by
  induction names with
  | nil => cases h
  | cons first rest ih =>
    rw [calls_firstFailure_cons, List.mem_cons] at h
    obtain h | h := h
    · cases h
      rfl
    · split at h
      · cases h
      · exact ih h

/-- A pass that has read a binding finds it once it has failed. -/
theorem gatedFailure_of_fails (hfails : s.Fails s' ns name b message)
    (h : .getNetworkBinding ns name ∈ (i.reconcile now).calls (Server.answer now) s) :
    i.gatedFailure.run (Server.answer later) s' = (.ok (some message), s') := by
  obtain ⟨-, hgates, hreads⟩ := gates_of_reads h
  obtain ⟨owner, d, howner, hd, hsearch⟩ := exists_search_of_networkFailure hreads
  obtain rfl := ns_of_reads hsearch
  have hget : (perform (.getDeployment i.namespaceName owner.name)).run (Server.answer later) s' =
      (.ok (some d), s') := by
    rw [Pass.run_perform, Server.answer, hfails.deployments, hd]
  rw [gatedFailure, hgates, if_neg Bool.false_ne_true, networkFailure, howner]
  exact (run_bind_of_ok hget _).trans (firstFailure_of_fails hfails hsearch)

/-! ## What a pass reports -/

/-- A status tells that a network could not be made, and why. -/
def Tells (status : InstanceStatus) (message : String) : Prop :=
  ∃ c, status.conditions.get? Condition.ready = some c ∧ c.status = Condition.fails ∧
    c.reason = NetworkBinding.failedToCreate ∧ c.message = message

/-- What a pass that finds a failed binding files. -/
theorem readyCondition_some (hgates : i.gates.isEmpty = false) (message : String) :
    i.readyCondition now (some message) =
      i.observe now Condition.ready Condition.fails NetworkBinding.failedToCreate message := by
  rw [readyCondition, hgates]
  rfl

/-- A pass that finds a failed binding reports it, unless the status tells it already. -/
theorem exists_report (hdel : i.isDeleting = false) (hgates : i.gates.isEmpty = false)
    (hfailure : i.gatedFailure.run (Server.answer now) s = (.ok (some message), s))
    (huntold : ¬ Tells (i.status.getD {}) message) :
    ∃ status, Tells status message ∧
      .patchInstanceStatus i status ∈ (i.reconcile now).calls (Server.answer now) s := by
  have hfiled := ConditionSet.exists_get?_set (i.status.getD {}).conditions
    (i.readyCondition now (some message))
  rw [readyCondition_some hgates] at hfiled
  obtain ⟨u, hfiled⟩ := hfiled
  have htells : Tells { i.status.getD {} with
      conditions := ((i.status.getD {}).conditions.set
        (i.observe now Condition.ready Condition.fails NetworkBinding.failedToCreate message)).1 }
      message :=
    ⟨_, hfiled, rfl, rfl, rfl⟩
  refine ⟨_, htells, ?_⟩
  -- were the observation no news, the status would tell the failure before it was filed
  have hnews : ((i.status.getD {}).conditions.set
      (i.observe now Condition.ready Condition.fails NetworkBinding.failedToCreate message)).2 =
        true := by
    rw [ConditionSet.set_snd_iff]
    intro hsame
    rw [hsame] at htells
    exact huntold htells
  rw [reconcile_eq now hdel]
  refine mem_calls_bind.2 (.inr ⟨_, _, hfailure, ?_⟩)
  dsimp only
  rw [readyCondition_some hgates, if_pos hnews]
  exact mem_calls_bind.2 (.inl (mem_calls_perform.2 rfl))

/-- A pass on an instance does not ask to be run again without a change. -/
theorem requeue_reconcile {requeue : Requeue}
    (h : (i.reconcile now).run (Server.answer later) s = (.ok requeue, t)) :
    requeue = awaitChange := by
  cases hdel : i.isDeleting with
  | true =>
    rw [reconcile, hdel] at h
    exact requeue_done h
  | false =>
    rw [reconcile_eq now hdel] at h
    refine requeue_bind (fun failure s t h => ?_) h
    dsimp only at h
    split at h
    · exact requeue_bind (fun _ _ _ => requeue_done) h
    · exact requeue_done h

end Instance

/-! ## What calls for a pass -/

/-- An instance with the key is made or changed, where the controller sees it. -/
def WatchEvent.Renews (e : WatchEvent) (key : String) (scope : Option String) : Prop :=
  e.change ≠ .deleted ∧
    ∃ i, e.resource = .inst i ∧ i.metadata.isIn scope = true ∧ i.isDeleting = false ∧ i.key = key

namespace Instance

variable {i : Instance} {scope : Option String} {watching : Watching InstanceSpec InstanceStatus}
  {key : String}

theorem watches_takesAsIs : Watches.TakesAsIs Instance.watches := by
  intro r x h
  cases r <;> cases h
  rfl

theorem needsPass_iff : Instance.watches.needsPass i = true ↔ i.isDeleting = false := by
  simp [Instance.watches]

/-- The changes that reach the instances are those to instances where the controller sees them. -/
theorem mem_update_iff (hp : watching.primary = some ⟨.inst, scope⟩) {change : Change}
    {r : AnyResource} : i ∈ (Instance.watches.update watching ⟨change, r⟩).1 ↔
      change ≠ .deleted ∧ r = .inst i ∧ i.metadata.isIn scope = true := by
  rw [Watches.update, hp, Option.any_some]
  cases r
  case inst j =>
    have hholds : Collection.holds ⟨.inst, scope⟩ (.inst j) = j.metadata.isIn scope :=
      Bool.true_and _
    have hread : Instance.watches.read? (.inst j) = some j := rfl
    rw [hholds, hread]
    by_cases hin : j.metadata.isIn scope = true
    · rw [if_pos hin]
      cases change
      case deleted => simp
      all_goals
        simp only [List.mem_singleton, ne_eq, reduceCtorEq, not_false_eq_true, true_and,
          AnyResource.inst.injEq]
        exact ⟨fun e => ⟨e.symm, e ▸ hin⟩, fun e => e.1.symm⟩
    · rw [if_neg hin]
      refine iff_of_false List.not_mem_nil ?_
      rintro ⟨-, he, hi⟩
      cases he
      exact hin hi
  all_goals simp [Collection.holds, AnyResource.kind]

/-- One change calls for a pass on an instance exactly when it renews the instance. -/
theorem mem_handle_iff (hp : watching.primary = some ⟨.inst, scope⟩) (ho : watching.owned = [])
    (e : WatchEvent) : key ∈ (Instance.watches.handle watching e).1 ↔ e.Renews key scope := by
  have howners (cache : List Instance) :
      Watches.owners { watching with cache } e.resource = [] := by
    simp [Watches.owners, ho]
  have hpasses : (Instance.watches.handle watching e).1 =
      Instance.watches.passes (Instance.watches.update watching e).1 := by
    rw [Watches.handle]
    dsimp only
    rw [howners, List.append_nil]
    exact congrArg Instance.watches.passes (List.append_nil _)
  obtain ⟨change, r⟩ := e
  rw [hpasses, Watches.mem_passes]
  simp only [mem_update_iff hp, needsPass_iff, WatchEvent.Renews]
  constructor
  · rintro ⟨i, ⟨hchange, hr, hin⟩, hdel, hkey⟩
    exact ⟨hchange, i, hr, hin, hdel, hkey⟩
  · rintro ⟨hchange, i, hr, hin, hdel, hkey⟩
    exact ⟨i, ⟨hchange, hr, hin⟩, hdel, hkey⟩

/-- The passes on an instance that several changes call for begin when the instance is renewed. -/
theorem exists_pass_iff (hp : watching.primary = some ⟨.inst, scope⟩) (ho : watching.owned = [])
    (events : List WatchEvent) :
    (∃ keys ∈ Instance.watches.handleAll watching events, key ∈ keys) ↔
      ∃ e ∈ events, e.Renews key scope := by
  induction events generalizing watching with
  | nil => simp [Watches.handleAll]
  | cons e rest ih =>
    have hrest := @ih (Instance.watches.handle watching e).2 hp ho
    simp only [Watches.handleAll, List.mem_cons, exists_eq_or_imp, mem_handle_iff hp ho, hrest]

/-- What the controller of instances follows, once it has an instance. -/
theorem follows_of_mem_cache (hw : watching.Within Instance.watches scope)
    (hi : i ∈ watching.cache) : watching.primary = some ⟨.inst, scope⟩ ∧ watching.owned = [] := by
  obtain rfl | hfollows := hw.follows
  · cases hi
  · exact hfollows

/-- A controller has an instance, and a pass on it has read a binding, which then fails. No pass
asks to be run again, and a pass begun now would report the failure. But the change to the binding
calls for no pass on the instance, and what happens later calls for one only when the instance itself
is renewed. -/
theorem failure_told_iff {present : List AnyResource} {events : List WatchEvent} {s s' : Server}
    {ns name message : String} {b : NetworkBinding} {now : Instant}
    (hscope : scope.all isNamespaceName = true)
    (hi : i ∈ (Instance.watches.after scope present events).cache)
    (hreads : .getNetworkBinding ns name ∈ (i.reconcile now).calls (Server.answer now) s)
    (hfails : s.Fails s' ns name b message) :
    (∀ later requeue t t', (i.reconcile later).run (Server.answer later) t = (.ok requeue, t') →
      requeue = awaitChange) ∧
    (¬ Tells (i.status.getD {}) message → ∀ later, ∃ status, Tells status message ∧
      .patchInstanceStatus i status ∈ (i.reconcile later).calls (Server.answer later) s') ∧
    ∀ change (later : List WatchEvent),
      (∃ keys ∈ Instance.watches.handleAll (Instance.watches.after scope present events)
          (⟨change, .networkBinding b⟩ :: later), i.key ∈ keys) ↔
        ∃ e ∈ later, e.Renews i.key scope := by
  obtain ⟨hdel, hgates, -⟩ := gates_of_reads hreads
  have hw := Watches.within_after watches_takesAsIs hscope present events
  obtain ⟨hp, ho⟩ := follows_of_mem_cache hw hi
  refine ⟨fun later requeue t t' => requeue_reconcile, fun huntold later => ?_,
    fun change later => ?_⟩
  · exact exists_report hdel hgates (gatedFailure_of_fails hfails hreads) huntold
  · rw [exists_pass_iff hp ho]
    simp [WatchEvent.Renews]

/-- An instance of a deployment, held back until its network is ready. -/
def heldBack : Instance where
  metadata := {
    name := some "web-0"
    ns := some "shop"
    ownerReferences := some [
      { apiVersion := "compute.datumapis.com/v1alpha"
        kind := "WorkloadDeployment"
        name := "web"
        controller := some true }] }
  spec := { control := some { templateHash := "t", gates := [⟨SchedulingGate.network⟩] } }

/-- The binding of the deployment's interface, whose network could not be made. -/
def failedBinding : NetworkBinding :=
  { Deployment.awaitedBinding with
    status := some ⟨none, Keyed.empty.insert (.at ⟨0, 0⟩ Condition.ready Condition.fails
      NetworkBinding.failedToCreate "subnet range exhausted")⟩ }

/-- The server that holds the deployment and a binding of its interface. -/
def boundServer (b : NetworkBinding) : Server :=
  { Server.empty with
    deployments := Table.empty.add "shop" "web" (Deployment.withInterface ⟨"dfw", "infra"⟩)
      (Table.find?_empty ..)
    bindings := Table.empty.add "shop" "web-net-0" b (Table.find?_empty ..) }

theorem boundServer_fails :
    (boundServer Deployment.awaitedBinding).Fails (boundServer failedBinding) "shop" "web-net-0"
      (failedBinding.stamp "shop" "web-net-0" 1) "subnet range exhausted" where
  deployments := rfl
  others other hne := by
    have haddress : ("shop", other) ≠ ("shop", "web-net-0") := fun e => hne (Prod.mk.inj e).2
    exact (Table.find?_add_of_ne rfl haddress).trans (Table.find?_add_of_ne rfl haddress).symm
  found := rfl
  failed := by decide +kernel

theorem reads_heldBack : .getNetworkBinding "shop" "web-net-0" ∈
    (heldBack.reconcile ⟨0, 0⟩).calls (Server.answer ⟨0, 0⟩)
      (boundServer Deployment.awaitedBinding) :=
  List.mem_of_getElem? (i := 1) rfl

/-- The instance would be told why it is held back, but no pass begins before it is changed itself. -/
theorem failure_told_iff_heldBack :
    let watching := Instance.watches.after (some "shop") [.inst heldBack] []
    let failed : NetworkBinding := failedBinding.stamp "shop" "web-net-0" 1
    heldBack ∈ watching.cache ∧
      (∃ status, Tells status "subnet range exhausted" ∧ .patchInstanceStatus heldBack status ∈
        (heldBack.reconcile ⟨5, 0⟩).calls (Server.answer ⟨5, 0⟩) (boundServer failedBinding)) ∧
      (¬ ∃ keys ∈ Instance.watches.handleAll watching [⟨.modified, .networkBinding failed⟩],
        heldBack.key ∈ keys) ∧
      ∃ keys ∈ Instance.watches.handleAll watching
        [⟨.modified, .networkBinding failed⟩, ⟨.modified, .inst heldBack⟩], heldBack.key ∈ keys := by
  intro watching failed
  have hscope : (some "shop").all isNamespaceName = true := by decide +kernel
  have hlisted : Instance.watches.listed? ⟨⟨.inst, some "shop"⟩, true⟩ [.inst heldBack] =
      some [heldBack] := by
    rfl
  have hcached : heldBack ∈ (Instance.watches.after (some "shop") [.inst heldBack] []).cache := by
    rw [Watches.after, List.foldl_nil, Watches.list_eq_of_listed? hscope hlisted]
    exact List.mem_singleton_self heldBack
  have huntold : ¬ Tells (heldBack.status.getD {}) "subnet range exhausted" := by
    rintro ⟨c, hc, -⟩
    cases hc
  obtain ⟨-, hreport, hwakes⟩ := failure_told_iff hscope hcached reads_heldBack boundServer_fails
  refine ⟨hcached, hreport huntold ⟨5, 0⟩, ?_, ?_⟩
  · rw [hwakes]
    simp
  · rw [hwakes]
    exact ⟨_, List.mem_singleton_self _, by rintro ⟨⟩, heldBack, rfl, by decide +kernel, rfl, rfl⟩

/-- A pass on the instance has read the binding, and would report its failure, which the status does
not tell yet. The change to the binding calls for no pass. -/
theorem failed_binding_wakes_nothing :
    let failed : NetworkBinding := failedBinding.stamp "shop" "web-net-0" 1
    let s := boundServer Deployment.awaitedBinding
    let s' := boundServer failedBinding
    heldBack.gates ≠ [] ∧
      .getNetworkBinding "shop" "web-net-0" ∈
        (heldBack.reconcile ⟨0, 0⟩).calls (Server.answer ⟨0, 0⟩) s ∧
      s'.bindings.find? "shop" "web-net-0" = some failed ∧
      (heldBack.gatedFailure.run (Server.answer ⟨5, 0⟩) s').1 =
        .ok (some "subnet range exhausted") ∧
      ¬ Tells (heldBack.status.getD {}) "subnet range exhausted" ∧
      Instance.watches.run none [.inst heldBack] [⟨.modified, .networkBinding failed⟩] =
        [["shop/web-0"], []] := by
  intro failed s s'
  refine ⟨by decide, reads_heldBack, rfl, by rfl, ?_, ?_⟩
  · rintro ⟨c, hc, -⟩
    cases hc
  · have hlisted : Instance.watches.listed? ⟨⟨.inst, none⟩, true⟩ [.inst heldBack] =
        some [heldBack] := by
      rfl
    rw [Watches.run, Watches.start, Watches.list_eq_of_listed? rfl hlisted]
    decide +kernel

end Instance

end ControlPlane
