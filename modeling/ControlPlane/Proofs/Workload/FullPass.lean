import ControlPlane.Proofs.Workload.Expansion

/-!
# Full passes on a workload

A pass that lacks nothing makes the deployments what the workload wants, whatever was there before,
and deletes none whose name is wanted. It leaves nothing to do: a pass on the workload as it then is
creates, replaces and deletes nothing.

* `forall_calls_expand_of_settled`: bringing up to date what is up to date only reads.
* `reconcile_expands`: the result of a full pass.
-/

namespace ControlPlane

open Pass (perform run_bind_of_ok forall_calls_bind)

/-! ## References to networks -/

theorem splitKey_append {ns name : String} (h : '/' ∉ ns.toList) :
    splitKey (ns ++ "/" ++ name) = some (ns, name) := by
  have hl : (ns ++ "/" ++ name).toList = ns.toList ++ '/' :: name.toList := by
    simp [String.toList_append]
  have hne : ∀ c ∈ ns.toList, decide (c ≠ '/') = true := fun c hc =>
    decide_eq_true fun e => h (e ▸ hc)
  simp only [splitKey, hl, List.dropWhile_append_of_pos hne, List.takeWhile_append_of_pos hne]
  simp

/-- A network that is referred to is missing when there is none of that namespace and name. -/
theorem Server.lacksNetwork_networkKey {s : Server} {w : Workload} {i : NetworkInterface}
    (h : '/' ∉ (i.network.ns.getD w.namespaceName).toList) :
    s.lacksNetwork (w.networkKey i) =
      (s.networks.find? (i.network.ns.getD w.namespaceName) i.network.name).isNone := by
  rw [lacksNetwork, Workload.networkKey, splitKey_append h]

namespace Workload

variable {w : Workload} {s : Server} {now later : Instant} {ns uid : String} {d e : Deployment}
  {all : List Deployment} {locations : List Location} {Q : Call → Prop}

/-! ## Up to the deployments -/

theorem expands_of_exist (hdel : w.isDeleting = false) (hfin : finalizer ∈ w.finalizers)
    (hnet : ∀ i ∈ w.spec.template.spec.networkInterfaces, s.lacksNetwork (w.networkKey i) = false)
    (hloc : s.locations.objects ≠ []) : w.Expands s := by
  refine ⟨hdel, hfin, List.filter_eq_nil_iff.2 fun key hkey => ?_, hloc⟩
  obtain ⟨i, hi, rfl⟩ := List.mem_map.1 (Keyed.mem_of_mem_ofList hkey)
  rw [hnet i hi]
  exact Bool.false_ne_true

theorem reconcile_eq (hdel : w.isDeleting = false) (hfin : finalizer ∈ w.finalizers) :
    w.reconcile now = (missingNetworks w.networkKeys).bind fun missing =>
      if missing = [] then
        (perform .listLocations).bind fun locations =>
          if locations = [] then
            (w.reportUnavailable now "NoLocations"
              "No locations are registered with the system.").bind fun _ => .done awaitChange
          else w.expand now locations
      else
        (w.reportUnavailable now "NetworkNotFound"
          ("Unable to find networks: " ++ ", ".intercalate missing)).bind fun _ =>
            .done awaitChange := by
  rw [reconcile, hdel, if_neg Bool.false_ne_true, withFinalizer, if_pos hfin]
  refine congrArg (missingNetworks w.networkKeys).bind (funext fun missing => ?_)
  cases missing with
  | nil =>
    refine congrArg (perform .listLocations).bind (funext fun locations => ?_)
    cases locations <;> rfl
  | cons key rest => rfl

/-- A pass on a workload that lacks its finalizer puts that at the end of the finalizers. -/
theorem reconcile_of_not_mem (hdel : w.isDeleting = false) (hfin : finalizer ∉ w.finalizers) :
    w.reconcile now = (perform (.setWorkloadFinalizers w (w.finalizers ++ [finalizer]))).bind
      fun _ => .done awaitChange := by
  rw [reconcile, hdel, if_neg Bool.false_ne_true, withFinalizer, if_neg hfin]
  rfl

/-- A pass that lacks nothing comes down to its deployments. -/
theorem reconcile_run (h : w.Expands s) : (w.reconcile now).run (Server.answer now) s =
    (w.expand now s.locations.objects).run (Server.answer now) s := by
  obtain ⟨hdel, hfin, hnet, hloc⟩ := h
  have hlist : (perform .listLocations).run (Server.answer now) s = (.ok s.locations.objects, s) :=
    Pass.run_perform ..
  have hmissing : (missingNetworks w.networkKeys).run (Server.answer now) s = (.ok [], s) := by
    rw [missingNetworks_run, hnet]
  rw [reconcile_eq hdel hfin, run_bind_of_ok hmissing, if_pos rfl, run_bind_of_ok hlist,
    if_neg hloc]

/-! ## The calls of a pass -/

theorem forall_calls_missingNetworks (hq : ∀ ns name, Q (.getNetwork ns name)) (keys : List String) :
    ∀ c ∈ (missingNetworks keys).calls (Server.answer now) s, Q c := by
  induction keys with
  | nil => simp [missingNetworks]
  | cons key rest ih =>
    rw [missingNetworks]
    split
    · exact ih
    · next ns name _ =>
      refine forall_calls_bind (Pass.forall_calls_perform (hq ns name)) fun found t ht => ?_
      rw [Pass.run_perform] at ht
      cases ht
      exact forall_calls_bind ih fun missing t _ => by simp

theorem forall_calls_reconcile (h : w.Expands s) (hq : ∀ c, c.edits = false → Q c)
    (hexp : ∀ c ∈ (w.expand now s.locations.objects).calls (Server.answer now) s, Q c) :
    ∀ c ∈ (w.reconcile now).calls (Server.answer now) s, Q c := by
  obtain ⟨hdel, hfin, hnet, hloc⟩ := h
  rw [reconcile_eq hdel hfin]
  refine forall_calls_bind (forall_calls_missingNetworks (fun _ _ => hq _ rfl) _) fun keys t ht => ?_
  rw [missingNetworks_run, hnet] at ht
  cases ht
  rw [if_pos rfl]
  refine forall_calls_bind (Pass.forall_calls_perform (hq _ rfl)) fun locations t ht => ?_
  rw [Pass.run_perform] at ht
  cases ht
  rw [if_neg hloc]
  exact hexp

theorem forall_calls_expand (hns : w.metadata.ns = some ns) (hw : w.desired locations = .ok all)
    (hq : ∀ c, c.edits = false → Q c)
    (hdelete : ∀ d ∈ s.ownDeployments w, isOrphan all d = true → Q (.deleteDeployment d))
    (hupsert : ∀ t, (Pass.forEach (fun d => perform (.deleteDeployment d))
        ((s.ownDeployments w).filter (isOrphan all))).run (Server.answer now) s = (.ok (), t) →
      ∀ c ∈ (Pass.collect (upsert ns) all).calls (Server.answer now) t, Q c) :
    ∀ c ∈ (w.expand now locations).calls (Server.answer now) s, Q c := by
  have hn : w.namespaceName = ns := by rw [Resource.namespaceName, hns]; rfl
  rw [expand, hw, hn, Pass.ofExcept, Pass.bind_eq, Pass.done_bind, Pass.bind_eq]
  refine forall_calls_bind ?_ fun own t ht => ?_
  · exact forall_calls_bind (Pass.forall_calls_perform (hq _ rfl)) fun _ _ _ => by simp
  rw [ownDeployments_run] at ht
  cases ht
  refine forall_calls_bind ?_ fun _ t ht => ?_
  · refine Pass.forall_calls_forEach fun d hd t => ?_
    obtain ⟨hd, ho⟩ := List.mem_filter.1 hd
    exact Pass.forall_calls_perform (hdelete d hd ho)
  refine forall_calls_bind (hupsert t ht) fun ds m _ => ?_
  dsimp only
  split
  · exact forall_calls_bind (Pass.forall_calls_perform (hq _ rfl)) fun _ _ _ => by simp
  · simp

/-- Bringing a deployment up to date deletes nothing. -/
theorem forall_calls_upsert (hget : Q (.getDeployment ns e.name)) (hcreate : Q (.createDeployment e))
    (hreplace : ∀ d, Q (.replaceDeployment d)) :
    ∀ c ∈ (upsert ns e).calls (Server.answer now) s, Q c := by
  refine forall_calls_bind (Pass.forall_calls_perform hget) fun found t _ => ?_
  cases found with
  | none => exact Pass.forall_calls_perform hcreate
  | some o =>
    simp only
    split
    · simp
    · exact Pass.forall_calls_perform (hreplace _)

/-- A pass deletes no deployment whose name is wanted. -/
theorem not_mem_wanted_of_delete (h : w.Expands s) (hu : Undisputed w ns uid all s)
    (hd : .deleteDeployment d ∈ (w.reconcile now).calls (Server.answer now) s) :
    d.name ∉ all.map (·.name) := by
  have key : ∀ c ∈ (w.reconcile now).calls (Server.answer now) s,
      ∀ d, c = .deleteDeployment d → d.name ∉ all.map (·.name) := by
    refine forall_calls_reconcile h (fun c hc d hd => ?_) ?_
    · subst hd
      cases hc
    · refine forall_calls_expand hu.ns_eq hu.desired_eq (fun c hc d hd => ?_) ?_ ?_
      · subst hd
        cases hc
      · rintro d - ho _ ⟨⟩
        exact (isOrphan_iff.1 ho).1
      · intro t _
        refine Pass.forall_calls_collect fun e _ t => ?_
        exact forall_calls_upsert (by simp) (by simp) (by simp)
  exact key _ hd d rfl

/-! ## A second pass -/

/-- Bringing up to date what is up to date, or being deleted, only reads. -/
theorem upsert_of_settled (now : Instant) (hd : s.deployments.find? ns e.name = some d)
    (hs : d.isDeleting = true ∨ d.spec = e.spec) :
    (upsert ns e).run (Server.answer now) s = (.ok d, s) ∧
      ∀ c ∈ (upsert ns e).calls (Server.answer now) s, c.edits = false := by
  have hget : (perform (.getDeployment ns e.name)).run (Server.answer now) s =
      (.ok (some d), s) := by
    rw [Pass.run_perform, ← hd]
    rfl
  have hc : (d.isDeleting || decide (d.spec = e.spec)) = true := by simpa using hs
  constructor
  · rw [upsert, Pass.bind_eq, run_bind_of_ok hget]
    simp only
    rw [if_pos hc]
    rfl
  · refine forall_calls_bind (Pass.forall_calls_perform rfl) fun found t ht => ?_
    rw [hget] at ht
    cases ht
    simp only
    rw [if_pos hc]
    simp

theorem forall_calls_expand_of_settled (hns : w.metadata.ns = some ns)
    (hw : w.desired locations = .ok all)
    (hall : ∀ e ∈ all, ∃ d, s.deployments.find? ns e.name = some d ∧
      (d.isDeleting = true ∨ d.spec = e.spec))
    (hown : ∀ d ∈ s.ownDeployments w, isOrphan all d = false) :
    ∀ c ∈ (w.expand now locations).calls (Server.answer now) s, c.edits = false := by
  refine forall_calls_expand hns hw (fun _ hc => hc) (fun d hd ho => ?_) fun t ht => ?_
  · rw [hown d hd] at ho
    cases ho
  · have hnone : (s.ownDeployments w).filter (isOrphan all) = [] :=
      List.filter_eq_nil_iff.2 fun d hd => by rw [hown d hd]; exact Bool.false_ne_true
    rw [hnone] at ht
    cases ht
    refine Pass.forall_calls_collect_of_same fun e he => ?_
    obtain ⟨d, hd, hs⟩ := hall e he
    obtain ⟨hrun, hcalls⟩ := upsert_of_settled now hd hs
    exact ⟨⟨d, hrun⟩, hcalls⟩

section

variable {t : Server}

/-- What is found under a wanted name after a pass is as it is wanted, or being deleted. -/
theorem Expanded.upToDate (h : Expanded now ns uid all s.deployments t.deployments) (he : e ∈ all) :
    ∃ d, t.deployments.find? ns e.name = some d ∧ (d.isDeleting = true ∨ d.spec = e.spec) := by
  by_cases ho : ∃ o ∈ s.deployments.objects, o.metadata.ns = some ns ∧ o.name = e.name ∧
      o.isDeleting = true
  · obtain ⟨o, ho, hons, hn, hdel⟩ := ho
    have hna : ¬ IsActive ns uid o := fun hact => by
      rw [hact.2.2] at hdel
      cases hdel
    exact ⟨o, hn ▸ Table.find?_of_mem (h.unchanged o ho hna) hons, .inl hdel⟩
  · obtain ⟨d, hd, hact, hn, hspec⟩ := (h.active_iff e.name e.spec).2 ⟨e, he, rfl, rfl,
      fun o hm hons hn => by simpa using fun hdel => ho ⟨o, hm, hons, hn, hdel⟩⟩
    exact ⟨d, hn ▸ Table.find?_of_mem hd hact.1, .inr hspec⟩

/-- A pass leaves no orphans. -/
theorem Expanded.isOrphan_eq_false (h : Expanded now ns uid all s.deployments t.deployments)
    (hns : w.metadata.ns = some ns) (huid : w.metadata.uid = some uid)
    (hd : d ∈ t.ownDeployments w) : isOrphan all d = false := by
  by_contra ho
  rw [Bool.not_eq_false, isOrphan_iff] at ho
  obtain ⟨hm, hdns, -, hu⟩ := (mem_ownDeployments_iff hns huid).1 hd
  obtain ⟨e, he, hn, -⟩ := (h.active_iff d.name d.spec).1 ⟨d, hm, ⟨hdns, hu, ho.2⟩, rfl, rfl⟩
  exact ho.1 (List.mem_map.2 ⟨e, he, hn⟩)

end

/-- A pass that lacks nothing makes the wanted deployments the active ones, whatever it finds, and
deletes none whose name is wanted. On a stored workload it ends well. A pass on the workload as it is
then, whenever it comes and whatever the status says, creates, replaces and deletes nothing. -/
theorem reconcile_expands (now : Instant) (hdel : w.isDeleting = false)
    (hfin : finalizer ∈ w.finalizers)
    (hnet : ∀ i ∈ w.spec.template.spec.networkInterfaces, s.lacksNetwork (w.networkKey i) = false)
    (hloc : s.locations.objects ≠ []) (hu : Undisputed w ns uid all s) :
    let after := (w.reconcile now).run (Server.answer now) s
    Expanded now ns uid all s.deployments after.2.deployments ∧
      (∀ d, .deleteDeployment d ∈ (w.reconcile now).calls (Server.answer now) s →
        d.name ∉ all.map (·.name)) ∧
      (w ∈ s.workloads.objects → after.1 = .ok awaitChange ∧
        ∃ status version, w.reported status version ∈ after.2.workloads.objects) ∧
      ∀ status version later,
        ∀ c ∈ ((w.reported status version).reconcile later).calls (Server.answer later) after.2,
          c.edits = false := by
  have he := expands_of_exist hdel hfin hnet hloc
  obtain ⟨r, t, ws, hrun, hsettled, hstored⟩ :=
    expand_run s now hu.ns_eq hu.desired_eq hu.names_nodup
  have hexp := hsettled.expanded hu
  rw [reconcile_run he, hrun]
  refine ⟨hexp, fun d hd => not_mem_wanted_of_delete he hu hd, fun hw => hstored hw hdel, ?_⟩
  intro status version later
  -- what a pass reads of the workload is not what the first one wrote
  refine forall_calls_reconcile he (fun _ hc => hc) ?_
  refine forall_calls_expand_of_settled hu.ns_eq hu.desired_eq (fun e => ?_) fun d => ?_
  · exact hexp.upToDate (t := { s with deployments := t, workloads := ws })
  · exact hexp.isOrphan_eq_false hu.ns_eq hu.uid_eq

/-- The placement of a workload in three cities. -/
def threeCities : Placement where
  name := "us"
  cityCodes := ["DFW", "LAX", "ORD"]
  scale := { minReplicas := 2 }

/-- A workload with one network and three cities. -/
def shopWeb : Workload where
  metadata := {
    name := some "web"
    ns := some "shop"
    uid := some "w1"
    resourceVersion := some "1"
    finalizers := some [finalizer] }
  spec := {
    placements := [threeCities]
    template := { spec := { networkInterfaces := [{ network := { name := "default" } }] } } }

/-- A deployment of a workload, as it was wanted once. -/
def shopDeployment (workload : WorkloadReference) (placement cityCode : String)
    (deletionTimestamp : Option Instant) : Deployment where
  metadata := {
    labels := some (Dict.set .empty uidLabel workload.uid)
    finalizers := some [Deployment.finalizer]
    deletionTimestamp }
  spec := { workload, placement, cityCode, scale := { minReplicas := 1 } }

/-- A location that serves a city. -/
def cityLocation (cityCode : String) : Location where
  metadata := {}
  spec := { topology := Dict.set .empty Location.cityCodeKey cityCode }

/-- A server on which that workload has a deployment to be scaled, one that is being deleted and one
that it no longer wants, beside one of another workload. -/
def shopServer : Server :=
  { Server.empty with
    networks := Table.empty.add "shop" "default" { metadata := {}, spec := {} } rfl
    locations := ((Table.empty.add "sites" "dfw" (cityLocation "DFW") rfl).add "sites" "lax"
      (cityLocation "LAX") rfl).add "sites" "ord" (cityLocation "ORD") rfl
    workloads := Table.empty.add "shop" "web" shopWeb rfl
    deployments := (((Table.empty.add "shop" "web-us-dfw"
      (shopDeployment ⟨"web", "w1"⟩ "us" "DFW" none) rfl).add "shop" "web-us-lax"
      (shopDeployment ⟨"web", "w1"⟩ "us" "LAX" (some ⟨0, 0⟩)) rfl).add "shop" "web-eu-fra"
      (shopDeployment ⟨"web", "w1"⟩ "eu" "FRA" none) rfl).add "shop" "api-us-dfw"
      (shopDeployment ⟨"api", "w2"⟩ "us" "DFW" none) rfl }

/-- The deployments that the workload wants. -/
def shopWanted : List Deployment :=
  threeCities.cityCodes.map (shopWeb.deploymentFor "w1"
    { apiVersion := Kind.workload.apiVersion, kind := Kind.workload.name, name := "web", uid := "w1"
      controller := some true } threeCities)

theorem undisputed_shop : Undisputed shopWeb "shop" "w1" shopWanted shopServer where
  ns_eq := rfl
  uid_eq := rfl
  desired_eq := rfl
  names_nodup := by decide
  labelled := by decide
  foreign := by decide

/-- In the city where none was, the workload has a deployment after the pass, and it has none in the
city where one is being deleted; the pass ends well and a second one finds nothing to do. -/
theorem reconcile_expands_shop :
    let after := (shopWeb.reconcile ⟨0, 0⟩).run (Server.answer ⟨0, 0⟩) shopServer
    after.1 = .ok awaitChange ∧
      (∃ d ∈ after.2.deployments.objects, IsActive "shop" "w1" d ∧ d.name = "web-us-ord") ∧
      (¬ ∃ d ∈ after.2.deployments.objects, IsActive "shop" "w1" d ∧ d.name = "web-us-lax") ∧
      ∀ status version later, ∀ c ∈ ((shopWeb.reported status version).reconcile later).calls
        (Server.answer later) after.2, c.edits = false := by
  have hstored : shopWeb ∈ shopServer.workloads.objects := by decide
  obtain ⟨hexp, -, hok, hagain⟩ := reconcile_expands ⟨0, 0⟩ (by decide) (by decide)
    (by decide) (by decide) undisputed_shop
  refine ⟨(hok hstored).1, ?_, ?_, hagain⟩
  · obtain ⟨e, he, hn, hnew⟩ : ∃ e ∈ shopWanted, e.name = "web-us-ord" ∧
        ∀ o ∈ shopServer.deployments.objects, o.metadata.ns = some "shop" →
          o.name = "web-us-ord" → o.isDeleting = false := by decide
    obtain ⟨d, hd, hact, hdn, -⟩ := (hexp.active_iff _ e.spec).2 ⟨e, he, hn, rfl, hnew⟩
    exact ⟨d, hd, hact, hdn⟩
  · rintro ⟨d, hd, hact, hdn⟩
    obtain ⟨e, -, -, -, hold⟩ := (hexp.active_iff _ d.spec).1 ⟨d, hd, hact, hdn, rfl⟩
    obtain ⟨o, ho, hns, hn, hdel⟩ : ∃ o ∈ shopServer.deployments.objects,
        o.metadata.ns = some "shop" ∧ o.name = "web-us-lax" ∧ o.isDeleting = true := by decide
    cases (hold o ho hns hn).symm.trans hdel

end Workload

end ControlPlane
