import ControlPlane.Proofs.Rest.Reports
import ControlPlane.Proofs.Watch.Dependencies
import ControlPlane.Proofs.Writes.Stores

/-!
# What a pass on a workload writes

A pass on a workload writes the workload's finalizers and its status, and deployments of its own
namespace (`Workload.MayWrite`). While a network that it uses is missing, or while there is no location,
it writes at most one status, in which nothing but the `Available` condition is new
(`writes_of_held`).
-/

namespace ControlPlane

open Pass (perform forall_calls_bind forall_calls_perform forall_calls_forEach forall_calls_collect)

namespace Workload

/-- What a pass on a workload may write. -/
inductive MayWrite (w : Workload) : Call → Prop
  | finalizers (finalizers : List String) : MayWrite w (.setWorkloadFinalizers w finalizers)
  | status (status : WorkloadStatus) : MayWrite w (.patchWorkloadStatus w status)
  | create {d : Deployment} (h : d.namespaceName = w.namespaceName) : MayWrite w (.createDeployment d)
  | replace {d : Deployment} (h : d.namespaceName = w.namespaceName) :
    MayWrite w (.replaceDeployment d)
  | delete {d : Deployment} (h : d.namespaceName = w.namespaceName) : MayWrite w (.deleteDeployment d)

variable {σ : Type} {answer : Answer σ} {s t : σ} {w : Workload} {now : Instant}

theorem reads_missingNetworks (keys : List String) : (missingNetworks keys).Only Call.reads :=
  only_missingNetworks (fun _ _ => rfl) keys

theorem reads_ownDeployments (w : Workload) : w.ownDeployments.Only Call.reads :=
  w.only_ownDeployments fun _ _ => rfl

/-! ## The deployments -/

theorem namespaceName_of_ownDeployments (hanswer : answer.Faithful) {l : List Deployment}
    (h : w.ownDeployments.run answer s = (.ok l, t)) : ∀ d ∈ l, d.namespaceName = w.namespaceName := by
  obtain ⟨labelled, m, hlist, hdone⟩ := Pass.run_bind_eq_ok.1 h
  rw [Pass.run_perform] at hlist
  cases hdone
  exact fun d hd => hanswer.deployments _ _ _ _ (congrArg Prod.fst hlist) d (List.mem_of_mem_filter hd)

theorem mayWrite_deleteAll {l : List Deployment} (hl : ∀ d ∈ l, d.namespaceName = w.namespaceName) :
    ∀ c ∈ (Pass.forEach (fun d => perform (.deleteDeployment d)) l).calls answer s,
      c.isWrite = true → w.MayWrite c :=
  forall_calls_forEach fun d hd _ => forall_calls_perform fun _ => .delete (hl d hd)

theorem mayWrite_upsert (hanswer : answer.Faithful) {d : Deployment}
    (hd : d.namespaceName = w.namespaceName) :
    ∀ c ∈ (upsert w.namespaceName d).calls answer s, c.isWrite = true → w.MayWrite c := by
  have hget : (perform (.getDeployment w.namespaceName d.name)).Only Call.reads :=
    Pass.only_perform rfl
  refine forall_calls_bind hget.forall_calls_isWrite fun found t hrun => ?_
  rw [Pass.run_perform] at hrun
  cases found with
  | none => exact forall_calls_perform fun _ => .create hd
  | some existing =>
    have hns : existing.namespaceName = w.namespaceName :=
      hanswer.deployment _ _ _ _ (congrArg Prod.fst hrun)
    dsimp only
    split
    · simp
    · exact forall_calls_perform fun _ => .replace hns

theorem mayWrite_tearDown (hanswer : answer.Faithful) :
    ∀ c ∈ w.tearDown.calls answer s, c.isWrite = true → w.MayWrite c := by
  rw [tearDown]
  split
  · simp
  · refine forall_calls_bind ?_ fun finalized t _ => ?_
    · refine forall_calls_bind w.reads_ownDeployments.forall_calls_isWrite fun l t hrun => ?_
      refine forall_calls_bind (mayWrite_deleteAll fun d hd => ?_) fun _ _ _ => by simp
      exact namespaceName_of_ownDeployments hanswer hrun d (List.mem_of_mem_filter hd)
    · split
      · refine forall_calls_bind (forall_calls_perform fun _ => .finalizers _) fun _ _ _ => by simp
      · simp

theorem mayWrite_expand (hanswer : answer.Faithful) (locations : List Location) :
    ∀ c ∈ (w.expand now locations).calls answer s, c.isWrite = true → w.MayWrite c := by
  have hdesired : (Pass.ofExcept (w.desired locations)).Only Call.reads := Pass.only_ofExcept _
  refine forall_calls_bind hdesired.forall_calls_isWrite fun wanted t hwanted => ?_
  refine forall_calls_bind w.reads_ownDeployments.forall_calls_isWrite fun existing t hrun => ?_
  refine forall_calls_bind (mayWrite_deleteAll fun d hd => ?_) fun _ _ _ => ?_
  · exact namespaceName_of_ownDeployments hanswer hrun d (List.mem_of_mem_filter hd)
  refine forall_calls_bind (forall_calls_collect fun d hd _ => mayWrite_upsert hanswer ?_)
    fun upserted t _ => ?_
  · have hmeta := metadata_of_mem_desired (Pass.run_ofExcept_eq_ok hwanted) hd
    rw [Resource.namespaceName, Resource.namespaceName, hmeta.1]
  dsimp only
  split
  · exact forall_calls_bind (forall_calls_perform fun _ => .status _) fun _ _ _ => by simp
  · simp

/-! ## The reports -/

theorem writes_reportUnavailable (reason message : String) :
    (w.reportUnavailable now reason message).writes answer s = [] ∨
      ∃ conditions, ConditionSet.AgreeBut Condition.available conditions (w.status.getD {}).conditions ∧
        (w.reportUnavailable now reason message).writes answer s =
          [.patchWorkloadStatus w { w.status.getD {} with conditions }] := by
  rw [reportUnavailable_eq]
  dsimp only
  split
  · have hagree := ConditionSet.agreeBut_set (w.status.getD {}).conditions
      (w.observe now Condition.available Condition.fails reason message)
    exact .inr ⟨_, hagree, Pass.writes_perform rfl⟩
  · exact .inl rfl

/-- A pass that has only read so far, and then reports why the workload cannot serve. -/
theorem writes_report {reason message : String} :
    ((w.reportUnavailable now reason message).bind fun _ => .done awaitChange).writes answer s =
      (w.reportUnavailable now reason message).writes answer s := by
  rw [Pass.writes_bind]
  rcases (w.reportUnavailable now reason message).run answer s with ⟨e | a, t⟩ <;>
    exact List.append_nil _

/-- What a pass on a workload writes. -/
theorem mayWrite_reconcile (hanswer : answer.Faithful) :
    ∀ c ∈ (w.reconcile now).writes answer s, w.MayWrite c := by
  rw [Pass.forall_writes]
  cases hdel : w.isDeleting with
  | true =>
    rw [reconcile, if_pos hdel]
    exact mayWrite_tearDown hanswer
  | false =>
    by_cases hfin : finalizer ∈ w.finalizers
    · have hreport {reason message : String} (t : σ) :
          ∀ c ∈ ((w.reportUnavailable now reason message).bind fun _ =>
            .done awaitChange).calls answer t, c.isWrite = true → w.MayWrite c := by
        rw [← Pass.forall_writes, writes_report]
        have hwrites : _ ∨ ∃ conditions, _ ∧ (w.reportUnavailable now reason message).writes answer t =
            [.patchWorkloadStatus w { w.status.getD {} with conditions }] :=
          writes_reportUnavailable reason message
        obtain h | ⟨_, -, h⟩ := hwrites <;> rw [h]
        · simp
        · simpa using .status _
      rw [reconcile_eq hdel hfin]
      refine forall_calls_bind (reads_missingNetworks _).forall_calls_isWrite fun missing t _ => ?_
      split
      · have hlist : (perform .listLocations).Only Call.reads := Pass.only_perform rfl
        refine forall_calls_bind hlist.forall_calls_isWrite fun locations t _ => ?_
        split
        · exact hreport t
        · exact mayWrite_expand hanswer locations
      · exact hreport t
    · rw [reconcile_of_not_mem hdel hfin]
      exact forall_calls_bind (forall_calls_perform fun _ => .finalizers _) fun _ _ _ => by simp

/-! ## Workloads that are held up -/

/-- A network that an interface of the workload refers to is missing. -/
def LacksNetwork (w : Workload) (answer : Answer σ) (s : σ) : Prop :=
  ∃ i ∈ w.spec.template.spec.networkInterfaces,
    (answer (.getNetwork (i.network.ns.getD w.namespaceName) i.network.name) s).1 = .ok none

/-- Of the two parts that a key is split into, the first has no slash. -/
theorem not_mem_of_splitKey {key ns name : String} (h : splitKey key = some (ns, name)) :
    '/' ∉ ns.toList := by
  unfold splitKey at h
  dsimp only at h
  split at h
  · cases h
  · cases h
    rw [String.toList_ofList]
    exact fun hmem => by simpa using List.mem_takeWhile_imp hmem

/-- A key is looked up under the namespace and the name that it was made of, or under a name with a
slash in it. -/
theorem splitKey_cases (ns name : String) : splitKey (ns ++ "/" ++ name) = some (ns, name) ∨
    ∃ ns' name', splitKey (ns ++ "/" ++ name) = some (ns', name') ∧ '/' ∈ name'.toList := by
  by_cases hns : '/' ∈ ns.toList
  · obtain ⟨ns', name', hsplit⟩ : ∃ ns' name', splitKey (ns ++ "/" ++ name) = some (ns', name') := by
      cases h : splitKey (ns ++ "/" ++ name) with
      | some parts => exact ⟨parts.1, parts.2, rfl⟩
      | none =>
        unfold splitKey at h
        dsimp only at h
        split at h
        · next hnone =>
          rw [List.dropWhile_eq_nil_iff] at hnone
          have hslash : '/' ∈ (ns ++ "/" ++ name).toList := by simp
          exact absurd (hnone _ hslash) (by decide)
        · cases h
    refine .inr ⟨ns', name', hsplit, List.count_pos_iff.1 ?_⟩
    -- the key has the slash in between and those in the namespace, and only one is left out
    have hcount := congrArg (fun key : String => key.toList.count '/') (eq_of_splitKey hsplit)
    have hslash : List.count '/' "/".toList = 1 := by decide
    simp only [String.toList_append, List.count_append, hslash,
      List.count_eq_zero.2 (not_mem_of_splitKey hsplit)] at hcount
    have hpos := List.count_pos_iff.2 hns
    omega
  · exact .inl (splitKey_append hns)

theorem mem_missing (hanswer : answer.Faithful) {keys missing : List String} {key ns name : String}
    (hrun : (missingNetworks keys).run answer s = (.ok missing, t)) (hkey : key ∈ keys)
    (hsplit : splitKey key = some (ns, name)) (hnone : (answer (.getNetwork ns name) s).1 = .ok none) :
    key ∈ missing := by
  induction keys generalizing s t missing with
  | nil => cases hkey
  | cons k rest ih =>
    rw [missingNetworks] at hrun
    split at hrun
    · next hk =>
      obtain rfl | hmem := List.mem_cons.1 hkey
      · rw [hsplit] at hk
        cases hk
      · exact ih hrun hmem hnone
    · next a b hk =>
      obtain ⟨found, u, hget, hrun⟩ := Pass.run_bind_eq_ok.1 hrun
      obtain ⟨others, v, hrest, hdone⟩ := Pass.run_bind_eq_ok.1 hrun
      rw [Pass.run_perform] at hget
      obtain rfl : u = s := by
        rw [← hanswer.reads (.getNetwork a b) s rfl, hget]
      cases hdone
      obtain rfl | hmem := List.mem_cons.1 hkey
      · rw [hk] at hsplit
        cases hsplit
        rw [hget] at hnone
        obtain rfl : found = none := Except.ok.inj hnone
        exact List.mem_cons_self
      · have hothers := ih hrest hmem hnone
        split
        · exact List.mem_cons_of_mem _ hothers
        · exact hothers

/-- A pass that looks up the networks of a workload misses one that is missing, if no network has a
slash in its name. -/
theorem missing_ne_nil (hanswer : answer.Faithful)
    (hnames : ∀ ns name, '/' ∈ name.toList → (answer (.getNetwork ns name) s).1 = .ok none)
    {missing : List String} (h : w.LacksNetwork answer s)
    (hrun : (missingNetworks w.networkKeys).run answer s = (.ok missing, t)) : missing ≠ [] := by
  obtain ⟨i, hi, hnone⟩ := h
  have hkey : w.networkKey i ∈ w.networkKeys := mem_distinctSorted.2 (List.mem_map_of_mem hi)
  refine List.ne_nil_of_mem (a := w.networkKey i) ?_
  obtain hsplit | ⟨ns, name, hsplit, hslash⟩ :=
    splitKey_cases (i.network.ns.getD w.namespaceName) i.network.name
  · exact mem_missing hanswer hrun hkey hsplit hnone
  · exact mem_missing hanswer hrun hkey hsplit (hnames ns name hslash)

/-- While a network is missing or there is no location, a pass writes at most one status, which
differs from the one before in the `Available` condition at most. -/
theorem writes_of_held (hanswer : answer.Faithful)
    (hnames : ∀ ns name, '/' ∈ name.toList → (answer (.getNetwork ns name) s).1 = .ok none)
    (hdel : w.isDeleting = false) (hfin : finalizer ∈ w.finalizers)
    (hheld : w.LacksNetwork answer s ∨ (answer .listLocations s).1 = .ok []) :
    (w.reconcile now).writes answer s = [] ∨
      ∃ conditions, ConditionSet.AgreeBut Condition.available conditions (w.status.getD {}).conditions ∧
        (w.reconcile now).writes answer s =
          [.patchWorkloadStatus w { w.status.getD {} with conditions }] := by
  have hreads := reads_missingNetworks w.networkKeys
  have hsame := hreads.run_snd (s := s) hanswer
  rw [reconcile_eq hdel hfin, hreads.writes_bind]
  rcases hrun : (missingNetworks w.networkKeys).run answer s with ⟨e | missing, t⟩
  · exact .inl rfl
  obtain rfl : t = s := by rwa [hrun] at hsame
  dsimp only
  split
  · next hmissing =>
    have hnone : (answer .listLocations t).1 = .ok [] := hheld.resolve_left fun hlacks =>
      missing_ne_nil hanswer hnames hlacks hrun hmissing
    have hlist : (perform .listLocations).Only Call.reads := Pass.only_perform rfl
    rw [hlist.writes_bind, Pass.run_perform]
    rcases hanswered : answer .listLocations t with ⟨e | locations, u⟩
    · exact .inl rfl
    rw [hanswered] at hnone
    obtain rfl : locations = [] := Except.ok.inj hnone
    dsimp only
    rw [if_pos rfl, writes_report]
    exact writes_reportUnavailable ..
  · rw [writes_report]
    exact writes_reportUnavailable ..

end Workload

end ControlPlane
