import ControlPlane.Proofs.Server.Interruption
import ControlPlane.Proofs.Workload.FullPass
import ControlPlane.Proofs.Workload.Revision

/-!
# Passes on a workload that are run again

A pass that is cut off leaves some of its deletions and some of its updates done, and the next one
finds other deployments than it did. It ends with the same: whatever the store was and wherever the
pass was cut off, what it does to the deployments (`outcome`) is the same from every store that it
leads through.

* `deleteAll_content`, `upsertAll_content`: what the two loops of a pass make of the deployments, and
  what there is on the way.
* `expand_content`, `tearDown_content`: the same for the parts of a pass that write deployments.
* `reconcile_resumes`: a pass that was cut off and is run again leaves what one pass leaves.
-/

namespace ControlPlane.Workload

open Pass (Attempts perform run_bind_of_ok run_bind_of_error forall_states_bind forall_states_perform)

variable {w : Workload} {s m : Server} {now : Instant} {ns : String} {d e : Deployment}
  {all l : List Deployment} {locations : List Location}

theorem exists_of_isOk {α : Type} {r : Except Error α} (h : r.isOk = true) : ∃ a, r = .ok a := by
  cases r with
  | error e => cases h
  | ok a => exact ⟨a, rfl⟩

/-! ## Deleting -/

/-- Deletions succeed, and each makes of the content what it does. -/
theorem attempts_delete (now : Instant) (hns : d.metadata.ns = some ns) (s : Server) :
    Attempts (Server.answer now) (·.deployments.content) true
      (withRemoved ns d s.deployments.content) (perform (.deleteDeployment d)) s := by
  have hanswer : Server.answer now (.deleteDeployment d) s =
      (.ok (), { s with deployments := s.deployments.remove now ns d.name }) := by
    show s.onDeployments (s.deployments.delete now d) = _
    rw [Table.delete, hns]
    rfl
  constructor
  · rw [Pass.run_perform, hanswer]
    rfl
  · rw [Pass.run_perform, hanswer]
    exact Table.content_remove now
  · exact forall_states_perform (.inl rfl) (.inr (by rw [Pass.run_perform]))

/-- Deleting the workload's deployments that are not wanted is sweeping. -/
theorem removedAll_orphans (s : Server) (all : List Deployment) :
    removedAll w.namespaceName ((s.ownDeployments w).filter (isOrphan all)) s.deployments.content =
      w.swept (all.map (·.name)) s.deployments.content := by
  funext ⟨ns, name⟩
  rw [removedAll_apply, swept]
  by_cases hc : ns = w.namespaceName ∧ name ∉ all.map (·.name)
  · obtain ⟨rfl, hname⟩ := hc
    rw [if_pos (And.intro rfl hname)]
    cases ho : s.deployments.find? w.namespaceName name with
    | none =>
      have hnone : s.deployments.content (w.namespaceName, name) = none := by
        rw [Table.content, ho, Option.map_none]
      rw [hnone, Option.bind_none, Option.bind_none, ite_self]
    | some o =>
      have hsome : s.deployments.content (w.namespaceName, name) = some o.asWritten := by
        rw [Table.content, ho, Option.map_some]
      obtain ⟨hmem, -⟩ := Table.find?_eq_some_iff.1 ho
      obtain ⟨hns, -⟩ := Table.metadata_of_find? ho
      -- the one of that name is the one that is deleted
      have hdeleted : name ∈ ((s.ownDeployments w).filter (isOrphan all)).map (·.name) ↔
          o.label? uidLabel = some w.uid ∧ o.spec.workload.uid = w.uid ∧ o.isDeleting = false := by
        simp only [List.mem_map, List.mem_filter, mem_own, isOrphan_iff]
        constructor
        · rintro ⟨d, ⟨⟨hd, hdns, hlabel, hu⟩, -, hdel⟩, rfl⟩
          cases (Table.find?_of_mem hd hdns).symm.trans ho
          exact ⟨hlabel, hu, hdel⟩
        · rintro ⟨hlabel, hu, hdel⟩
          have hn := Table.name_of_find? ho
          exact ⟨o, ⟨⟨hmem, hns, hlabel, hu⟩, by rwa [hn, ← List.mem_map], hdel⟩, hn⟩
      rw [hsome, Option.bind_some, Option.bind_some, discarded]
      refine if_congr ?_ rfl rfl
      rw [eq_self, true_and, hdeleted, Resource.asWritten_label?, Resource.asWritten_spec,
        Resource.asWritten_isDeleting]
  · rw [if_neg hc, if_neg]
    rintro ⟨hns, hd⟩
    obtain ⟨d, hd, hn⟩ := List.mem_map.1 hd
    have hname : d.name = name := hn
    exact hc ⟨hns, hname ▸ (isOrphan_iff.1 (List.mem_filter.1 hd).2).1⟩

/-- Deleting the workload's deployments that are not wanted, and what there is on the way. -/
theorem sweep_states (w : Workload) (now : Instant) (s : Server) (all : List Deployment) :
    let pass := Pass.forEach (fun d => perform (.deleteDeployment d))
      ((s.ownDeployments w).filter (isOrphan all))
    (∃ t, pass.run (Server.answer now) s = (.ok (), t) ∧
      t.deployments.content = w.swept (all.map (·.name)) s.deployments.content) ∧
      ∀ m ∈ pass.states (Server.answer now) s, ∀ a,
        m.deployments.content a = s.deployments.content a ∨
          m.deployments.content a = w.swept (all.map (·.name)) s.deployments.content a := by
  have hns : ∀ d ∈ (s.ownDeployments w).filter (isOrphan all),
      d.metadata.ns = some w.namespaceName :=
    fun d hd => (mem_own.1 (List.mem_filter.1 hd).1).2.1
  obtain ⟨hok, hleft, hstates⟩ := Pass.collect_states (Server.answer now)
    (fun s => s.deployments.content) (fun _ _ => true) (withRemoved w.namespaceName)
    (fun d hd => attempts_delete now (hns d hd)) s
  rw [Pass.through_eq_self fun _ _ => rfl] at hok hleft hstates
  intro pass
  simp only [pass, Pass.forEach_eq_collect, Pass.states_bind_done]
  constructor
  · obtain ⟨ds, hds⟩ := exists_of_isOk (hok.2 rfl)
    exact ⟨_, run_bind_of_ok (Prod.ext hds rfl) _, hleft.trans (removedAll_orphans s all)⟩
  · intro m hm a
    obtain ⟨p, hp, hcontent⟩ := hstates m hm
    have hm : m.deployments.content = removedAll w.namespaceName p s.deployments.content := hcontent
    have ha := (congrFun hm a).trans (removedAll_apply a)
    by_cases hin : a.1 = w.namespaceName ∧ a.2 ∈ p.map (·.name)
    · right
      rw [ha, if_pos hin, ← removedAll_orphans, removedAll_apply,
        if_pos ⟨hin.1, (hp.map _).subset hin.2⟩]
    · left
      rw [ha, if_neg hin]

/-! ## Bringing up to date -/

/-- Bringing a deployment up to date writes once at most. -/
theorem states_upsert (s : Server) :
    ∀ m ∈ (upsert ns e).states (Server.answer now) s,
      m = s ∨ m = ((upsert ns e).run (Server.answer now) s).2 := by
  have hget : (perform (.getDeployment ns e.name)).run (Server.answer now) s =
      (.ok (s.deployments.find? ns e.name), s) := Pass.run_perform ..
  rw [upsert, Pass.bind_eq, run_bind_of_ok hget]
  refine forall_states_bind (forall_states_perform (.inl rfl) (.inl rfl)) fun found t ht => ?_
  cases hget.symm.trans ht
  split
  · exact forall_states_perform (.inl rfl) (.inr (by rw [Pass.run_perform]))
  · split
    · simp [Pass.states]
    · exact forall_states_perform (.inl rfl) (.inr (by rw [Pass.run_perform]))

/-- Bringing a wanted deployment up to date succeeds unless it would have to be created without a
namespace. -/
theorem attempts_upsert (now : Instant) (hns : e.metadata.ns = w.metadata.ns)
    (hname : e.metadata.name = some e.name) (hstatus : e.status = none) (he : e.asWritten = e)
    (s : Server) :
    Attempts (Server.answer now) (·.deployments.content) (w.canUpsert s.deployments.content e)
      (withRevised w.namespaceName e s.deployments.content) (upsert w.namespaceName e) s := by
  have hget : (perform (.getDeployment w.namespaceName e.name)).run (Server.answer now) s =
      (.ok (s.deployments.find? w.namespaceName e.name), s) := Pass.run_perform ..
  suffices h : ((upsert w.namespaceName e).run (Server.answer now) s).1.isOk =
        w.canUpsert s.deployments.content e ∧
      ((upsert w.namespaceName e).run (Server.answer now) s).2.deployments.content =
        if w.canUpsert s.deployments.content e then withRevised w.namespaceName e s.deployments.content
        else s.deployments.content from
    ⟨h.1, h.2, fun m hm => (states_upsert s m hm).imp (fun h => by rw [h]) fun h => by rw [h]⟩
  rw [upsert, Pass.bind_eq, run_bind_of_ok hget]
  cases hfound : s.deployments.find? w.namespaceName e.name with
  | none =>
    have hcontent : s.deployments.content (w.namespaceName, e.name) = none := by
      rw [Table.content, hfound, Option.map_none]
    simp only
    rw [Pass.run_perform, canUpsert, hcontent, Option.isSome_none, Bool.or_false]
    cases hw : w.metadata.ns with
    | none =>
      have hcreate : s.deployments.create now e =
          (.error (.missingNamespace e.displayName), s.deployments) := by
        rw [Table.create, hns, hw]
      have hanswer : Server.answer now (.createDeployment e) s = _ :=
        congrArg s.onDeployments hcreate
      rw [hanswer]
      exact ⟨rfl, rfl⟩
    | some n =>
      have hn : w.namespaceName = n := by rw [Resource.namespaceName, hw]; rfl
      rw [hn] at hfound hcontent ⊢
      have hcreate := Table.create_of_free now (hns.trans hw) hname hfound
      have hanswer : Server.answer now (.createDeployment e) s = _ :=
        congrArg s.onDeployments hcreate
      rw [hanswer]
      refine ⟨rfl, (Table.content_add hfound).trans ?_⟩
      have ha : (e.created s.deployments.nextUid now).address = (some n, some e.name) := by
        rw [← hns.trans hw, ← hname]
        rfl
      have hw : (e.created s.deployments.nextUid now).asWritten = e.asWritten := by
        rw [Resource.created, Resource.asWritten, Resource.asWritten, hstatus]
      rw [Resource.asWritten_stamp ha, hw, he, Option.isSome_some, if_pos rfl, withRevised, hcontent]
      rfl
  | some o =>
    have hcontent : s.deployments.content (w.namespaceName, e.name) = some o.asWritten := by
      rw [Table.content, hfound, Option.map_some]
    simp only
    rw [canUpsert, hcontent, Option.isSome_some, Bool.or_true, if_pos rfl, withRevised, hcontent,
      revised_some, Resource.asWritten_isDeleting, Resource.asWritten_spec]
    split
    · next hc =>
      rw [Bool.or_eq_true, decide_eq_true_iff] at hc
      rw [if_pos hc]
      exact ⟨rfl, (Function.update_eq_self_iff.2 hcontent.symm).symm⟩
    · next hc =>
      rw [Bool.or_eq_true, decide_eq_true_iff] at hc
      have hdel : o.isDeleting = false := by simpa using (not_or.1 hc).1
      obtain ⟨hons, -⟩ := Table.metadata_of_find? hfound
      have hn : (adopted o e).name = e.name := (Table.name_of_find? hfound : o.name = _)
      have hanswer : Server.answer now (.replaceDeployment (adopted o e)) s = _ :=
        congrArg s.onDeployments (Table.update_of_find? hons hn hfound rfl)
      have hkept : ((adopted o e).inPlaceOf o).kept = some ((adopted o e).inPlaceOf o) :=
        Resource.kept_of_not_isDeleting hdel
      rw [if_neg hc, Pass.run_perform, hanswer]
      refine ⟨rfl, Table.content_change.trans ?_⟩
      have ha : ((adopted o e).inPlaceOf o).address = (some w.namespaceName, some e.name) :=
        (Table.find?_eq_some_iff.1 hfound).2
      rw [hfound, Option.bind_some, hkept, Option.map_some, Resource.asWritten_stamp ha]
      rfl

theorem entries_of_desired (hw : w.desired locations = .ok all) :
    ∃ metadata : String → ObjectMeta, ∀ e ∈ all, Entry w.uid (metadata e.name) e := by
  obtain ⟨uid, owner, huid, rfl⟩ := desired_eq_ok hw
  have hu : w.uid = uid := by rw [Workload.uid, huid]; rfl
  refine ⟨fun name => {
    name := some name
    ns := w.metadata.ns
    labels := some (Dict.set .empty uidLabel uid)
    ownerReferences := some [owner]
    finalizers := some [Deployment.finalizer] }, fun e he => ?_⟩
  obtain ⟨p, -, he⟩ := List.mem_flatMap.1 he
  obtain ⟨city, -, rfl⟩ := List.mem_map.1 he
  exact ⟨rfl, rfl, hu.symm, by rw [hu], rfl⟩

theorem asWritten_of_mem_desired (hw : w.desired locations = .ok all) (he : e ∈ all) :
    e.asWritten = e := by
  obtain ⟨uid, owner, -, rfl⟩ := desired_eq_ok hw
  obtain ⟨p, -, he⟩ := List.mem_flatMap.1 he
  obtain ⟨city, -, rfl⟩ := List.mem_map.1 he
  rfl

/-- Bringing all wanted deployments up to date, and what there is on the way. -/
theorem upsertAll_states (now : Instant) (hw : w.desired locations = .ok all) (s : Server) :
    let pass := Pass.collect (upsert w.namespaceName) all
    let items := w.reached all s.deployments.content
    let after := pass.run (Server.answer now) s
    (after.1.isOk = true ↔ items = all) ∧
      after.2.deployments.content = revisedAll w.namespaceName items s.deployments.content ∧
      ∀ m ∈ pass.states (Server.answer now) s, ∃ p, p <+: items ∧
        m.deployments.content = revisedAll w.namespaceName p s.deployments.content := by
  obtain ⟨metadata, hentries⟩ := entries_of_desired hw
  have h := Pass.collect_states (Server.answer now) (fun s => s.deployments.content)
    (fun e f => w.canUpsert f e) (withRevised w.namespaceName) (fun e (he : e ∈ all) => by
      obtain ⟨hns, hname, -⟩ := metadata_of_mem_desired hw he
      exact attempts_upsert now hns hname (hentries e he).status (asWritten_of_mem_desired hw he)) s
  rw [through_canUpsert] at h
  exact h

/-! ## The parts of a pass -/

/-- Reporting the status leaves the deployments alone. -/
theorem states_report (w : Workload) (status : WorkloadStatus) (s : Server) :
    ∀ m ∈ Pass.states (Server.answer now) (do
        if w.status ≠ some status then
          perform (.patchWorkloadStatus w status)
        return awaitChange) s, m.deployments = s.deployments := by
  split
  · intro m hm
    rw [Pass.bind_eq, Pass.pure_eq, Pass.states_bind_done _ fun _ => awaitChange] at hm
    exact forall_states_perform (I := (·.deployments = s.deployments)) rfl rfl m hm
  · simp [Pass.states]

/-- What the part of a pass that writes deployments makes of them, and would make of them from
wherever it gets to; if it ends well, it has got through with all that are wanted. -/
theorem expand_states (now : Instant) (hw : w.desired locations = .ok all) (s : Server) :
    let after := (w.expand now locations).run (Server.answer now) s
    (after.1.isOk = true → w.reached all (w.swept (all.map (·.name)) s.deployments.content) = all) ∧
      after.2.deployments.content = w.outcome all s.deployments.content ∧
      ∀ m ∈ (w.expand now locations).states (Server.answer now) s,
        w.outcome all m.deployments.content = w.outcome all s.deployments.content := by
  obtain ⟨metadata, hentries⟩ := entries_of_desired hw
  obtain ⟨⟨t, hsweep, ht⟩, hsweeps⟩ := sweep_states w now s all
  obtain ⟨hok, hleft, hupserts⟩ := upsertAll_states now hw t
  rw [ht] at hok hleft hupserts
  have hupsert : ∀ m ∈ (Pass.collect (upsert w.namespaceName) all).states (Server.answer now) t,
      w.outcome all m.deployments.content = w.outcome all s.deployments.content := fun m hm => by
    obtain ⟨p, hp, hm⟩ := hupserts m hm
    rw [hm, outcome_of_revised hentries hp]
  unfold expand
  rw [hw, Pass.ofExcept, Pass.bind_eq, Pass.done_bind, Pass.bind_eq]
  rw [← and_assoc]
  constructor
  · rw [run_bind_of_ok ownDeployments_run, Pass.bind_eq, run_bind_of_ok hsweep, Pass.bind_eq]
    rcases hrun : (Pass.collect (upsert w.namespaceName) all).run (Server.answer now) t with
      ⟨_ | ds, u⟩ <;> rw [hrun] at hok hleft
    · rw [run_bind_of_error hrun]
      exact ⟨hok.1, hleft⟩
    · rw [run_bind_of_ok hrun]
      refine ⟨fun _ => hok.1 rfl, Eq.trans ?_ hleft⟩
      exact congrArg _ (states_report w _ u _ (Pass.run_mem_states _ _ u))
  · refine forall_states_bind (forall_states_bind (forall_states_perform rfl rfl) ?_) ?_
    · rintro ds u hu
      rw [Pass.run_perform] at hu
      cases hu
      simp [Pass.states]
    rintro own u hu
    rw [ownDeployments_run] at hu
    cases hu
    refine forall_states_bind (fun m hm => outcome_of_swept (hsweeps m hm)) fun _ u hu => ?_
    cases hsweep.symm.trans hu
    refine forall_states_bind hupsert fun ds u hu m hm => ?_
    rw [states_report w _ u m hm]
    exact hupsert u (Pass.mem_states_of_run hu)

/-- A pass on a workload that wants no deployments it can tell of leaves them alone. -/
theorem states_expand_of_error {err : Error} (hw : w.desired locations = .error err) (s : Server) :
    ∀ m ∈ (w.expand now locations).states (Server.answer now) s, m = s := by
  rw [expand, hw]
  simp [Pass.ofExcept, Pass.states]

/-- Deleting all of the workload's deployments, and what there is on the way. -/
theorem finalize_states (w : Workload) (now : Instant) (s : Server) :
    (∃ t, w.finalize.run (Server.answer now) s = (.ok (s.ownDeployments w).isEmpty, t) ∧
      t.deployments.content = w.swept [] s.deployments.content) ∧
      ∀ m ∈ w.finalize.states (Server.answer now) s, ∀ a,
        m.deployments.content a = s.deployments.content a ∨
          m.deployments.content a = w.swept [] s.deployments.content a := by
  obtain ⟨⟨t, hsweep, ht⟩, hsweeps⟩ := sweep_states w now s []
  have hall : isOrphan [] = fun d => !d.isDeleting := by
    funext d
    simp [isOrphan]
  rw [hall] at hsweep hsweeps
  simp only [finalize, Pass.bind_eq, Pass.pure_eq]
  constructor
  · refine ⟨t, ?_, ht⟩
    rw [run_bind_of_ok ownDeployments_run, run_bind_of_ok hsweep]
    rfl
  · refine forall_states_bind (forall_states_bind (forall_states_perform ?_ ?_) ?_) ?_
    · exact fun a => .inl rfl
    · exact fun a => .inl rfl
    · rintro ds u hu
      rw [Pass.run_perform] at hu
      cases hu
      simp [Pass.states]
    · rintro own u hu
      rw [ownDeployments_run] at hu
      cases hu
      rwa [Pass.states_bind_done _ fun _ => (s.ownDeployments w).isEmpty]

/-- What a teardown makes of the deployments, and would make of them from wherever it gets to. -/
theorem tearDown_states (w : Workload) (now : Instant) (s : Server) :
    let after := w.tearDown.run (Server.answer now) s
    let left f := if finalizer ∈ w.finalizers then w.swept [] f else f
    after.2.deployments.content = left s.deployments.content ∧
      ∀ m ∈ w.tearDown.states (Server.answer now) s,
        left m.deployments.content = left s.deployments.content := by
  rw [tearDown, withoutFinalizer]
  by_cases hfin : finalizer ∈ w.finalizers
  · simp only [if_pos hfin]
    obtain ⟨⟨t, hrun, ht⟩, hstates⟩ := finalize_states w now s
    have hrelease (release : Bool) : ∀ m ∈ Pass.states (Server.answer now) (do
        if release then
          perform (.setWorkloadFinalizers w (w.finalizers.filter (· ≠ finalizer)))
        return awaitChange) t, m.deployments = t.deployments := by
      cases release with
      | false => simp [Pass.states]
      | true =>
        simp only [if_true, Pass.bind_eq, Pass.pure_eq, Pass.states_bind_done _ fun _ => awaitChange]
        exact forall_states_perform rfl rfl
    constructor
    · refine Eq.trans ?_ ht
      simp only [Pass.bind_eq, run_bind_of_ok hrun]
      exact congrArg _ (hrelease _ _ (Pass.run_mem_states _ _ t))
    · refine forall_states_bind (fun m hm => swept_of_between (hstates m hm)) fun b u hu m hm => ?_
      cases hrun.symm.trans hu
      rw [hrelease _ m hm, ht]
      exact swept_of_between fun a => .inr rfl
  · simp only [if_neg hfin]
    exact ⟨rfl, by simp [Pass.states]⟩

/-! ## The whole pass -/

theorem states_missingNetworks (keys : List String) (s : Server) :
    ∀ m ∈ (missingNetworks keys).states (Server.answer now) s, m = s := by
  induction keys with
  | nil => simp [missingNetworks, Pass.states]
  | cons key rest ih =>
    rw [missingNetworks]
    split
    · exact ih
    · refine forall_states_bind (forall_states_perform rfl rfl) fun found t ht => ?_
      rw [Pass.run_perform] at ht
      cases ht
      refine forall_states_bind ih fun missing t ht => ?_
      rw [missingNetworks_run] at ht
      cases ht
      simp [Pass.states]

theorem states_reportUnavailable (reason message : String) (s : Server) :
    ∀ m ∈ ((w.reportUnavailable now reason message).bind fun _ => .done awaitChange).states
      (Server.answer now) s, m.deployments = s.deployments := by
  rw [Pass.states_bind_done _ fun _ => awaitChange]
  unfold reportUnavailable
  simp only
  split
  · exact forall_states_perform rfl rfl
  · simp [Pass.states]

/-- A pass that lacks something leaves the deployments alone. -/
theorem states_reconcile_of_not_expands (now : Instant) (hdel : w.isDeleting = false)
    (h : ¬ w.Expands s) :
    ∀ m ∈ (w.reconcile now).states (Server.answer now) s, m.deployments = s.deployments := by
  by_cases hfin : finalizer ∈ w.finalizers
  · rw [reconcile_eq hdel hfin]
    refine forall_states_bind (fun m hm => by rw [states_missingNetworks _ s m hm]) ?_
    rintro missing t ht
    rw [missingNetworks_run] at ht
    cases ht
    split
    · next hnet =>
      refine forall_states_bind (forall_states_perform rfl rfl) fun locations t ht => ?_
      rw [Pass.run_perform] at ht
      cases ht
      split
      · exact states_reportUnavailable _ _ s
      · next hloc => exact absurd ⟨hdel, hfin, hnet, hloc⟩ h
    · exact states_reportUnavailable _ _ s
  · rw [reconcile_of_not_mem hdel hfin, Pass.states_bind_done _ fun _ => awaitChange]
    exact forall_states_perform rfl rfl

/-- A pass that lacks nothing leads through what its part that writes deployments leads through. -/
theorem states_reconcile_of_expands (h : w.Expands s) :
    ∀ m ∈ (w.reconcile now).states (Server.answer now) s,
      m ∈ (w.expand now s.locations.objects).states (Server.answer now) s := by
  obtain ⟨hdel, hfin, hnet, hloc⟩ := h
  have hself := Pass.mem_states_self (Server.answer now)
    (w.expand now s.locations.objects) s
  rw [reconcile_eq hdel hfin]
  refine forall_states_bind (fun m hm => states_missingNetworks _ s m hm ▸ hself) fun keys t ht => ?_
  rw [missingNetworks_run, hnet] at ht
  cases ht
  rw [if_pos rfl]
  refine forall_states_bind (forall_states_perform hself hself) fun locations t ht => ?_
  rw [Pass.run_perform] at ht
  cases ht
  rw [if_neg hloc]
  exact fun m hm => hm

/-- Whatever a pass gets to, it comes upon the same networks and locations. -/
theorem expands_iff_of_mem_states (hm : m ∈ (w.reconcile now).states (Server.answer now) s) :
    m.locations = s.locations ∧ (w.Expands m ↔ w.Expands s) := by
  have hnet : m.networks = s.networks := Pass.forall_states (I := (·.networks = s.networks))
    (fun c t h => (Server.answer_networks now c t).trans h) _ rfl m hm
  have hloc : m.locations = s.locations := Pass.forall_states (I := (·.locations = s.locations))
    (fun c t h => (Server.answer_locations now c t).trans h) _ rfl m hm
  have hlacks : m.lacksNetwork = s.lacksNetwork := by
    funext key
    rw [Server.lacksNetwork, Server.lacksNetwork, hnet]
  exact ⟨hloc, by rw [Expands, Expands, hlacks, hloc]⟩

/-- What a pass leaves of the deployments is the same from wherever an earlier one gets to. -/
theorem reconcile_content_of_mem_states (now₁ now₂ now₃ : Instant)
    (hm : m ∈ (w.reconcile now₁).states (Server.answer now₁) s) :
    ((w.reconcile now₂).run (Server.answer now₂) m).2.deployments.content =
      ((w.reconcile now₃).run (Server.answer now₃) s).2.deployments.content := by
  obtain ⟨hloc, hexp⟩ := expands_iff_of_mem_states hm
  cases hdel : w.isDeleting with
  | true =>
    have hpass (now : Instant) : w.reconcile now = w.tearDown := by rw [reconcile, hdel, if_pos rfl]
    rw [hpass] at hm ⊢
    rw [hpass, (tearDown_states w _ m).1, (tearDown_states w _ s).1, (tearDown_states w _ s).2 m hm]
  | false =>
    by_cases h : w.Expands s
    · have hm' := states_reconcile_of_expands h m hm
      rw [reconcile_run h, reconcile_run (hexp.2 h), hloc]
      cases hw : w.desired s.locations.objects with
      | error e =>
        rw [states_expand_of_error hw s m hm',
          states_expand_of_error hw s _ (Pass.run_mem_states _ _ s),
          states_expand_of_error hw s _ (Pass.run_mem_states _ _ s)]
      | ok all =>
        rw [(expand_states _ hw m).2.1, (expand_states _ hw s).2.1, (expand_states _ hw s).2.2 m hm']
    · have hs := states_reconcile_of_not_expands now₃ hdel h _ (Pass.run_mem_states _ _ s)
      have hm' := states_reconcile_of_not_expands now₂ hdel (mt hexp.1 h) _
        (Pass.run_mem_states _ _ m)
      rw [hs, hm', states_reconcile_of_not_expands now₁ hdel h m hm]

/-- A pass that is cut off by a failing call and run again on the same workload, by itself, leaves the
deployments that one undisturbed pass leaves, up to what the server assigns: wherever it was cut off,
whatever the workload and the store, and also when it tears down. -/
theorem reconcile_resumes (w : Workload) (s : Server) (k : Nat) (e : Error)
    (now₁ now₂ now₃ : Instant) :
    let cut := (w.reconcile now₁).run ((Server.answer now₁).failing e) (k, s)
    cut.1 = (if k < ((w.reconcile now₁).calls (Server.answer now₁) s).length then .error e
        else ((w.reconcile now₁).run (Server.answer now₁) s).1) ∧
      ∀ address,
        ((w.reconcile now₂).run (Server.answer now₂) cut.2.2).2.deployments.content address =
          ((w.reconcile now₃).run (Server.answer now₃) s).2.deployments.content address := by
  obtain ⟨hresult, hmem⟩ := Pass.run_failing (Server.answer now₁) (w.reconcile now₁) e k s
  exact ⟨hresult, fun address => congrFun (reconcile_content_of_mem_states now₁ now₂ now₃ hmem) _⟩

end ControlPlane.Workload
