import ControlPlane.Proofs.Deployment.Location
import ControlPlane.Proofs.Rest.Observation
import ControlPlane.Proofs.Server.Footprint
import ControlPlane.Proofs.Server.Interleaving

/-!
# A status is reported once

Writing a status makes the controllers look at the object again. A pass that comes back to an object
with the status that it wrote, and is told the same of everything else, makes the same calls up to its
report and has nothing to report, whatever time it is by then.

* `Pass.Settles`: what a pass reports, another one with that status does not report again.
* `advance_withStatus`: a rollout up to its report depends on the location alone of what the status says.
* `Task.status_reported_once`: the passes of all four controllers.
-/

namespace ControlPlane

open Pass (perform)

/-! ## Passes that report -/

/-- Whether a call writes a status. -/
def Call.reportsStatus : Call → Bool
  | .patchDeploymentStatus .. | .patchWorkloadStatus .. | .patchInstanceStatus .. => true
  | _ => false

/-- The calls that write no status. -/
def Call.silent (c : Call) : Bool :=
  !c.reportsStatus

namespace Pass

variable {α β σ Status : Type} {answer : Answer σ} {s : σ} {report : Status → Call}
  {p : Pass α} {again : Status → Pass α}

/-- What a pass reports over a store, it reports of one object, and the pass with that status reports
nothing over the same store. -/
def Settles (answer : Answer σ) (s : σ) (report : Status → Call) (p : Pass α)
    (again : Status → Pass α) : Prop :=
  ∀ c ∈ p.calls answer s, c.reportsStatus = true →
    ∃ status, c = report status ∧ ∀ c' ∈ (again status).calls answer s, c'.reportsStatus = false

theorem Only.reportsStatus (h : p.Only Call.silent) :
    ∀ c ∈ p.calls answer s, c.reportsStatus = false := fun c hc => by
  simpa [Call.silent] using h.forall_calls c hc

/-- A pass that reports nothing has nothing to report again. -/
theorem settles_of_silent (h : p.Only Call.silent) : Settles answer s report p again :=
  fun c hc hreport => absurd (h.reportsStatus c hc) (by rw [hreport]; decide)

/-- Passes that begin alike and silently settle when their rests do. -/
theorem Settles.bind {f : α → Pass β} {g : α → Status → Pass β} (hp : p.Only Call.silent)
    (h : ∀ a t, Settles answer t report (f a) (g a)) :
    Settles answer s report (p.bind f) fun status => p.bind (g · status) := by
  intro c hc hreport
  obtain hc | ⟨a, t, hrun, hc⟩ := mem_calls_bind.1 hc
  · exact absurd (hp.reportsStatus c hc) (by rw [hreport]; decide)
  obtain ⟨status, rfl, hagain⟩ := h a t c hc hreport
  refine ⟨status, rfl, forall_calls_bind hp.reportsStatus fun a' t' hrun' => ?_⟩
  cases hrun.symm.trans hrun'
  exact hagain

/-- What is done silently afterwards changes nothing. -/
theorem Settles.bind_silent {f : α → Pass β} (h : Settles answer s report p again)
    (hf : ∀ a, (f a).Only Call.silent) :
    Settles answer s report (p.bind f) fun status => (again status).bind f := by
  intro c hc hreport
  obtain hc | ⟨a, t, -, hc⟩ := mem_calls_bind.1 hc
  · obtain ⟨status, rfl, hagain⟩ := h c hc hreport
    exact ⟨status, rfl, forall_calls_bind hagain fun a t _ => (hf a).reportsStatus⟩
  · exact absurd ((hf a).reportsStatus c hc) (by rw [hreport]; decide)

theorem Settles.ite {P : Prop} [Decidable P] {p' : Pass α} {again' : Status → Pass α}
    (h : Settles answer s report p again) (h' : Settles answer s report p' again') :
    Settles answer s report (if P then p else p') fun status =>
      if P then again status else again' status := by
  split
  · exact h
  · exact h'

/-- A status is written, and the pass that has it writes none. -/
theorem settles_report {P : Prop} [Decidable P] {status : Status} {a : α}
    {f : (report status).Reply → Pass α} (hf : ∀ r, (f r).Only Call.silent)
    (h : (again status).Only Call.silent) :
    Settles answer s report (if P then (perform (report status)).bind f else .done a) again := by
  split
  · intro c hc hreport
    obtain hc | ⟨r, t, -, hc⟩ := mem_calls_bind.1 hc
    · exact ⟨status, mem_calls_perform.1 hc, h.reportsStatus⟩
    · exact absurd ((hf r).reportsStatus c hc) (by rw [hreport]; decide)
  · exact settles_of_silent (only_done a)

end Pass

/-! ## Workloads -/

namespace Workload

variable {σ : Type} {answer : Answer σ} {s : σ}

theorem silent_upsert (ns : String) (wanted : Deployment) : (upsert ns wanted).Only Call.silent :=
  fun _ => meets_upsert_of rfl (fun _ => rfl) fun _ _ _ => rfl

theorem reportUnavailable_eq (w : Workload) (now : Instant) (reason message : String) :
    w.reportUnavailable now reason message =
      let filing := (w.status.getD {}).conditions.set
        (w.observe now Condition.available Condition.fails reason message)
      if filing.2 = true then
        perform (.patchWorkloadStatus w { w.status.getD {} with conditions := filing.1 })
      else .done () :=
  rfl

theorem settles_reportUnavailable (w : Workload) (now later : Instant) (reason message : String) :
    Pass.Settles answer s (.patchWorkloadStatus w) (w.reportUnavailable now reason message)
      fun status => reportUnavailable { w with status := some status } later reason message := by
  have hagain := ConditionSet.set_again (w.status.getD {}).conditions
    (w.observe now Condition.available Condition.fails reason message) later
  refine Pass.settles_report (f := .done) (fun _ => Pass.only_done _) ?_
  rw [reportUnavailable_eq, if_neg]
  · exact Pass.only_done _
  · exact Bool.eq_false_iff.1 (congrArg Prod.snd hagain)

theorem settles_expand (w : Workload) (now later : Instant) (locations : List Location) :
    Pass.Settles answer s (.patchWorkloadStatus w) (w.expand now locations)
      fun status => expand { w with status := some status } later locations := by
  refine Pass.Settles.bind (Pass.only_ofExcept _) fun wanted t => ?_
  refine Pass.Settles.bind (w.only_ownDeployments fun _ _ => rfl) fun existing t => ?_
  refine Pass.Settles.bind (Pass.only_forEach fun d _ => Pass.only_perform rfl) fun _ t => ?_
  refine Pass.Settles.bind (Pass.only_collect fun d _ => silent_upsert _ d) fun upserted t => ?_
  refine Pass.settles_report (fun _ => Pass.only_done _) ?_
  dsimp only
  rw [aggregate_again, if_neg (not_not_intro rfl)]
  exact Pass.only_done _

theorem settles_reconcile (w : Workload) (now later : Instant) :
    Pass.Settles answer s (.patchWorkloadStatus w) (w.reconcile now)
      fun status => reconcile { w with status := some status } later := by
  by_cases hdel : w.isDeleting = true
  · refine Pass.settles_of_silent ?_
    rw [reconcile, if_pos hdel]
    exact w.only_tearDown.imp fun c hc => by cases c <;> first | rfl | cases hc
  by_cases hfin : finalizer ∈ w.finalizers
  · have hagain (status : WorkloadStatus) : reconcile { w with status := some status } later = _ :=
      reconcile_eq (Bool.not_eq_true _ ▸ hdel) hfin
    simp only [reconcile_eq (Bool.not_eq_true _ ▸ hdel) hfin, hagain]
    refine Pass.Settles.bind (only_missingNetworks (fun _ _ => rfl) _) fun missing t => ?_
    refine Pass.Settles.ite ?_ ?_
    · refine Pass.Settles.bind (Pass.only_perform rfl) fun locations t => ?_
      refine Pass.Settles.ite ?_ (w.settles_expand now later locations)
      exact (w.settles_reportUnavailable now later _ _).bind_silent fun _ => Pass.only_done _
    · exact (w.settles_reportUnavailable now later _ _).bind_silent fun _ => Pass.only_done _
  · refine Pass.settles_of_silent ?_
    rw [reconcile, if_neg hdel, withFinalizer, if_neg hfin]
    exact Pass.Only.bind (Pass.only_perform rfl) fun _ => Pass.only_done _

end Workload

/-! ## Deployments -/

namespace Deployment

variable {σ : Type} {answer : Answer σ} {s : σ} {d : Deployment} {now later : Instant}

theorem reportUnscheduled_eq (d : Deployment) (now : Instant) (reason message : String) :
    d.reportUnscheduled now reason message =
      let filing := (d.status.getD {}).conditions.set (d.unavailable now reason message)
      if filing.2 = true then
        perform (.patchDeploymentStatus d { d.status.getD {} with conditions := filing.1 })
      else .done () :=
  rfl

/-- The status with which a deployment that cannot be scheduled says so. -/
def unscheduled (d : Deployment) (now : Instant) (reason message : String) : DeploymentStatus :=
  { d.status.getD {} with
    conditions :=
      ((d.status.getD {}).conditions.set (d.unavailable now reason message)).1 }

theorem mem_calls_reportUnscheduled {reason message : String} {c : Call}
    (h : c ∈ (d.reportUnscheduled now reason message).calls answer s) :
    c = .patchDeploymentStatus d (d.unscheduled now reason message) := by
  rw [reportUnscheduled_eq] at h
  dsimp only at h
  split at h
  · exact Pass.mem_calls_perform.1 h
  · cases h

theorem reportUnscheduled_again {reason message : String} :
    reportUnscheduled { d with status := some (d.unscheduled now reason message) } later reason
      message = .done () := by
  have hagain := ConditionSet.set_again (d.status.getD {}).conditions
    (d.unavailable now reason message) later
  rw [reportUnscheduled_eq, if_neg]
  exact Bool.eq_false_iff.1 (congrArg Prod.snd hagain)

theorem location_unscheduled {reason message : String} :
    location { d with status := some (d.unscheduled now reason message) } = d.location := by
  cases d
  next metadata spec status => cases status <;> rfl

/-- What the scheduler does about what it has found. -/
def enact (d : Deployment) (now : Instant) : Selection → Pass Requeue
  | .noLocations =>
    (d.reportUnscheduled now "NoLocations" "No locations are registered with the system.").bind
      fun _ => .done (some noLocationsRequeue)
  | .noCandidates =>
    (d.reportUnscheduled now "NoCandidateLocations"
      "No locations are candidates for this deployment.").bind fun _ => .done awaitChange
  | .selected l =>
    (perform (.patchDeploymentStatus d (d.assigned now l))).bind fun _ => .done awaitChange

theorem schedule_eq (d : Deployment) (now : Instant) :
    d.schedule now =
      if (d.isDeleting || d.location.isSome) = true then .done awaitChange
      else (perform .listLocations).bind fun locations => d.enact now (d.select locations) := by
  rfl

/-- Once the scheduler has reported, the deployment has a location, or the same is found again and
not reported again. -/
theorem enact_again (later : Instant) {selection : Selection} {c : Call}
    (h : c ∈ (d.enact now selection).calls answer s) : ∃ status, c = .patchDeploymentStatus d status ∧
      ((location { d with status := some status }).isSome = true ∨
        location { d with status := some status } = d.location ∧
          (enact { d with status := some status } later selection).Only Call.silent) := by
  have hstuck {reason message : String} {requeue : Requeue}
      (h : c ∈ ((d.reportUnscheduled now reason message).bind fun _ =>
        (.done requeue : Pass Requeue)).calls answer s) :
      c = .patchDeploymentStatus d (d.unscheduled now reason message) := by
    obtain h | ⟨_, _, _, h⟩ := Pass.mem_calls_bind.1 h
    · exact mem_calls_reportUnscheduled h
    · cases h
  cases selection with
  | noLocations =>
    refine ⟨_, hstuck h, .inr ⟨location_unscheduled, ?_⟩⟩
    rw [enact, reportUnscheduled_again]
    exact Pass.only_done _
  | noCandidates =>
    refine ⟨_, hstuck h, .inr ⟨location_unscheduled, ?_⟩⟩
    rw [enact, reportUnscheduled_again]
    exact Pass.only_done _
  | selected l =>
    obtain h | ⟨_, _, _, h⟩ := Pass.mem_calls_bind.1 h
    · exact ⟨_, Pass.mem_calls_perform.1 h, .inl rfl⟩
    · cases h

theorem settles_schedule (d : Deployment) (now later : Instant) :
    Pass.Settles answer s (.patchDeploymentStatus d) (d.schedule now)
      fun status => schedule { d with status := some status } later := by
  intro c hc hreport
  rw [schedule_eq] at hc
  split at hc
  · cases hc
  next hdue =>
  obtain hc | ⟨locations, t, hlist, hc⟩ := Pass.mem_calls_bind.1 hc
  · obtain rfl := Pass.mem_calls_perform.1 hc
    cases hreport
  obtain ⟨status, rfl, hdone⟩ := enact_again later hc
  refine ⟨status, rfl, ?_⟩
  dsimp only
  obtain hsome | ⟨hlocation, hsilent⟩ := hdone
  · rw [schedule_eq, if_pos (by rw [hsome, Bool.or_true])]
    exact (Pass.only_done _).reportsStatus
  · rw [schedule_eq, hlocation, if_neg (by exact hdue)]
    refine Pass.forall_calls_bind (Pass.only_perform rfl).reportsStatus fun locations' t' hlist' => ?_
    cases hlist.symm.trans hlist'
    exact hsilent.reportsStatus

/-! ### Rolling out -/

/-- A rollout up to its report: the instances that were found, and whether the networks are ready. -/
def advance (d : Deployment) : Pass (List Instance × Bool) := do
  let uid ← d.requireUid
  let instances ← perform (.listInstances d.namespaceName uid)
  let actions ← Pass.ofExcept (d.plan instances)
  Pass.forEach Action.execute actions
  let networkReady ← d.stageNetworks
  if networkReady then
    Pass.forEach Instance.liftNetworkGate instances
  return (instances, networkReady)

/-- The report at the end of a rollout. -/
def reportProgress (d : Deployment) (now : Instant) (instances : List Instance) (ready : Bool) :
    Pass Requeue :=
  let status := d.progress now (ReplicaSummary.ofInstances instances d.templateHash) ready
  if d.status ≠ some status then
    (perform (.patchDeploymentStatus d status)).bind fun _ => .done awaitChange
  else .done awaitChange

theorem rollOut_eq (d : Deployment) (now : Instant) :
    d.rollOut now = d.advance.bind fun seen => d.reportProgress now seen.1 seen.2 := by
  unfold rollOut advance
  simp only [Pass.bind_eq, Pass.bind_assoc]
  refine congrArg d.requireUid.bind (funext fun uid => congrArg (Pass.bind _) (funext fun instances =>
    congrArg (Pass.bind _) (funext fun actions => congrArg (Pass.bind _) (funext fun _ =>
      congrArg (Pass.bind _) (funext fun ready => ?_)))))
  cases ready
  · rfl
  · simp only [if_true, Pass.bind_assoc, Pass.pure_eq, Pass.done_bind]
    rfl

theorem silent_advance (d : Deployment) : d.advance.Only Call.silent := by
  refine d.only_requireUid.bind fun uid => ?_
  refine Pass.Only.bind (Pass.only_perform rfl) fun instances => ?_
  refine (Pass.only_ofExcept _).bind fun actions => ?_
  refine Pass.Only.bind (Pass.only_forEach fun a _ => a.only_execute.imp fun c hc => ?_) fun _ => ?_
  · cases c <;> first | rfl | cases hc
  refine (d.only_stageNetworks.imp fun c hc => ?_).bind fun ready => ?_
  · cases c <;> first | rfl | cases hc
  dsimp only
  split
  · refine Pass.Only.bind (Pass.only_forEach fun i _ => ?_) fun _ => Pass.only_done _
    rw [Instance.liftNetworkGate]
    split
    · exact Pass.only_perform rfl
    · exact Pass.only_done _
  · exact Pass.only_done _

section

variable {status : Option DeploymentStatus}

theorem slotActions_withStatus (h : location { d with status } = d.location) :
    slotActions { d with status } = d.slotActions := by
  have hslot (slot : Nat) (held : Option Instance) :
      slotAction { d with status } slot held = d.slotAction slot held := by
    cases held with
    | none =>
      have hnew : newInstance { d with status } slot = d.newInstance slot := by
        unfold newInstance
        rw [h]
        rfl
      rw [slotAction, hnew]
      rfl
    | some i => rfl
  funext holder slots
  induction slots with
  | nil => rfl
  | cons slot rest ih => rw [slotActions, slotActions, hslot, ih]

theorem stageBinding_withStatus : stageBinding { d with status } = d.stageBinding := by
  funext ns location index i
  refine congrArg (Pass.bind _) (funext fun found => ?_)
  cases found <;> rfl

theorem stageBindings_withStatus : stageBindings { d with status } = d.stageBindings := by
  funext ns location index interfaces
  induction interfaces generalizing index with
  | nil => rfl
  | cons i rest ih =>
    rw [stageBindings, stageBindings, stageBinding_withStatus, ih]

/-- What the status says of other things than the location has no part in a rollout. -/
theorem advance_withStatus (h : location { d with status } = d.location) :
    advance { d with status } = d.advance := by
  have hplan : plan { d with status } = d.plan := by
    funext instances
    unfold plan orderedPlan
    rw [slotActions_withStatus h]
    rfl
  have hstage : stageNetworks { d with status } = d.stageNetworks := by
    unfold stageNetworks
    rw [h, stageBindings_withStatus]
    rfl
  unfold advance
  rw [hplan, hstage]
  rfl

end

theorem mem_calls_reportProgress {instances : List Instance} {ready : Bool} {c : Call}
    (h : c ∈ (d.reportProgress now instances ready).calls answer s) :
    c = .patchDeploymentStatus d
      (d.progress now (.ofInstances instances d.templateHash) ready) := by
  unfold reportProgress at h
  dsimp only at h
  split at h
  · obtain h | ⟨_, _, _, h⟩ := Pass.mem_calls_bind.1 h
    · exact Pass.mem_calls_perform.1 h
    · cases h
  · cases h

theorem reportProgress_again {instances : List Instance} {ready : Bool} :
    reportProgress { d with status := some (d.progress now
      (.ofInstances instances d.templateHash) ready) } later instances ready = .done awaitChange :=
  if_neg (not_not_intro (congrArg some progress_again.symm))

theorem settles_rollOut (hdel : d.isDeleting = false) (hfin : finalizer ∈ d.finalizers)
    (hl : d.location ≠ none) :
    Pass.Settles answer s (.patchDeploymentStatus d) (d.reconcile now)
      fun status => reconcile { d with status := some status } later := by
  intro c hc hreport
  rw [reconcile_eq_rollOut hdel hfin hl, rollOut_eq] at hc
  obtain hc | ⟨⟨instances, ready⟩, t, hrun, hc⟩ := Pass.mem_calls_bind.1 hc
  · exact absurd (d.silent_advance.reportsStatus c hc) (by rw [hreport]; decide)
  obtain rfl := mem_calls_reportProgress hc
  refine ⟨_, rfl, ?_⟩
  have hlocation : location { d with status := some (d.progress now
      (.ofInstances instances d.templateHash) ready) } = d.location :=
    location_progress _ _
  have hagain : reconcile { d with status := some (d.progress now
      (.ofInstances instances d.templateHash) ready) } later = _ :=
    reconcile_eq_rollOut hdel hfin (hlocation ▸ hl)
  dsimp only
  rw [hagain, rollOut_eq, advance_withStatus hlocation]
  refine Pass.forall_calls_bind d.silent_advance.reportsStatus fun seen t' hrun' => ?_
  cases hrun.symm.trans hrun'
  rw [reportProgress_again]
  exact (Pass.only_done _).reportsStatus

theorem settles_reconcile (d : Deployment) (now later : Instant) :
    Pass.Settles answer s (.patchDeploymentStatus d) (d.reconcile now)
      fun status => reconcile { d with status := some status } later := by
  by_cases hdel : d.isDeleting = true
  · refine Pass.settles_of_silent ?_
    rw [reconcile, if_pos hdel]
    exact d.only_tearDown.imp fun c hc => by cases c <;> first | rfl | cases hc
  by_cases hfin : finalizer ∈ d.finalizers
  · by_cases hl : d.location ≠ none
    · exact settles_rollOut (Bool.not_eq_true _ ▸ hdel) hfin hl
    · refine Pass.settles_of_silent ?_
      rw [reconcile, if_neg hdel, withFinalizer, if_pos hfin]
      dsimp only
      rw [if_pos (by simpa using hl)]
      exact Pass.only_done _
  · refine Pass.settles_of_silent ?_
    rw [reconcile, if_neg hdel, withFinalizer, if_neg hfin]
    exact Pass.Only.bind (Pass.only_perform rfl) fun _ => Pass.only_done _

end Deployment

/-! ## Instances -/

namespace Instance

variable {σ : Type} {answer : Answer σ} {s : σ}

theorem reconcile_eq {i : Instance} (now : Instant) (hdel : i.isDeleting = false) :
    i.reconcile now = i.gatedFailure.bind fun failure =>
      let filing := (i.status.getD {}).conditions.set (i.readyCondition now failure)
      if filing.2 = true then
        (perform (.patchInstanceStatus i { i.status.getD {} with conditions := filing.1 })).bind
          fun _ => .done awaitChange
      else .done awaitChange := by
  rw [reconcile, hdel, if_neg Bool.false_ne_true]
  rfl

theorem gatedFailure_withStatus {i : Instance} {status : Option InstanceStatus} :
    gatedFailure { i with status } = i.gatedFailure := by
  have hsame : networkFailure { i with status } = i.networkFailure := by
    unfold networkFailure
    rw [show controllingDeployment? { i with status } = i.controllingDeployment? from rfl]
    split
    · rfl
    · refine congrArg (Pass.bind _) (funext fun found => ?_)
      cases found <;> rfl
  rw [gatedFailure, hsame]
  rfl

theorem settles_reconcile (i : Instance) (now later : Instant) :
    Pass.Settles answer s (.patchInstanceStatus i) (i.reconcile now)
      fun status => reconcile { i with status := some status } later := by
  by_cases hdel : i.isDeleting = true
  · refine Pass.settles_of_silent ?_
    rw [reconcile, if_pos hdel]
    exact Pass.only_done _
  have hagain (status : InstanceStatus) :=
    reconcile_eq (i := { i with status := some status }) later (Bool.not_eq_true _ ▸ hdel)
  simp only [reconcile_eq now (Bool.not_eq_true _ ▸ hdel), hagain, gatedFailure_withStatus]
  refine Pass.Settles.bind (i.only_gatedFailure (fun _ _ => rfl) fun _ _ => rfl) fun failure t => ?_
  refine Pass.settles_report (fun _ => Pass.only_done _) ?_
  dsimp only [Option.getD_some]
  rw [if_neg]
  · exact Pass.only_done _
  · rw [readyCondition_again rfl, ConditionSet.set_again]
    exact Bool.false_ne_true

end Instance

/-! ## All controllers -/

namespace Task

/-- The call writes a status of the object that a pass is made on; then the pass is to be made on the
object with that status. -/
inductive Reports : Task → Call → Task → Prop
  | workload (w : Workload) (status : WorkloadStatus) :
    Reports (.workload w) (.patchWorkloadStatus w status)
      (.workload { w with status := some status })
  | scheduling (d : Deployment) (status : DeploymentStatus) :
    Reports (.scheduling d) (.patchDeploymentStatus d status)
      (.scheduling { d with status := some status })
  | deployment (d : Deployment) (status : DeploymentStatus) :
    Reports (.deployment d) (.patchDeploymentStatus d status)
      (.deployment { d with status := some status })
  | inst (i : Instance) (status : InstanceStatus) :
    Reports (.inst i) (.patchInstanceStatus i status) (.inst { i with status := some status })

/-- A status is reported once. Whatever a pass writes as a status is the status of its own object, and
the pass on the object that has it, over a store with the same contents and at any other time, writes
no status. So the status of a workload and that of a deployment come out the same again. -/
theorem status_reported_once {σ : Type} (answer : Answer σ) (s : σ) (now later : Instant) :
    (∀ task : Task, ∀ c ∈ (task.pass now).calls answer s, c.reportsStatus = true →
      ∃ again, task.Reports c again ∧
        ∀ c' ∈ (again.pass later).calls answer s, c'.reportsStatus = false) ∧
    (∀ (w : Workload) (ds : List Deployment),
      Workload.aggregate { w with status := some (w.aggregate now ds) } later ds =
        w.aggregate now ds) ∧
    ∀ (d : Deployment) (summary : ReplicaSummary) (ready : Bool),
      Deployment.progress { d with status := some (d.progress now summary ready) } later summary
        ready = d.progress now summary ready := by
  refine ⟨fun task c hc hreport => ?_, fun w ds => Workload.aggregate_again,
    fun d summary ready => Deployment.progress_again⟩
  cases task with
  | workload w =>
    obtain ⟨status, rfl, hagain⟩ := w.settles_reconcile now later c hc hreport
    exact ⟨_, .workload w status, hagain⟩
  | scheduling d =>
    obtain ⟨status, rfl, hagain⟩ := d.settles_schedule now later c hc hreport
    exact ⟨_, .scheduling d status, hagain⟩
  | deployment d =>
    obtain ⟨status, rfl, hagain⟩ := d.settles_reconcile now later c hc hreport
    exact ⟨_, .deployment d status, hagain⟩
  | inst i =>
    obtain ⟨status, rfl, hagain⟩ := i.settles_reconcile now later c hc hreport
    exact ⟨_, .inst i status, hagain⟩

/-- The status of a workload that had none is not written again a day later. -/
theorem status_reported_once_oneCity :
    ∃ status, .patchWorkloadStatus Workload.oneCityWeb status ∈
        (Task.pass ⟨0, 0⟩ (.workload Workload.oneCityWeb)).calls (Server.answer ⟨0, 0⟩)
          Workload.branchServer ∧
      ∀ c ∈ (Task.pass ⟨86400, 0⟩ (.workload { Workload.oneCityWeb with
          status := some status })).calls (Server.answer ⟨0, 0⟩) Workload.branchServer,
        c.reportsStatus = false := by
  have hreports : ∃ c ∈ (Task.pass ⟨0, 0⟩ (.workload Workload.oneCityWeb)).calls
      (Server.answer ⟨0, 0⟩) Workload.branchServer, c.reportsStatus = true := by
    decide +kernel
  obtain ⟨c, hc, hreport⟩ := hreports
  obtain ⟨again, hagain, hsilent⟩ := (status_reported_once (Server.answer ⟨0, 0⟩)
    Workload.branchServer ⟨0, 0⟩ ⟨86400, 0⟩).1 _ c hc hreport
  cases hagain with
  | workload w status => exact ⟨status, hc, hsilent⟩

end Task

end ControlPlane
