import ControlPlane.Proofs.Meta.History
import ControlPlane.Proofs.Rest.Reports

/-!
# What the readiness of an instance follows from

The `Ready` condition is True exactly when no gate is held on the instance, the runtime has programmed it
and it runs. Otherwise its reason and its message are those of the first of the three that fails
(`explains_readyCondition`). Nothing else of the instance has a part in it, and the failure of a network
only while a gate is held (`agree_readyCondition`).

A pass files that condition. What is on file from an earlier pass decides whether there is anything to
write, but not what comes to be on file (`readiness_derived`).
-/

namespace ControlPlane

open Pass (perform mem_calls_bind mem_calls_perform)

/-- The conditions are the same but for the time of the last transition. -/
def Condition.AgreeButTime (c c' : Condition) : Prop :=
  c = { c' with lastTransitionTime := c.lastTransitionTime }

namespace Condition.AgreeButTime

variable {a b c : Condition}

theorem symm (h : a.AgreeButTime b) : b.AgreeButTime a := by
  rw [AgreeButTime] at h ⊢
  rw [h]

theorem trans (hab : a.AgreeButTime b) (hbc : b.AgreeButTime c) : a.AgreeButTime c := by
  rw [AgreeButTime] at hab hbc ⊢
  rw [hab, hbc]

end Condition.AgreeButTime

namespace Instance

variable {i : Instance} {now later : Instant} {failure : Option String}

/-! ## The condition -/

/-- A runtime condition, if it is there, gives its reason and its message to another condition. A reason
that is empty or `Pending` is not given, and no message is given that is empty or comes with an unknown
status: those defaults stand instead. -/
structure Gives (source : Option Condition) (defaultReason defaultMessage : String) (c : Condition) :
    Prop where
  reason : ∀ s ∈ source, s.reason ≠ "" → s.reason ≠ pending → c.reason = s.reason
  noReason : (∀ s ∈ source, s.reason = "" ∨ s.reason = pending) → c.reason = defaultReason
  message : ∀ s ∈ source, s.status ≠ Condition.unknown → s.message ≠ "" → c.message = s.message
  noMessage : (∀ s ∈ source, s.status = Condition.unknown ∨ s.message = "") →
    c.message = defaultMessage

/-- What a `Ready` condition says of an instance. -/
structure Explains (i : Instance) (failure : Option String) (c : Condition) : Prop where
  type : c.type = Condition.ready
  generation : c.observedGeneration = i.metadata.generation
  status : c.status =
    if i.gates = [] ∧ i.isTrue Condition.programmed = true ∧ i.isTrue Condition.running = true
    then Condition.holds else Condition.fails
  gated : i.gates ≠ [] → ∀ message ∈ failure,
    c.reason = NetworkBinding.failedToCreate ∧ c.message = message
  held : i.gates ≠ [] → failure = none →
    c.reason = "SchedulingGatesPresent" ∧
      c.message = "Scheduling gates present: " ++ ", ".intercalate (i.gates.map (·.name))
  unprogrammed : i.gates = [] → i.isTrue Condition.programmed = false →
    Gives (i.condition? Condition.programmed) "PendingProgramming" "Instance has not been programmed" c ∧
      c.reason ≠ pending
  stopped : i.gates = [] → i.isTrue Condition.programmed = true → i.isTrue Condition.running = false →
    Gives (i.condition? Condition.running) pending "Instance is not running" c
  ready : i.gates = [] → i.isTrue Condition.programmed = true → i.isTrue Condition.running = true →
    c.reason = "Running" ∧ c.message = "Instance is ready"
  reasoned : c.reason ≠ ""

theorem carriedReason_cases (source : Option Condition) (default : String) :
    (∃ s ∈ source, s.reason ≠ "" ∧ s.reason ≠ pending ∧ carriedReason source default = s.reason) ∨
      (∀ s ∈ source, s.reason = "" ∨ s.reason = pending) ∧
        carriedReason source default = default := by
  cases source with
  | none => exact .inr ⟨nofun, rfl⟩
  | some s =>
    by_cases h : s.reason = "" ∨ s.reason = pending
    · refine .inr ⟨fun s' hs' => ?_, if_pos h⟩
      rwa [← Option.some.inj hs']
    · obtain ⟨hne, hpending⟩ := not_or.1 h
      exact .inl ⟨s, rfl, hne, hpending, if_neg h⟩

theorem carriedMessage_cases (source : Option Condition) (default : String) :
    (∃ s ∈ source, s.status ≠ Condition.unknown ∧ s.message ≠ "" ∧
        carriedMessage source default = s.message) ∨
      (∀ s ∈ source, s.status = Condition.unknown ∨ s.message = "") ∧
        carriedMessage source default = default := by
  cases source with
  | none => exact .inr ⟨nofun, rfl⟩
  | some s =>
    by_cases h : s.status = Condition.unknown ∨ s.message = ""
    · refine .inr ⟨fun s' hs' => ?_, if_pos h⟩
      rwa [← Option.some.inj hs']
    · obtain ⟨hstatus, hne⟩ := not_or.1 h
      exact .inl ⟨s, rfl, hstatus, hne, if_neg h⟩

theorem gives_carried (source : Option Condition) (reason message : String) (status : String) :
    Gives source reason message (i.observe now Condition.ready status
      (carriedReason source reason) (carriedMessage source message)) := by
  refine ⟨fun s hs hne hpending => ?_, fun hnone => ?_, fun s hs hstatus hne => ?_, fun hnone => ?_⟩
  · show carriedReason source reason = s.reason
    obtain ⟨s', hs', -, -, heq⟩ | ⟨hnone, -⟩ := carriedReason_cases source reason
    · rw [heq, Option.mem_unique hs' hs]
    · exact absurd (hnone s hs) (not_or.2 ⟨hne, hpending⟩)
  · show carriedReason source reason = reason
    obtain ⟨s, hs, hne, hpending, -⟩ | ⟨-, heq⟩ := carriedReason_cases source reason
    · exact absurd (hnone s hs) (not_or.2 ⟨hne, hpending⟩)
    · exact heq
  · show carriedMessage source message = s.message
    obtain ⟨s', hs', -, -, heq⟩ | ⟨hnone, -⟩ := carriedMessage_cases source message
    · rw [heq, Option.mem_unique hs' hs]
    · exact absurd (hnone s hs) (not_or.2 ⟨hstatus, hne⟩)
  · show carriedMessage source message = message
    obtain ⟨s, hs, hstatus, hne, -⟩ | ⟨-, heq⟩ := carriedMessage_cases source message
    · exact absurd (hnone s hs) (not_or.2 ⟨hstatus, hne⟩)
    · exact heq

/-- A reason that is carried over is not empty, and is `Pending` only where that is the default. -/
theorem carriedReason_ne {text : String} (source : Option Condition) {default : String}
    (htext : text = "" ∨ text = pending) (hdefault : default ≠ text) :
    carriedReason source default ≠ text := by
  obtain ⟨s, -, hne, hpending, heq⟩ | ⟨-, heq⟩ := carriedReason_cases source default
  · rw [heq]
    rcases htext with rfl | rfl
    · exact hne
    · exact hpending
  · rwa [heq]

/-- How the condition comes about, by the first stage that an instance fails. -/
inductive Derived (i : Instance) (now : Instant) : Option String → Condition → Prop
  | networkFailed (hgates : i.gates ≠ []) (message : String) :
    Derived i now (some message)
      (i.observe now Condition.ready Condition.fails NetworkBinding.failedToCreate message)
  | gated (hgates : i.gates ≠ []) :
    Derived i now none (i.observe now Condition.ready Condition.fails "SchedulingGatesPresent"
      ("Scheduling gates present: " ++ ", ".intercalate (i.gates.map (·.name))))
  | unprogrammed (hgates : i.gates = []) (hprogrammed : i.isTrue Condition.programmed = false)
      (failure : Option String) :
    Derived i now failure (i.observe now Condition.ready Condition.fails
      (carriedReason (i.condition? Condition.programmed) "PendingProgramming")
      (carriedMessage (i.condition? Condition.programmed) "Instance has not been programmed"))
  | stopped (hgates : i.gates = []) (hprogrammed : i.isTrue Condition.programmed = true)
      (hrunning : i.isTrue Condition.running = false) (failure : Option String) :
    Derived i now failure (i.observe now Condition.ready Condition.fails
      (carriedReason (i.condition? Condition.running) pending)
      (carriedMessage (i.condition? Condition.running) "Instance is not running"))
  | ready (hgates : i.gates = []) (hprogrammed : i.isTrue Condition.programmed = true)
      (hrunning : i.isTrue Condition.running = true) (failure : Option String) :
    Derived i now failure
      (i.observe now Condition.ready Condition.holds "Running" "Instance is ready")

theorem derived_readyCondition (i : Instance) (now : Instant) (failure : Option String) :
    i.Derived now failure (i.readyCondition now failure) := by
  unfold readyCondition
  simp only [holds_condition?]
  cases hgates : i.gates.isEmpty
  · have hheld : i.gates ≠ [] := fun h => by simp [h] at hgates
    cases failure with
    | some message => exact .networkFailed hheld message
    | none => exact .gated hheld
  rw [List.isEmpty_iff] at hgates
  cases hprogrammed : i.isTrue Condition.programmed
  · exact .unprogrammed hgates hprogrammed failure
  cases hrunning : i.isTrue Condition.running
  · exact .stopped hgates hprogrammed hrunning failure
  · exact .ready hgates hprogrammed hrunning failure

/-- The condition says what there is to say of the instance, whatever a binding reports. -/
theorem explains_readyCondition (i : Instance) (now : Instant) (failure : Option String) :
    i.Explains failure (i.readyCondition now failure) := by
  have hderived := i.derived_readyCondition now failure
  generalize i.readyCondition now failure = c at hderived
  cases hderived with
  | networkFailed hgates message =>
    exact {
      type := rfl
      generation := rfl
      status := (if_neg fun h => hgates h.1).symm
      gated := fun _ m hm => ⟨rfl, Option.some.inj hm⟩
      held := nofun
      unprogrammed := fun h => absurd h hgates
      stopped := fun h => absurd h hgates
      ready := fun h => absurd h hgates
      reasoned := (by decide : NetworkBinding.failedToCreate ≠ "") }
  | gated hgates =>
    exact {
      type := rfl
      generation := rfl
      status := (if_neg fun h => hgates h.1).symm
      gated := fun _ => nofun
      held := fun _ _ => ⟨rfl, rfl⟩
      unprogrammed := fun h => absurd h hgates
      stopped := fun h => absurd h hgates
      ready := fun h => absurd h hgates
      reasoned := (by decide : "SchedulingGatesPresent" ≠ "") }
  | unprogrammed hgates hprogrammed failure =>
    have hfalse : ¬ i.isTrue Condition.programmed = true := by rw [hprogrammed]; decide
    have hne : "PendingProgramming" ≠ pending := by decide
    exact {
      type := rfl
      generation := rfl
      status := (if_neg fun h => hfalse h.2.1).symm
      gated := fun h => absurd hgates h
      held := fun h => absurd hgates h
      unprogrammed := fun _ _ => ⟨gives_carried .., carriedReason_ne _ (.inr rfl) hne⟩
      stopped := fun _ h => absurd h hfalse
      ready := fun _ h => absurd h hfalse
      reasoned := carriedReason_ne _ (.inl rfl) (by decide) }
  | stopped hgates hprogrammed hrunning failure =>
    have hfalse : ¬ i.isTrue Condition.running = true := by rw [hrunning]; decide
    exact {
      type := rfl
      generation := rfl
      status := (if_neg fun h => hfalse h.2.2).symm
      gated := fun h => absurd hgates h
      held := fun h => absurd hgates h
      unprogrammed := fun _ h => absurd h (by rw [hprogrammed]; decide)
      stopped := fun _ _ _ => gives_carried ..
      ready := fun _ _ h => absurd h hfalse
      reasoned := carriedReason_ne _ (.inl rfl) (by decide) }
  | ready hgates hprogrammed hrunning failure =>
    exact {
      type := rfl
      generation := rfl
      status := (if_pos ⟨hgates, hprogrammed, hrunning⟩).symm
      gated := fun h => absurd hgates h
      held := fun h => absurd hgates h
      unprogrammed := fun _ h => absurd h (by rw [hprogrammed]; decide)
      stopped := fun _ _ h => absurd h (by rw [hrunning]; decide)
      ready := fun _ _ _ => ⟨rfl, rfl⟩
      reasoned := (by decide : "Running" ≠ "") }

/-! ## What it follows from -/

/-- The instances are the same in what the condition follows from. -/
structure Alike (i j : Instance) : Prop where
  gates : i.gates = j.gates
  generation : i.metadata.generation = j.metadata.generation
  programmed : i.condition? Condition.programmed = j.condition? Condition.programmed
  running : i.condition? Condition.running = j.condition? Condition.running

/-- Alike instances have the same condition, and a failure has a part in it only while a gate is held. -/
theorem agree_readyCondition {j : Instance} {failure' : Option String} (h : i.Alike j)
    (hfailure : i.gates ≠ [] → failure = failure') :
    (i.readyCondition now failure).AgreeButTime (j.readyCondition later failure') := by
  have hobserve (status reason message : String) :
      (i.observe now Condition.ready status reason message).AgreeButTime
        (j.observe later Condition.ready status reason message) := by
    rw [Condition.AgreeButTime, Resource.observe, Resource.observe, h.generation]
    rfl
  unfold readyCondition
  rw [← h.gates, ← h.programmed, ← h.running]
  by_cases hgates : i.gates = []
  · simp only [hgates, List.isEmpty_nil, Bool.not_true, Bool.false_eq_true, if_false]
    split
    · exact hobserve ..
    · split
      · exact hobserve ..
      · exact hobserve ..
  · have hheld : (!i.gates.isEmpty) = true := by simpa using hgates
    simp only [hheld, if_true, ← hfailure hgates]
    cases failure with
    | some message => exact hobserve ..
    | none => exact hobserve ..

/-! ## The pass -/

variable {σ : Type} {answer : Answer σ} {s : σ}

/-- A pass on the instance leaves this `Ready` condition: it writes a status that has it, or it ends well
without writing one while the instance has it. -/
inductive Leaves (i : Instance) (answer : Answer σ) (s : σ) (now : Instant) (c : Condition) : Prop
  | written {status : InstanceStatus}
      (hcall : .patchInstanceStatus i status ∈ (i.reconcile now).calls answer s)
      (hc : status.conditions.get? Condition.ready = some c)
  | kept {requeue : Requeue} {t : σ} (hrun : (i.reconcile now).run answer s = (.ok requeue, t))
      (hcalls : ∀ call ∈ (i.reconcile now).calls answer s, call.reportsStatus = false)
      (hc : i.condition? Condition.ready = some c)

theorem condition?_eq (i : Instance) (type : String) :
    i.condition? type = (i.status.getD {}).conditions.get? type := by
  unfold condition?
  cases i.status <;> rfl

/-- What a pass does once it knows of the failure of a network. -/
theorem mem_calls_reconcile {call : Call} (hdel : i.isDeleting = false) :
    call ∈ (i.reconcile now).calls answer s ↔ call ∈ i.gatedFailure.calls answer s ∨
      ∃ failure t, i.gatedFailure.run answer s = (.ok failure, t) ∧
        ((i.status.getD {}).conditions.set (i.readyCondition now failure)).2 = true ∧
        call = .patchInstanceStatus i { i.status.getD {} with
          conditions := ((i.status.getD {}).conditions.set (i.readyCondition now failure)).1 } := by
  rw [reconcile_eq now hdel, mem_calls_bind]
  refine or_congr Iff.rfl ⟨?_, ?_⟩
  · rintro ⟨failure, t, hrun, hcall⟩
    dsimp only at hcall
    split at hcall
    · next hnews =>
      obtain hcall | ⟨_, _, -, hcall⟩ := mem_calls_bind.1 hcall
      · exact ⟨failure, t, hrun, hnews, mem_calls_perform.1 hcall⟩
      · cases hcall
    · cases hcall
  · rintro ⟨failure, t, hrun, hnews, rfl⟩
    refine ⟨failure, t, hrun, ?_⟩
    dsimp only
    rw [if_pos hnews]
    exact mem_calls_bind.2 (.inl (mem_calls_perform.2 rfl))

/-- What a pass leaves is what it files, whether that is news or not. -/
theorem get?_of_leaves {c : Condition} (hdel : i.isDeleting = false)
    (h : i.Leaves answer s now c) :
    ∃ failure t, i.gatedFailure.run answer s = (.ok failure, t) ∧
      ((i.status.getD {}).conditions.set (i.readyCondition now failure)).1.get? Condition.ready =
        some c := by
  have hquiet : i.gatedFailure.Only Call.silent := i.only_gatedFailure (fun _ _ => rfl) fun _ _ => rfl
  cases h with
  | written hcall hc =>
    obtain hcall | ⟨failure, t, hrun, -, heq⟩ := (mem_calls_reconcile hdel).1 hcall
    · cases hquiet.reportsStatus _ hcall
    · cases heq
      exact ⟨failure, t, hrun, hc⟩
  | kept hrun hcalls hc =>
    rw [reconcile_eq now hdel] at hrun
    obtain ⟨failure, t, hfailure, -⟩ := Pass.run_bind_eq_ok.1 hrun
    refine ⟨failure, t, hfailure, ?_⟩
    -- it would have written a set that is another one
    by_contra hother
    have hnews : ((i.status.getD {}).conditions.set (i.readyCondition now failure)).2 = true := by
      rw [ConditionSet.set_snd_iff]
      intro hsame
      rw [hsame, ← condition?_eq] at hother
      exact hother hc
    have hcall := (mem_calls_reconcile hdel).2 (.inr ⟨failure, t, hfailure, hnews, rfl⟩)
    cases hcalls _ hcall

/-- What a pass leaves is the condition that follows from the instance, and from the failure of a network
that the pass found. -/
theorem agree_of_leaves {c : Condition} (hdel : i.isDeleting = false)
    (h : i.Leaves answer s now c) :
    ∃ failure t, i.gatedFailure.run answer s = (.ok failure, t) ∧
      c.AgreeButTime (i.readyCondition now failure) := by
  obtain ⟨failure, t, hrun, hc⟩ := get?_of_leaves hdel h
  obtain ⟨time, htime⟩ :=
    ConditionSet.exists_get?_set (i.status.getD {}).conditions (i.readyCondition now failure)
  rw [← type_readyCondition i now failure, htime, Option.some.injEq] at hc
  subst hc
  exact ⟨failure, t, hrun, rfl⟩

/-- A pass that ends well leaves a condition. -/
theorem exists_leaves (hdel : i.isDeleting = false)
    (hok : ((i.reconcile now).run answer s).1.isOk = true) : ∃ c, i.Leaves answer s now c := by
  rcases hrun : (i.reconcile now).run answer s with ⟨_ | requeue, t⟩
  · rw [hrun] at hok
    cases hok
  obtain ⟨failure, u, hfailure, -⟩ := Pass.run_bind_eq_ok.1 (reconcile_eq now hdel ▸ hrun)
  have hfiled := ConditionSet.get?_set_self (i.status.getD {}).conditions
    (i.readyCondition now failure)
  rw [type_readyCondition] at hfiled
  by_cases hnews : ((i.status.getD {}).conditions.set (i.readyCondition now failure)).2 = true
  · exact ⟨_, .written ((mem_calls_reconcile hdel).2 (.inr ⟨failure, u, hfailure, hnews, rfl⟩)) hfiled⟩
  · refine ⟨(i.status.getD {}).conditions.filed (i.readyCondition now failure),
      .kept hrun (fun call hcall => ?_) ?_⟩
    · obtain hcall | ⟨failure', u', hfailure', hnews', -⟩ := (mem_calls_reconcile hdel).1 hcall
      · exact (i.only_gatedFailure (fun _ _ => rfl) fun _ _ => rfl).reportsStatus _ hcall
      · cases hfailure.symm.trans hfailure'
        exact absurd hnews' hnews
    · have hsame := not_not.1 (mt (ConditionSet.set_snd_iff _ _).2 hnews)
      rw [hsame, ← condition?_eq] at hfiled
      exact hfiled

/-- The `Ready` condition is derived from the gates, the generation and what the runtime reports, and from
the failure of a network while a gate is held. It says what there is to say of the instance
(`Explains`), and it is the same, but for its time, for any other instance alike in these. A pass on an
instance that is not being deleted leaves that condition, and leaves the same one whatever status the
instance has from an earlier pass, as long as the runtime reports the same. -/
theorem readiness_derived (i : Instance) (now : Instant) :
    (∀ failure, i.Explains failure (i.readyCondition now failure)) ∧
    (∀ j later failure failure', i.Alike j → (i.gates ≠ [] → failure = failure') →
      (i.readyCondition now failure).AgreeButTime (j.readyCondition later failure')) ∧
    ∀ (σ : Type) (answer : Answer σ) (s : σ), i.isDeleting = false →
      (((i.reconcile now).run answer s).1.isOk = true → ∃ c, i.Leaves answer s now c) ∧
      ∀ c, i.Leaves answer s now c →
        (∃ failure t, i.gatedFailure.run answer s = (.ok failure, t) ∧
          c.AgreeButTime (i.readyCondition now failure)) ∧
        ∀ (status : Option InstanceStatus) (later : Instant) (c' : Condition),
          i.Alike { i with status } → Leaves { i with status } answer s later c' →
            c.AgreeButTime c' := by
  refine ⟨i.explains_readyCondition now, fun j later failure failure' => agree_readyCondition,
    fun σ answer s hdel => ⟨exists_leaves hdel, fun c hc => ?_⟩⟩
  obtain ⟨failure, t, hrun, hagree⟩ := agree_of_leaves hdel hc
  refine ⟨⟨failure, t, hrun, hagree⟩, fun status later c' halike hc' => ?_⟩
  obtain ⟨failure', t', hrun', hagree'⟩ := agree_of_leaves (i := { i with status }) hdel hc'
  rw [gatedFailure_withStatus] at hrun'
  cases hrun.symm.trans hrun'
  exact (hagree.trans (agree_readyCondition halike fun _ => rfl)).trans hagree'.symm

/-- An instance that was ready once, and that the runtime has since lost track of. -/
def forgottenWeb : Instance where
  metadata := { name := some "web-0", ns := some "shop", uid := some "i1" }
  spec := {}
  status := some
    { conditions := .ofList Condition.type
        [⟨Condition.programmed, Condition.unknown, pending, "no answer", ⟨0, 0⟩, none⟩,
          ⟨Condition.ready, Condition.holds, "Running", "Instance is ready", ⟨0, 0⟩, none⟩] }

/-- The same status from before anything was said of its readiness. -/
def unexaminedStatus : InstanceStatus :=
  { conditions := .ofList Condition.type
      [⟨Condition.programmed, Condition.unknown, pending, "no answer", ⟨0, 0⟩, none⟩] }

/-- It is not ready any longer, what the runtime says is no reason and no message, and that it was ready
makes no difference to the condition. -/
theorem readiness_derived_forgotten :
    ∃ c, forgottenWeb.Leaves (Server.answer ⟨5, 0⟩) Server.empty ⟨5, 0⟩ c ∧
      c.status = Condition.fails ∧ c.reason = "PendingProgramming" ∧
      c.message = "Instance has not been programmed" ∧
      ∀ c', Leaves { forgottenWeb with status := some unexaminedStatus } (Server.answer ⟨5, 0⟩)
        Server.empty ⟨9, 0⟩ c' → c.AgreeButTime c' := by
  obtain ⟨hexplains, -, hpass⟩ := readiness_derived forgottenWeb ⟨5, 0⟩
  obtain ⟨-, hleaves⟩ := hpass Server (Server.answer ⟨5, 0⟩) Server.empty rfl
  have hungated : forgottenWeb.gates = [] := rfl
  have hunprogrammed : forgottenWeb.isTrue Condition.programmed = false := by decide +kernel
  obtain ⟨hgives, -⟩ := (hexplains none).unprogrammed hungated hunprogrammed
  have hsource : ∀ s ∈ forgottenWeb.condition? Condition.programmed,
      s.reason = pending ∧ s.status = Condition.unknown := by
    decide +kernel
  have hwritten : forgottenWeb.Leaves (Server.answer ⟨5, 0⟩) Server.empty ⟨5, 0⟩
      (forgottenWeb.readyCondition ⟨5, 0⟩ none) := by
    refine .written ((mem_calls_reconcile rfl).2 (.inr ⟨none, Server.empty, rfl, ?_, rfl⟩)) ?_
    · decide +kernel
    · decide +kernel
  refine ⟨_, hwritten, ?_, ?_, ?_, fun c' hc' => (hleaves _ hwritten).2 _ _ c' ?_ hc'⟩
  · rw [(hexplains none).status, if_neg]
    rw [hunprogrammed]
    simp
  · exact hgives.noReason fun s hs => .inr (hsource s hs).1
  · exact hgives.noMessage fun s hs => .inl (hsource s hs).2
  · exact ⟨rfl, rfl, by decide +kernel, by decide +kernel⟩

end Instance

end ControlPlane
