import ControlPlane.Meta.Observation
import ControlPlane.Proofs.Server.Calls
import ControlPlane.Proofs.Server.Server
import ControlPlane.Reconcile.Deployment
import ControlPlane.Reconcile.Instance

/-!
# Passes that write nothing

A pass that ends well without a write has found everything as it would leave it. All of its parts are
quiet then, over one and the same server (`Quiet.of_bind`), and so is the last of them, which would
write a status if it were another than the one there is. So a quiet pass tells what the status is.

* `Deployment.status_of_quiet`: the status of a deployment is that of its instances.
* `Instance.isReady_of_quiet`: the `Ready` condition of an instance is that of its gates and of what
  the runtime reports.
-/

namespace ControlPlane

open Pass (perform run_bind_eq_ok)

/-- A call that writes nothing leaves the server as it is. -/
theorem Server.answer_of_not_isWrite {c : Call} (h : c.isWrite = false) (now : Instant) (s : Server) :
    (Server.answer now c s).2 = s := by
  cases c <;> first | rfl | cases h

namespace Pass

variable {α β γ : Type} {now : Instant} {s : Server} {p : Pass α}

/-- The pass ends well and writes nothing. -/
def Quiet (now : Instant) (s : Server) (p : Pass α) : Prop :=
  (p.run (Server.answer now) s).1.isOk = true ∧
    ∀ c ∈ p.calls (Server.answer now) s, c.isWrite = false

instance : Decidable (p.Quiet now s) :=
  inferInstanceAs (Decidable (_ ∧ _))

theorem Quiet.of_perform {c : Call} (h : (perform c).Quiet now s) : c.isWrite = false :=
  h.2 c (mem_calls_perform.2 rfl)

/-- A quiet pass leaves the server as it is. -/
theorem Quiet.exists_run (h : p.Quiet now s) : ∃ a, p.run (Server.answer now) s = (.ok a, s) := by
  induction p with
  | done a => exact ⟨a, rfl⟩
  | abort e => cases h.1
  | call c next ih =>
    obtain ⟨hok, hcalls⟩ := h
    rw [run_call] at hok ⊢
    rw [calls_call, List.forall_mem_cons] at hcalls
    have hsame := Server.answer_of_not_isWrite hcalls.1 now s
    rcases ha : Server.answer now c s with ⟨e | r, t⟩ <;> rw [ha] at hok hcalls hsame
    · cases hok
    · cases hsame
      exact ih r ⟨hok, hcalls.2⟩

/-- The parts of a quiet pass are quiet. -/
theorem Quiet.of_bind {f : α → Pass β} (h : (p.bind f).Quiet now s) :
    p.Quiet now s ∧ ∃ a, p.run (Server.answer now) s = (.ok a, s) ∧ (f a).Quiet now s := by
  obtain ⟨hok, hcalls⟩ := h
  have hp : p.Quiet now s := by
    refine ⟨?_, fun c hc => hcalls c (mem_calls_bind.2 (.inl hc))⟩
    rw [run_bind] at hok
    split at hok
    · next a m hp => rw [hp]; rfl
    · cases hok
  obtain ⟨a, ha⟩ := hp.exists_run
  rw [run_bind_of_ok ha] at hok
  exact ⟨hp, a, ha, hok, fun c hc => hcalls c (mem_calls_bind.2 (.inr ⟨a, s, ha, hc⟩))⟩

/-- What a quiet loop collects comes from its steps, which are quiet. -/
theorem Quiet.of_collect {f : γ → Pass α} {l : List γ} {bs : List α}
    (h : (collect f l).Quiet now s) (hbs : (collect f l).run (Server.answer now) s = (.ok bs, s)) :
    ∀ b ∈ bs, ∃ a ∈ l, (f a).Quiet now s ∧ (f a).run (Server.answer now) s = (.ok b, s) := by
  induction l generalizing bs with
  | nil =>
    cases hbs
    simp
  | cons a rest ih =>
    obtain ⟨ha, b, hb, hrest⟩ := h.of_bind
    obtain ⟨hquiet, bs', hbs', -⟩ := hrest.of_bind
    have hall : (collect f (a :: rest)).run (Server.answer now) s = (.ok (b :: bs'), s) := by
      rw [collect, bind_eq, run_bind_of_ok hb, bind_eq, run_bind_of_ok hbs']
      rfl
    cases hbs.symm.trans hall
    refine List.forall_mem_cons.2 ⟨⟨a, List.mem_cons_self, ha, hb⟩, fun x hx => ?_⟩
    obtain ⟨y, hy, hrun⟩ := ih hquiet hbs' x hx
    exact ⟨y, List.mem_cons_of_mem a hy, hrun⟩

/-- A quiet pass that ends by writing what is not yet so finds that it is so. -/
theorem Quiet.of_write {P : Prop} [Decidable P] {c : Call} {a : α} {f : c.Reply → Pass α}
    (h : (if P then (perform c).bind f else .done a).Quiet now s) (hc : c.isWrite = true) : ¬ P := by
  intro hP
  rw [if_pos hP] at h
  cases hc.symm.trans h.of_bind.1.of_perform

end Pass

namespace ConditionSet

/-- Filing what is filed already changes nothing, so the condition is what was filed. -/
theorem isTrue_of_set_unchanged {s : ConditionSet} {c : Condition} (h : (s.set c).2 = false) :
    s.isTrue c.type = (c.status == Condition.holds) := by
  unfold set at h
  cases hs : s.get? c.type with
  | none => simp [hs] at h
  | some old =>
    have hstatus : old.status = c.status := by
      by_contra hne
      simp [hs, hne] at h
    simp [isTrue, hs, hstatus]

end ConditionSet

/-! ## Instances at rest -/

namespace Instance

variable {i : Instance} {now later : Instant} {s : Server}

theorem isTrue_eq (i : Instance) (type : String) :
    i.isTrue type = (i.status.getD {}).conditions.isTrue type := by
  unfold isTrue
  cases i.status <;> rfl

theorem holds_condition? (i : Instance) (type : String) :
    holds (i.condition? type) = i.isTrue type := by
  unfold condition? isTrue
  cases i.status <;> rfl

theorem readyCondition_holds (i : Instance) (now : Instant) (failure : Option String) :
    ((i.readyCondition now failure).status == Condition.holds) =
      (i.gates.isEmpty && i.isTrue Condition.programmed && i.isTrue Condition.running) := by
  have hfails (reason message : String) :
      ((i.observe now Condition.ready Condition.fails reason message).status ==
        Condition.holds) = false :=
    (by decide : (Condition.fails == Condition.holds) = false)
  unfold readyCondition
  simp only [holds_condition?]
  cases hgates : i.gates.isEmpty
  · cases failure <;> exact hfails ..
  cases hprogrammed : i.isTrue Condition.programmed
  · exact hfails ..
  cases hrunning : i.isTrue Condition.running
  · exact hfails ..
  · rfl

theorem type_readyCondition (i : Instance) (now : Instant) (failure : Option String) :
    (i.readyCondition now failure).type = Condition.ready := by
  unfold readyCondition
  dsimp only
  split
  · split <;> rfl
  · split
    · rfl
    · split <;> rfl

/-- An instance whose pass writes nothing, and that is not being deleted, is ready exactly when no gate
is held on it, the runtime has programmed it and it runs. -/
theorem isReady_of_quiet (h : (i.reconcile now).Quiet later s) (hdel : i.isDeleting = false) :
    i.isReady =
      (i.gates.isEmpty && i.isTrue Condition.programmed && i.isTrue Condition.running) := by
  unfold reconcile at h
  rw [hdel, if_neg Bool.false_ne_true] at h
  obtain ⟨-, failure, -, hreport⟩ := h.of_bind
  have hunchanged := Bool.not_eq_true _ ▸ hreport.of_write rfl
  have hready := ConditionSet.isTrue_of_set_unchanged hunchanged
  rw [type_readyCondition, readyCondition_holds] at hready
  rw [isReady, isTrue_eq, hready]

end Instance

/-! ## Deployments at rest -/

namespace Deployment

variable {d : Deployment} {now later : Instant} {s : Server}

theorem uid_of_requireUid {uid : String} {t : Server}
    (h : d.requireUid.run (Server.answer now) s = (.ok uid, t)) : d.metadata.uid = some uid := by
  unfold requireUid at h
  split at h
  · next hd =>
    cases h
    exact hd
  · cases h

/-- A scheduled deployment whose pass writes nothing reports the instances that there are. -/
theorem status_of_quiet (h : (d.reconcile now).Quiet later s) (hdel : d.isDeleting = false)
    (hfin : finalizer ∈ d.finalizers) (hl : d.location ≠ none) :
    ∃ uid ready, d.metadata.uid = some uid ∧ d.status = some (d.progress now
      (ReplicaSummary.ofInstances (s.instancesOf d.namespaceName uid) d.templateHash) ready) := by
  rw [reconcile_eq_rollOut hdel hfin hl, rollOut] at h
  obtain ⟨-, uid, huid, hlist⟩ := h.of_bind
  obtain ⟨-, instances, hinstances, hplan⟩ := hlist.of_bind
  obtain ⟨-, actions, -, hact⟩ := hplan.of_bind
  obtain ⟨-, _, -, hstage⟩ := hact.of_bind
  obtain ⟨-, ready, -, hlift⟩ := hstage.of_bind
  rw [Pass.run_perform] at hinstances
  cases hinstances
  refine ⟨uid, ready, uid_of_requireUid huid, ?_⟩
  -- the report is the last part, whether or not gates were lifted before it
  cases ready with
  | false => exact not_not.1 (Pass.Quiet.of_write hlift rfl)
  | true =>
    obtain ⟨-, _, -, hreport⟩ := hlift.of_bind
    exact not_not.1 (Pass.Quiet.of_write hreport rfl)

end Deployment

end ControlPlane
