import ControlPlane.Proofs.Server.History

/-!
# Passes that follow a script

Some passes make one call and then others that depend on its reply alone, and make them whatever
these are answered. Such a pass is a script: a first call, and a list of calls for every reply to it.

* `Script.At`: where in a script a pass is. `Run.follows` has it of every pass under way.
* `Script.At.nil_of_call`: a teardown that does more than delete children has listed none.
* `Workload.tearDown_eq`, `Deployment.tearDown_eq`: a teardown lists the children and deletes those
  that are not being deleted yet, or gives up the finalizer when there are none.
* `Workload.reconcile_eq_hold`, `Deployment.reconcile_eq_hold`: a pass that lacks its finalizer takes
  it and does nothing else.
-/

namespace ControlPlane

open Pass (perform)

/-- The pass that makes these calls, whatever they are answered. -/
def Pass.say : List Call → Pass Requeue
  | [] => .done awaitChange
  | c :: rest => .call c fun _ => say rest

/-- A first call, and those that are made once it is answered. -/
structure Script where
  first : Call
  rest : first.Reply → List Call

namespace Script

variable {s : Script} {log : List Exchange} {p : Pass Requeue}

/-- The pass that follows a script. -/
def pass (s : Script) : Pass Requeue :=
  .call s.first fun reply => .say (s.rest reply)

/-- A pass that has said the first calls of a script, and has all others left to say. -/
def At (s : Script) (log : List Exchange) (p : Pass Requeue) : Prop :=
  log = [] ∧ p = s.pass ∨ ∃ reply said left, log = ⟨s.first, reply⟩ :: said ∧
    s.rest reply = said.map Exchange.call ++ left ∧ p = .say left

theorem At.step {c : Call} {next : c.Reply → Pass Requeue} (h : s.At log (.call c next))
    (reply : c.Reply) : s.At (log ++ [⟨c, reply⟩]) (next reply) := by
  obtain ⟨rfl, hp⟩ | ⟨first, said, left, rfl, hrest, hp⟩ := h
  · rw [pass, Pass.call.injEq] at hp
    obtain ⟨rfl, hnext⟩ := hp
    rw [eq_of_heq hnext]
    exact .inr ⟨reply, [], s.rest reply, rfl, rfl, rfl⟩
  · cases left with
    | nil => cases hp
    | cons c' left =>
      rw [Pass.say, Pass.call.injEq] at hp
      obtain ⟨rfl, hnext⟩ := hp
      rw [eq_of_heq hnext]
      exact .inr ⟨first, said ++ [⟨c, reply⟩], left, rfl, by simp [hrest], rfl⟩

/-- The call that is made next. -/
theorem At.call {c : Call} {next : c.Reply → Pass Requeue} (h : s.At log (.call c next)) :
    log = [] ∧ c = s.first ∨ ∃ reply said left, log = ⟨s.first, reply⟩ :: said ∧
      s.rest reply = said.map Exchange.call ++ c :: left := by
  obtain ⟨rfl, hp⟩ | ⟨reply, said, left, rfl, hrest, hp⟩ := h
  · rw [pass, Pass.call.injEq] at hp
    exact .inl ⟨rfl, hp.1⟩
  · cases left with
    | nil => cases hp
    | cons c' left =>
      rw [Pass.say, Pass.call.injEq] at hp
      exact .inr ⟨reply, said, left, rfl, hp.1 ▸ hrest⟩

theorem at_of_leads (h : s.pass.Leads log p) : s.At log p := by
  induction h with
  | refl => exact .inl ⟨rfl, rfl⟩
  | step _ reply ih => exact ih.step reply

/-- A pass says what its script says. -/
theorem meets_pass {ok : List Exchange → Call → Prop} (hfirst : ok [] s.first)
    (hrest : ∀ reply, ∀ c ∈ s.rest reply, ∀ log, ok log c) :
    s.pass.Meets ok (fun _ _ => True) [] := by
  have hsay (calls : List Call) (log : List Exchange) (h : ∀ c ∈ calls, ∀ log, ok log c) :
      (Pass.say calls).Meets ok (fun _ _ => True) log := by
    induction calls generalizing log with
    | nil => trivial
    | cons c rest ih =>
      exact ⟨h c List.mem_cons_self log,
        fun _ => ih _ fun c hc => h c (List.mem_cons_of_mem _ hc)⟩
  exact ⟨hfirst, fun reply => hsay _ _ (hrest reply)⟩

/-- The script of a teardown: the children are listed, and those that are pending are deleted. When
there are no children, the parent is released. -/
def tearDown {α : Type} (first : Call) (children : first.Reply → List α) (pending : α → Bool)
    (delete : α → Call) (release : Call) : Script where
  first
  rest reply :=
    if (children reply).isEmpty then [release]
    else ((children reply).filter pending).map delete

section

variable {α : Type} {first release c : Call} {children : first.Reply → List α} {pending : α → Bool}
  {delete : α → Call} {reply : first.Reply}

theorem mem_rest_tearDown (h : c ∈ (tearDown first children pending delete release).rest reply) :
    c = release ∨ ∃ a, c = delete a := by
  simp only [tearDown] at h
  split at h
  · exact .inl (List.mem_singleton.1 h)
  · obtain ⟨a, -, rfl⟩ := List.mem_map.1 h
    exact .inr ⟨a, rfl⟩

/-- Only when there are no children does a teardown call for anything else than their deletion. -/
theorem rest_of_release {calls left : List Call}
    (h : (tearDown first children pending delete release).rest reply = calls ++ c :: left)
    (hne : ∀ a, delete a ≠ c) : children reply = [] := by
  simp only [tearDown] at h
  split at h
  · next hnone => exact List.isEmpty_iff.1 hnone
  · have hmem : c ∈ ((children reply).filter pending).map delete := by
      rw [h]
      exact List.mem_append_right _ List.mem_cons_self
    obtain ⟨a, -, ha⟩ := List.mem_map.1 hmem
    exact absurd ha (hne a)

/-- A pass that is about to call for anything else has listed no children. -/
theorem At.nil_of_call {next : c.Reply → Pass Requeue}
    (h : (tearDown first children pending delete release).At log (.call c next))
    (hfirst : c ≠ first) (hne : ∀ a, delete a ≠ c) :
    ∃ reply, ⟨first, reply⟩ ∈ log ∧ children reply = [] := by
  obtain ⟨-, hc⟩ | ⟨reply, said, left, rfl, hrest⟩ := h.call
  · exact absurd hc hfirst
  · exact ⟨reply, List.mem_cons_self, rest_of_release hrest hne⟩

/-- A loop of single calls, and more calls after it. -/
theorem forEach_bind_say {f : α → Pass Unit}
    (hf : ∀ a (p : Pass Requeue), ((f a).bind fun _ => p) = .call (delete a) fun _ => p)
    (l : List α) (calls : List Call) :
    ((Pass.forEach f l).bind fun _ => Pass.say calls) = Pass.say (l.map delete ++ calls) := by
  induction l with
  | nil => rfl
  | cons a rest ih =>
    rw [Pass.forEach, Pass.bind_eq, Pass.bind_assoc, ih, hf]
    rfl

/-- A pass that lists children, deletes the pending ones, and makes its last call when there are
none. -/
theorem pass_tearDown {f : α → Pass Unit} {g : Pass Requeue}
    (hf : ∀ a (p : Pass Requeue), ((f a).bind fun _ => p) = .call (delete a) fun _ => p)
    (hg : g = .say [release]) :
    (tearDown first children pending delete release).pass = .call first fun reply =>
      (Pass.forEach f ((children reply).filter pending)).bind fun _ =>
        if (children reply).isEmpty = true then g else .done awaitChange := by
  rw [pass]
  congr 1
  funext reply
  by_cases hnone : (children reply).isEmpty = true
  · simp [tearDown, List.isEmpty_iff.1 hnone, hg, Pass.forEach]
  · have hend := forEach_bind_say hf ((children reply).filter pending) []
    simp only [tearDown, if_neg hnone]
    rw [List.append_nil] at hend
    exact hend.symm

end

end Script

namespace Workload

variable (w : Workload) {now : Instant}

/-- The deployments among these that are the workload's own. -/
def own (l : List Deployment) : List Deployment :=
  l.filter (·.spec.workload.uid == w.uid)

/-- What a workload's teardown says. -/
def tearDownScript : Script :=
  .tearDown (.listDeployments w.namespaceName w.uid) w.own (!·.isDeleting) .deleteDeployment
    (.setWorkloadFinalizers w (w.finalizers.filter (· ≠ finalizer)))

/-- What a pass says that takes the finalizer. -/
def holdScript : Script :=
  ⟨.setWorkloadFinalizers w (w.finalizers ++ [finalizer]), fun _ => []⟩

variable {w}

theorem tearDown_eq (h : finalizer ∈ w.finalizers) : w.tearDown = w.tearDownScript.pass := by
  rw [tearDownScript, Script.pass_tearDown (f := fun d => perform (.deleteDeployment d))
    (fun _ _ => rfl) rfl]
  simp only [tearDown, withoutFinalizer, if_pos h, finalize, ownDeployments, Pass.bind_eq,
    Pass.bind_assoc, Pass.pure_eq, Pass.done_bind]
  rfl

theorem reconcile_eq_tearDown (hdel : w.isDeleting = true) (h : finalizer ∈ w.finalizers) :
    w.reconcile now = w.tearDownScript.pass := by
  rw [reconcile, if_pos hdel, tearDown_eq h]

theorem reconcile_eq_hold (hdel : w.isDeleting = false) (h : finalizer ∉ w.finalizers) :
    w.reconcile now = w.holdScript.pass := by
  rw [reconcile, hdel, if_neg Bool.false_ne_true, withFinalizer, if_neg h]
  rfl

end Workload

namespace Deployment

variable (d : Deployment) (uid : String) {now : Instant}

/-- What the teardown of a deployment with this uid says. -/
def tearDownScript : Script :=
  .tearDown (.listInstances d.namespaceName uid) id (!·.isDeleting) .deleteInstance
    (.setDeploymentFinalizers d (d.finalizers.filter (· ≠ finalizer)))

/-- What a pass says that takes the finalizer. -/
def holdScript : Script :=
  ⟨.setDeploymentFinalizers d (d.finalizers ++ [finalizer]), fun _ => []⟩

variable {d uid}

theorem tearDown_eq (huid : d.metadata.uid = some uid) (h : finalizer ∈ d.finalizers) :
    d.tearDown = (d.tearDownScript uid).pass := by
  have hreq : d.requireUid = .done uid := by
    rw [requireUid, huid]
    rfl
  rw [tearDownScript, Script.pass_tearDown (f := fun i => perform (.deleteInstance i))
    (fun _ _ => rfl) rfl]
  simp only [tearDown, withoutFinalizer, if_pos h, finalize, hreq, Pass.bind_eq,
    Pass.bind_assoc, Pass.pure_eq, Pass.done_bind]
  rfl

theorem reconcile_eq_tearDown (hdel : d.isDeleting = true) (huid : d.metadata.uid = some uid)
    (h : finalizer ∈ d.finalizers) : d.reconcile now = (d.tearDownScript uid).pass := by
  rw [reconcile, if_pos hdel, tearDown_eq huid h]

theorem reconcile_eq_hold (hdel : d.isDeleting = false) (h : finalizer ∉ d.finalizers) :
    d.reconcile now = d.holdScript.pass := by
  rw [reconcile, hdel, if_neg Bool.false_ne_true, withFinalizer, if_neg h]
  rfl

end Deployment

/-! ## Passes under way -/

/-- What the pass has said and has left to say is what the script says. -/
def Job.Follows (j : Job) (s : Script) : Prop :=
  s.At j.log j.rest

namespace System

variable {outside : Server → Server → Prop} {w : Nat → System} {n i : Nat} {j : Job} {s : Script}

/-- A pass that is a script follows it all the while. -/
theorem Run.follows (h : Run outside w) (hj : (w n).jobs i = some j)
    (hs : ∀ now, j.task.pass now = s.pass) : j.Follows s := by
  obtain ⟨now, hl⟩ := h.leads hj
  rw [hs now] at hl
  exact Script.at_of_leads hl

end System

end ControlPlane
