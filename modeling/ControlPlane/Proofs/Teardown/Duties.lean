import ControlPlane.Proofs.Teardown.Supervision

/-!
# Controllers on duty

A controller reads an object, and begins a pass on what it has read unless one of its passes is still
under way on that object. Whatever is read, in whatever order passes are begun and make their calls,
and whenever users ask for the deletion of workloads, the run that comes about is supervised. So runs
can be computed, and need no check at every step.

* `Duty`: what is done next.
* `System.onDuty`: the run by duties.
* `System.supervised_onDuty`: it is supervised.
-/

namespace ControlPlane

/-- What is done next where controllers tend what is stored. -/
inductive Duty where
  /-- A controller reads an object, to begin a pass on it. -/
  | tend (read : Server → Option Task) (now : Instant)
  /-- The pass that was begun as the duty of this number makes its next call. -/
  | call (number : Nat) (now : Instant)
  /-- A user asks for the deletion of a workload. -/
  | delete (w : Workload) (now : Instant)

instance (j : Job) : Decidable j.Active :=
  match h : j.rest with
  | .call c next => isTrue ⟨c, next, h⟩
  | .done _ => isFalse fun ⟨_, _, hcall⟩ => nomatch h.symm.trans hcall
  | .abort _ => isFalse fun ⟨_, _, hcall⟩ => nomatch h.symm.trans hcall

/-- A deletion of a workload is asked for. -/
def Server.deleteWorkload (w : Workload) (now : Instant) (s : Server) : Server :=
  { s with workloads := (s.workloads.delete now w).2 }

theorem Server.attended_deleteWorkload (w : Workload) (now : Instant) (s : Server) :
    s.Attended (s.deleteWorkload w now) where
  advances := .refl _
  deployments x hx := ⟨x, hx, .refl x⟩
  instances x hx := ⟨x, hx, .refl x⟩
  workload_holds _ _ h := h.delete now w
  deployment_holds _ _ h := h

/-- The workloads are some of those that there were. -/
def Server.Retains (a b : Server) : Prop :=
  ∀ x ∈ b.workloads.objects, ∃ o ∈ a.workloads.objects, o.address = x.address ∧
    o.metadata.uid = x.metadata.uid

namespace Server

theorem Retains.refl (a : Server) : a.Retains a :=
  fun x hx => ⟨x, hx, rfl, rfl⟩

theorem Retains.trans {a b c : Server} (h : a.Retains b) (h' : b.Retains c) : a.Retains c := by
  intro x hx
  obtain ⟨y, hy, hya, hyu⟩ := h' x hx
  obtain ⟨o, ho, hoa, hou⟩ := h y hy
  exact ⟨o, ho, hoa.trans hya, hou.trans hyu⟩

theorem retains_deleteWorkload (w : Workload) (now : Instant) (s : Server) :
    s.Retains (s.deleteWorkload w now) := by
  intro x hx
  obtain hx | ⟨o, ho, ha, ns, name, n, rfl⟩ := Table.mem_delete now hx
  · exact ⟨x, hx, rfl, rfl⟩
  · exact ⟨o, ho, ha, rfl⟩

/-- No call makes a workload. -/
theorem retains_answer (s : Server) (now : Instant) (c : Call) : s.Retains (answer now c s).2 := by
  have patched {w : Workload} {f : Workload → Workload}
      (hf : ∀ o, (f o).metadata.uid = o.metadata.uid) :
      s.Retains { s with workloads := (s.workloads.patch w f).2 } := by
    intro x hx
    obtain hx | ⟨o, ho, ha, -, -, ns, name, n, rfl⟩ := Table.mem_patch hx
    · exact ⟨x, hx, rfl, rfl⟩
    · exact ⟨o, ho, ha, (hf o).symm⟩
  cases c with
  | patchWorkloadStatus w status => exact patched fun _ => rfl
  | setWorkloadFinalizers w finalizers => exact patched fun _ => rfl
  | _ => exact .refl s

end Server

namespace System

variable {outside : Server → Server → Prop} {s : System} {start : Server} {duties : List Duty}
  {duty : Duty} {task : Task} {now : Instant} {turn : Turn} {n i i' : Nat} {j j' : Job} {x : Workload}

/-- No pass in the first `n` slots that has calls to make tends the parent that the task is to tend. -/
def Untended (s : System) (n : Nat) (task : Task) : Prop :=
  task.parent?.isSome → ∀ i < n, ∀ j ∈ s.jobs i, j.Active → j.task.parent? ≠ task.parent?

instance : Decidable (s.Untended n task) :=
  have (i : Nat) : Decidable (∀ j ∈ s.jobs i, j.Active → j.task.parent? ≠ task.parent?) :=
    inferInstance
  inferInstanceAs (Decidable (task.parent?.isSome → ∀ i < n, ∀ j ∈ s.jobs i, j.Active →
    j.task.parent? ≠ task.parent?))

/-- The turn that a duty comes to as the `n`-th, if it comes to any. -/
def turn? (s : System) (n : Nat) : Duty → Option Turn
  | .tend read now => do
    let task ← read s.server
    if task.StoredIn s.server ∧ s.Untended n task then some (.begin n task now) else none
  | .call k now => some (.call k now)
  | .delete w now => some (.others (Server.deleteWorkload w now))

/-- The run by duties on a server on which no pass is under way. The passes begun sit in the slots of
the duties' numbers. -/
def onDuty (start : Server) (duties : List Duty) : Nat → System
  | 0 => ⟨start, fun _ => none⟩
  | n + 1 =>
    let s := onDuty start duties n
    (duties[n]?.bind (s.turn? n)).elim s s.take

theorem of_turn?_eq_begin (h : s.turn? n duty = some (.begin i task now)) :
    i = n ∧ task.StoredIn s.server ∧ s.Untended n task := by
  cases duty with
  | tend read now =>
    obtain ⟨task', -, h⟩ := Option.bind_eq_some_iff.1 h
    split at h
    · next hmay =>
      cases h
      exact ⟨rfl, hmay⟩
    · cases h
  | call k now => cases h
  | delete w now => cases h

theorem of_turn?_eq_others {change : Server → Server} (h : s.turn? n duty = some (.others change)) :
    ∃ w now, change = Server.deleteWorkload w now := by
  cases duty with
  | tend read now =>
    obtain ⟨task', -, h⟩ := Option.bind_eq_some_iff.1 h
    split at h <;> cases h
  | call k now => cases h
  | delete w now =>
    cases h
    exact ⟨w, now, rfl⟩

theorem run_onDuty (hrefl : ∀ a, outside a a)
    (hdelete : ∀ w now a, outside a (Server.deleteWorkload w now a)) :
    Run outside (onDuty start duties) := by
  refine ⟨fun _ => rfl, fun n => ?_⟩
  rw [onDuty]
  cases hturn : duties[n]?.bind ((onDuty start duties n).turn? n) with
  | none => exact .others (hrefl _)
  | some turn =>
    refine step_take hrefl fun change h => ?_
    obtain ⟨duty, -, hturn⟩ := Option.bind_eq_some_iff.1 hturn
    obtain ⟨w, now, rfl⟩ := of_turn?_eq_others (h ▸ hturn)
    exact hdelete w now _

/-- A pass that is in its slot was begun as the last duty, on what is stored and was not tended, or was
there before. -/
theorem tended_or_job (hj : (onDuty start duties (n + 1)).jobs i = some j) :
    (i = n ∧ j.task.StoredIn (onDuty start duties n).server ∧
        (onDuty start duties n).Untended n j.task) ∨
      ∃ j', (onDuty start duties n).jobs i = some j' ∧ j'.task = j.task ∧ (j.Active → j'.Active) := by
  rw [onDuty] at hj
  cases hturn : duties[n]?.bind ((onDuty start duties n).turn? n) with
  | none =>
    rw [hturn] at hj
    exact .inr ⟨j, hj, rfl, id⟩
  | some turn =>
    rw [hturn] at hj
    obtain ⟨duty, -, hturn⟩ := Option.bind_eq_some_iff.1 hturn
    obtain ⟨now, rfl⟩ | hbefore := jobs_take hj
    · exact .inl (of_turn?_eq_begin hturn)
    · exact .inr hbefore

theorem lt_of_job (hj : (onDuty start duties n).jobs i = some j) : i < n := by
  induction n generalizing j with
  | zero => cases hj
  | succ n ih =>
    obtain ⟨rfl, -⟩ | ⟨j', hj', -⟩ := tended_or_job hj
    · exact Nat.lt_succ_self _
    · exact Nat.lt_succ_of_lt (ih hj')

/-- A pass is only begun where no other goes on, and none goes on that has ended. -/
theorem alone_onDuty (hj : (onDuty start duties n).jobs i = some j)
    (hj' : (onDuty start duties n).jobs i' = some j') (ha : j.Active) (ha' : j'.Active)
    (hsome : j.task.parent?.isSome) (heq : j.task.parent? = j'.task.parent?) : i = i' := by
  induction n generalizing j j' with
  | zero => cases hj
  | succ n ih =>
    have tended {i : Nat} {j j' : Job} (hj : (onDuty start duties n).jobs i = some j) (ha : j.Active)
        (hsome : j.task.parent?.isSome) (heq : j.task.parent? = j'.task.parent?)
        (hu : (onDuty start duties n).Untended n j'.task) : False := by
      rw [heq] at hsome
      exact hu hsome i (lt_of_job hj) j hj ha heq
    obtain ⟨rfl, -, hu⟩ | ⟨k, hk, ht, hka⟩ := tended_or_job hj <;>
      obtain ⟨rfl, -, hu'⟩ | ⟨k', hk', ht', hka'⟩ := tended_or_job hj'
    · rfl
    · exact (tended hk' (hka' ha') (ht' ▸ heq ▸ hsome) (ht' ▸ heq.symm) hu).elim
    · exact (tended hk (hka ha) (ht ▸ hsome) (ht ▸ heq) hu').elim
    · exact ih hk hk' (hka ha) (hka' ha') (ht ▸ hsome) (by rw [ht, ht', heq])

/-- The workloads at any time were there at the start. -/
theorem retains_onDuty (start : Server) (duties : List Duty) (n : Nat) :
    start.Retains (onDuty start duties n).server :=
  (run_onDuty Server.Retains.refl Server.retains_deleteWorkload).related Server.Retains.refl
    (fun _ _ _ => .trans) (fun _ _ => Step.related Server.Retains.refl Server.retains_answer
      fun _ _ h => h) n.zero_le

/-- A run by duties is supervised if there is neither a deployment nor an instance at first, and the
workloads can be told from each other. -/
theorem supervised_onDuty (hdeployments : start.deployments.objects = [])
    (hinstances : start.instances.objects = [])
    (hidentified : ∀ x ∈ start.workloads.objects, x.metadata.uid.isSome)
    (hdistinct : ∀ x ∈ start.workloads.objects, ∀ y ∈ start.workloads.objects,
      x.metadata.uid = y.metadata.uid → x.address = y.address) :
    Supervised (onDuty start duties) where
  run := run_onDuty Server.Attended.refl Server.attended_deleteWorkload
  no_deployments := hdeployments
  no_instances := hinstances
  stored n i j hfree hj := by
    obtain ⟨-, hstored, -⟩ | ⟨j', hj', -⟩ := tended_or_job hj
    · exact hstored
    · rw [hfree] at hj'
      cases hj'
  alone n i i' j j' := alone_onDuty
  identified n x hx := by
    obtain ⟨o, ho, -, hu⟩ := retains_onDuty start duties n x hx
    exact hu ▸ hidentified o ho
  distinct m n x hx y hy huid := by
    obtain ⟨o, ho, hoa, hou⟩ := retains_onDuty start duties m x hx
    obtain ⟨o', ho', hoa', hou'⟩ := retains_onDuty start duties n y hy
    rw [← hoa, ← hoa']
    exact hdistinct o ho o' ho' (by rw [hou, hou', huid])

end System

end ControlPlane
