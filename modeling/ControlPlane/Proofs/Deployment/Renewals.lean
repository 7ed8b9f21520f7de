import ControlPlane.Proofs.Deployment.Conflict
import ControlPlane.Proofs.Rollout.Renewal
import ControlPlane.Proofs.Server.Footprint
import ControlPlane.Proofs.Server.Snapshots

/-!
# How many renewed instances are under way

A pass renews an instance only when every slot is held by a ready one. But an instance that was renewed
keeps its status, so it counts as ready, on the template that it had, until the runtime reports
otherwise. What the runtime has observed of the template is not looked at.

* `Course`: passes on one deployment, and whatever others do in between.
* `Course.renewals`: what is renewed when, what is left of it, and what becomes of that until others
  report on it.
* `Course.two_renewals_under_way`: two passes in a row renew two instances.
-/

namespace ControlPlane

open Pass (perform run_bind_of_ok)

namespace Instance

/-- The fingerprint of the template that the instance was written from. -/
def templateHash? (i : Instance) : Option String :=
  i.spec.control.map (·.templateHash)

/-- The runtime has yet to take over the template that the instance was written from. -/
def awaitsTemplate (i : Instance) : Bool :=
  i.observedTemplateHash != i.templateHash?

end Instance

/-! ## What a pass leaves of an instance -/

/-- Instances that are not being deleted stay, with their status and their template. -/
def Server.Spares (a b : Server) : Prop :=
  ∀ x ∈ a.instances.objects, x.isDeleting = false → ∃ y ∈ b.instances.objects,
    y.address = x.address ∧ y.isDeleting = false ∧ y.status = x.status ∧
      Instance.templateHash? y = Instance.templateHash? x

/-- What is told of the instance at an address, if anything is, was told before, of one that was written
from the same template. -/
def Server.Silent (a b : Server) (address : Option String × Option String) : Prop :=
  ∀ y ∈ b.instances.objects, y.address = address → y.status ≠ none →
    ∃ x ∈ a.instances.objects, x.address = address ∧ x.status = y.status ∧
      Instance.templateHash? x = Instance.templateHash? y

/-- The calls that report on an instance. -/
def Call.reports : Call → Bool
  | .patchInstanceStatus .. => true
  | _ => false

/-- The calls of a rollout once it has carried out its step. -/
def Call.finishes : Call → Bool
  | .setSchedulingGates .. | .patchDeploymentStatus .. => true
  | c => c.byStager

namespace Server

variable {a b c : Server}

theorem Spares.refl (a : Server) : a.Spares a :=
  fun x hx hdel => ⟨x, hx, rfl, hdel, rfl, rfl⟩

theorem Spares.trans (h : a.Spares b) (h' : b.Spares c) : a.Spares c := by
  intro x hx hdel
  obtain ⟨y, hy, haddress, hydel, hstatus, hhash⟩ := h x hx hdel
  obtain ⟨z, hz, haddress', hzdel, hstatus', hhash'⟩ := h' y hy hydel
  exact ⟨z, hz, haddress'.trans haddress, hzdel, hstatus'.trans hstatus, hhash'.trans hhash⟩

theorem templateHash?_withGates (gates : List SchedulingGate) (i : Instance) :
    (withGates gates i).templateHash? = i.templateHash? := by
  unfold Instance.templateHash? withGates
  cases i.spec.control <;> rfl

theorem spares_answer {c : Call} (h : c.finishes = true) (now : Instant) (s : Server) :
    s.Spares (answer now c s).2 := by
  cases c with
  | setSchedulingGates i gates =>
    change s.Spares { s with instances := (s.instances.patch i (withGates gates)).2 }
    by_cases hc : s.instances.IsCurrent i
    · obtain ⟨ns, -, hp⟩ := Table.patch_eq_of_isCurrent (g := withGates gates) hc
      rw [hp]
      intro x hx hdel
      by_cases hx' : x.address = (some ns, some i.name)
      · refine ⟨(withGates gates x).stamp ns i.name (s.instances.revision + 1), ?_, hx'.symm, hdel, rfl,
          templateHash?_withGates gates x⟩
        refine Table.mem_change.2 (.inr ⟨x, _, Table.find?_eq_some_iff.2 ⟨hx, hx'⟩, ?_, rfl⟩)
        exact Resource.kept_of_not_isDeleting hdel
      · exact ⟨x, (Table.mem_change_of_ne hx').2 hx, rfl, hdel, rfl, rfl⟩
    · obtain ⟨e, hp⟩ := Table.patch_of_not_isCurrent (g := withGates gates) hc
      rw [hp]
      exact .refl s
  | _ => first | exact .refl s | cases h

variable {address : Option String × Option String}

theorem Silent.refl (a : Server) : a.Silent a address :=
  fun y hy ha _ => ⟨y, hy, ha, rfl, rfl⟩

theorem Silent.trans (h : a.Silent b address) (h' : b.Silent c address) : a.Silent c address := by
  intro z hz haddress hstatus
  obtain ⟨y, hy, hya, hys, hyh⟩ := h' z hz haddress hstatus
  obtain ⟨x, hx, hxa, hxs, hxh⟩ := h y hy hya (hys ▸ hstatus)
  exact ⟨x, hx, hxa, hxs.trans hys, hxh.trans hyh⟩

/-- Nothing but a report and a renewal tells anything new of an instance. -/
theorem silent_answer {c : Call} (hreports : c.reports = false)
    (hrenews : ∀ r, c = .replaceInstance r → r.destination ≠ address) (now : Instant) (s : Server) :
    s.Silent (answer now c s).2 address := by
  intro y hy ha hstatus
  have stays (hy : y ∈ s.instances.objects) : ∃ x ∈ s.instances.objects, x.address = address ∧
      x.status = y.status ∧ Instance.templateHash? x = Instance.templateHash? y :=
    ⟨y, hy, ha, rfl, rfl⟩
  cases c with
  | createInstance r =>
    obtain hold | ⟨-, ns, name, -, -, rfl⟩ := Table.mem_create now hy
    · exact stays hold
    · exact absurd rfl hstatus
  | replaceInstance r =>
    obtain hold | ⟨o, -, hoy, hor, -⟩ := Table.mem_update hy
    · exact stays hold
    · exact absurd (hor.symm.trans (hoy.trans ha)) (hrenews r rfl)
  | deleteInstance r =>
    obtain hold | ⟨o, ho, hoy, ns, name, n, rfl⟩ := Table.mem_delete now hy
    · exact stays hold
    · exact ⟨o, ho, hoy.trans ha, rfl, rfl⟩
  | setSchedulingGates r gates =>
    change y ∈ (s.instances.patch r (withGates gates)).2.objects at hy
    rcases s.instances.patch_cases r (withGates gates) with h | h <;> rw [h] at hy
    · exact stays hy
    · obtain hold | ⟨o, ho, hoy, -, -, ns, name, n, rfl⟩ := Table.mem_update hy
      · exact stays hold
      · exact ⟨o, ho, hoy.trans ha, rfl, (templateHash?_withGates gates o).symm⟩
  | patchInstanceStatus => cases hreports
  | _ => exact stays hy

end Server

/-! ## What a pass renews -/

namespace Deployment

variable {d : Deployment} {owner : OwnerReference} {uid : String} {now : Instant} {s : Server}

/-- A rollout once it has carried out its step. -/
def finish (d : Deployment) (now : Instant) (instances : List Instance) : Pass Requeue := do
  let networkReady ← d.stageNetworks
  if networkReady then
    Pass.forEach Instance.liftNetworkGate instances
  let status :=
    d.progress now (ReplicaSummary.ofInstances instances d.templateHash) networkReady
  if d.status ≠ some status then
    perform (.patchDeploymentStatus d status)
  return awaitChange

theorem only_finish (d : Deployment) (now : Instant) (instances : List Instance) :
    (d.finish now instances).Only Call.finishes := by
  refine (d.only_stageNetworks.imp fun c hc => ?_).bind fun ready => ?_
  · cases c <;> first | rfl | cases hc
  have hend : Pass.Only (α := Requeue) Call.finishes
      (if d.status ≠ some (d.progress now (.ofInstances instances d.templateHash) ready) then do
        perform (.patchDeploymentStatus d
          (d.progress now (.ofInstances instances d.templateHash) ready))
        pure awaitChange
      else pure awaitChange) := by
    split
    · exact Pass.Only.bind (Pass.only_perform rfl) fun _ => Pass.only_done _
    · exact Pass.only_done _
  dsimp only
  split
  · refine Pass.Only.bind (Pass.only_forEach fun i _ => ?_) fun _ => hend
    rw [Instance.liftNetworkGate]
    split
    · exact Pass.only_perform rfl
    · exact Pass.only_done _
  · exact hend

/-- The pass on a deployment that is rolled out, with its step. -/
theorem reconcile_eq_step (hdel : d.isDeleting = false) (hfin : finalizer ∈ d.finalizers)
    (hl : d.location ≠ none) (huid : d.metadata.uid = some uid) (ho : d.requireOwner = .ok owner) :
    d.reconcile now = (perform (.listInstances d.namespaceName uid)).bind fun instances =>
      (match (d.inOrder owner instances).head? with
        | none => Pass.done ()
        | some a => a.execute).bind fun _ => d.finish now instances := by
  have hreq : d.requireUid = .done uid := by
    rw [requireUid, huid]
    rfl
  rw [reconcile_eq_rollOut hdel hfin hl, rollOut, hreq, Pass.bind_eq, Pass.done_bind, Pass.bind_eq]
  refine congrArg (Pass.bind _) (funext fun instances => ?_)
  rw [plan_eq ho, Pass.ofExcept, Pass.bind_eq, Pass.done_bind, Pass.bind_eq,
    forEach_execute_skipAllButFirst]
  rfl

/-- A pass on a deployment reports on none of its instances. -/
theorem reports_eq_false_of_mem_calls {c : Call}
    (hc : c ∈ (d.reconcile now).calls (Server.answer now) s) : c.reports = false := by
  have hmeets : (d.reconcile now).Meets (fun _ c => c.reports = false) (fun _ _ => True) [] := by
    refine d.meets_reconcile_of now
      (fun _ => d.only_tearDown.meets fun _ c hc => by cases c <;> first | rfl | cases hc)
      (fun _ _ _ => rfl) fun _ _ => ?_
    refine d.meets_rollOut_of now (fun log => ?_) (fun _ _ _ => rfl) (fun _ _ _ _ _ _ _ => ?_)
      (fun _ _ _ => rfl) fun _ _ _ => rfl
    · exact d.only_stageNetworks.meets fun _ c hc => by cases c <;> first | rfl | cases hc
    · exact (Pass.only_forEach fun a _ => a.only_execute).meets fun _ c hc => by
        cases c <;> first | rfl | cases hc
  exact hmeets.forall_calls c hc

theorem mem_calls_execute_iff {a : Action} (ha : a.skipped = false) {r : Instance} :
    .replaceInstance r ∈ a.execute.calls (Server.answer now) s ↔ a = ⟨.update, r, false⟩ := by
  obtain ⟨type, target, skipped⟩ := a
  cases ha
  have hone {c : Call} : .replaceInstance r ∈ (perform c).calls (Server.answer now) s ↔
      c = .replaceInstance r := by
    rw [Pass.calls_perform, List.mem_singleton, eq_comm]
  cases type with
  | create => exact hone.trans (by simp)
  | update => exact hone.trans (by simp)
  | delete => exact hone.trans (by simp)
  | wait => simp [Action.execute]

/-- What the pass on a deployment that is rolled out renews is the instance that is due. -/
theorem mem_calls_step_iff {r : Instance} (hdel : d.isDeleting = false)
    (hfin : finalizer ∈ d.finalizers) (hl : d.location ≠ none) (huid : d.metadata.uid = some uid)
    (ho : d.requireOwner = .ok owner) :
    .replaceInstance r ∈ (d.reconcile now).calls (Server.answer now) s ↔
      ∃ k i, d.Due (s.instancesOf d.namespaceName uid) k i ∧ r = d.renewedInstance k i := by
  have hlist : (perform (.listInstances d.namespaceName uid)).run (Server.answer now) s =
      (.ok (s.instancesOf d.namespaceName uid), s) := Pass.run_perform ..
  have hrest (t : Server) (instances : List Instance) :
      .replaceInstance r ∉ (d.finish now instances).calls (Server.answer now) t := fun hc =>
    Bool.false_ne_true ((d.only_finish now instances).forall_calls _ hc)
  rw [reconcile_eq_step hdel hfin hl huid ho, ← @head_inOrder_eq_update_iff d owner]
  constructor
  · intro h
    obtain h | ⟨instances, t, hrun, h⟩ := Pass.mem_calls_bind.1 h
    · rw [Pass.calls_perform, List.mem_singleton] at h
      cases h
    cases hlist.symm.trans hrun
    obtain h | ⟨_, t, -, h⟩ := Pass.mem_calls_bind.1 h
    · split at h
      · cases h
      · next a ha =>
        rw [ha, (mem_calls_execute_iff (skipped_of_step (step_of_head
          ((head?_skipAllButFirst _).trans ha)))).1 h]
    · exact absurd h (hrest t _)
  · intro h
    refine Pass.mem_calls_bind.2 (.inr ⟨_, s, hlist, Pass.mem_calls_bind.2 (.inl ?_)⟩)
    rw [h]
    exact (mem_calls_execute_iff rfl).2 rfl

/-- Only a deployment that is rolled out has its instances renewed. -/
theorem standing_of_replaces {r : Instance}
    (h : .replaceInstance r ∈ (d.reconcile now).calls (Server.answer now) s) :
    d.isDeleting = false ∧ finalizer ∈ d.finalizers ∧ d.location ≠ none ∧
      d.metadata.uid ≠ none := by
  by_cases hdel : d.isDeleting = true
  · rw [reconcile, if_pos hdel] at h
    cases d.only_tearDown.forall_calls _ h
  rw [Bool.not_eq_true] at hdel
  rw [reconcile, hdel, if_neg Bool.false_ne_true] at h
  by_cases hfin : finalizer ∈ d.finalizers
  · rw [withFinalizer, if_pos hfin] at h
    dsimp only at h
    by_cases hl : d.location = none
    · rw [if_pos (Option.isNone_iff_eq_none.2 hl)] at h
      cases h
    refine ⟨hdel, hfin, hl, fun huid => ?_⟩
    rw [if_neg (fun hnone => hl (Option.isNone_iff_eq_none.1 hnone)), rollOut, requireUid, huid] at h
    cases h
  · rw [withFinalizer, if_neg hfin] at h
    have honly : (perform (.setDeploymentFinalizers d (d.finalizers ++ [finalizer]))).Only
      Call.byTearDown := Pass.only_perform rfl
    cases (honly.bind fun _ => Pass.only_done awaitChange).forall_calls _ h

/-- A pass that finds an instance due writes it and then does the rest. -/
theorem reconcile_run_of_due {k : Nat} {i : Instance} (hdel : d.isDeleting = false)
    (hfin : finalizer ∈ d.finalizers) (hl : d.location ≠ none) (huid : d.metadata.uid = some uid)
    (ho : d.requireOwner = .ok owner) (hdue : d.Due (s.instancesOf d.namespaceName uid) k i) :
    (d.reconcile now).run (Server.answer now) s =
      ((perform (.replaceInstance (d.renewedInstance k i))).bind fun _ =>
        d.finish now (s.instancesOf d.namespaceName uid)).run (Server.answer now) s := by
  have hlist : (perform (.listInstances d.namespaceName uid)).run (Server.answer now) s =
      (.ok (s.instancesOf d.namespaceName uid), s) := Pass.run_perform ..
  rw [reconcile_eq_step hdel hfin hl huid ho, run_bind_of_ok hlist,
    head_inOrder_eq_update_iff.2 ⟨k, i, hdue, rfl⟩]
  rfl

/-- The renewal of a stored instance succeeds, and leaves it as written from the template, with the
status that it had. -/
theorem replace_renewedInstance (now : Instant) (k : Nat) {i : Instance} (hi : i ∈ s.instances.objects)
    (hdel : i.isDeleting = false) : ∃ t : Table InstanceSpec InstanceStatus,
      (perform (.replaceInstance (d.renewedInstance k i))).run (Server.answer now) s =
        (.ok (), { s with instances := t }) ∧
      ∃ x ∈ t.objects, x.address = i.address ∧ x.isDeleting = false ∧ x.status = i.status ∧
        Instance.templateHash? x = some d.templateHash := by
  obtain ⟨ns, o, hns, hfind, hu⟩ := Table.update_of_isCurrent
    (r := d.renewedInstance k i) (g := (d.renewedInstance k i).inPlaceOf)
    ⟨i, hi, Table.address_eq_of_mem hi, rfl⟩
  have haddress : i.address = (some ns, some i.name) := by
    rw [Table.address_eq_of_mem hi, Resource.destination]
    exact congrArg (·, some i.name) hns
  obtain rfl : o = i := Table.eq_of_address_eq (Table.find?_eq_some_iff.1 hfind).1 hi
    ((Table.find?_eq_some_iff.1 hfind).2.trans haddress.symm)
  refine ⟨s.instances.change ns o.name fun o' => ((d.renewedInstance k o).inPlaceOf o').kept, ?_,
    ((d.renewedInstance k o).inPlaceOf o).stamp ns o.name (s.instances.revision + 1),
    Table.mem_change.2 (.inr ⟨o, _, hfind, Resource.kept_of_not_isDeleting hdel, rfl⟩),
    haddress.symm, hdel, rfl, rfl⟩
  rw [Pass.run_perform]
  show s.onInstances (s.instances.replace _) = _
  rw [Table.replace, hu]
  rfl

/-- An instance that is due is written from the template by the pass, and keeps its status. -/
theorem renewed_run {k : Nat} {i : Instance} (hdel : d.isDeleting = false)
    (hfin : finalizer ∈ d.finalizers) (hl : d.location ≠ none) (huid : d.metadata.uid = some uid)
    (ho : d.requireOwner = .ok owner) (hdue : d.Due (s.instancesOf d.namespaceName uid) k i) :
    ∃ x ∈ ((d.reconcile now).run (Server.answer now) s).2.instances.objects,
      x.address = i.address ∧ x.status = i.status ∧
        Instance.templateHash? x = some d.templateHash := by
  obtain ⟨hk, hi, -⟩ := d.holder_mem hdue.holds
  obtain ⟨_, hh, hidel, -⟩ := hdue.all_ready k hk
  cases hdue.holds.symm.trans hh
  obtain ⟨t, hreplace, x, hx, hxa, hxdel, hxs, hxh⟩ :=
    replace_renewedInstance (d := d) now k (List.mem_filter.1 hi).1 hidel
  have hspares : Server.Spares { s with instances := t }
      ((d.finish now (s.instancesOf d.namespaceName uid)).run (Server.answer now)
        { s with instances := t }).2 :=
    (d.only_finish now _).run_related Server.Spares.refl (fun _ _ _ => .trans)
      (fun c s hc => Server.spares_answer hc now s) _
  rw [reconcile_run_of_due hdel hfin hl huid ho hdue, run_bind_of_ok hreplace]
  obtain ⟨y, hy, hya, -, hys, hyh⟩ := hspares x hx hxdel
  exact ⟨y, hy, hya.trans hxa, hys.trans hxs, hyh.trans hxh⟩

end Deployment

/-! ## Passes, and what others do in between -/

/-- A pass on a deployment, or a change by others. -/
inductive Turn where
  | pass (now : Instant)
  | others (change : Server → Server)

/-- The turns that are taken over a server, one after the other, on one deployment. -/
structure Course where
  ns : String
  name : String
  start : Server
  turns : Nat → Turn

namespace Course

/-- A turn. A pass on a deployment that is not there does nothing. -/
def take (c : Course) (s : Server) : Turn → Server
  | .pass now =>
    match s.deployments.find? c.ns c.name with
    | some d => ((Deployment.reconcile d now).run (Server.answer now) s).2
    | none => s
  | .others change => change s

/-- The server before a turn. -/
def server (c : Course) : Nat → Server
  | 0 => c.start
  | n + 1 => c.take (c.server n) (c.turns n)

variable (c : Course) (n : Nat) (d : Deployment)

/-- A turn is a pass on the deployment as it is stored. -/
def Passes (now : Instant) : Prop :=
  c.turns n = .pass now ∧ (c.server n).deployments.find? c.ns c.name = some d

/-- A pass carries out the update of an instance. -/
def Replaces (r : Instance) : Prop :=
  ∃ now, c.Passes n d now ∧
    .replaceInstance r ∈ (Deployment.reconcile d now).calls (Server.answer now) (c.server n)

/-- The instances that the deployment has before a turn. -/
def instances : List Instance :=
  (c.server n).instancesOf d.namespaceName (d.metadata.uid.getD "")

/-- A pass finds the instance in a slot to be the next to be renewed. -/
structure Renews (k : Nat) (i : Instance) : Prop where
  passes : ∃ now, c.Passes n d now
  not_deleting : d.isDeleting = false
  finalizer : Deployment.finalizer ∈ d.finalizers
  scheduled : Deployment.location d ≠ none
  known : d.metadata.uid ≠ none
  due : Deployment.Due d (c.instances n d) k i

/-- An earlier turn has carried out an update of the instance. -/
def RenewedBefore (i : Instance) : Prop :=
  ∃ m < n, ∃ d r, c.Replaces m d r ∧ r.destination = i.destination ∧
    r.metadata.uid = i.metadata.uid

/-- An instance is renewed only when no instance of another slot that was renewed before awaits its
template. -/
def OneAtATime : Prop :=
  ∀ n d r k, c.Replaces n d r → slotOf? r.name = some k → ∀ j i, j ≠ k →
    (Deployment.slots d (c.instances n d)).holder j = some i → c.RenewedBefore n i →
      i.awaitsTemplate = false

variable {c n d}

theorem exists_owner_of_passes {now : Instant} {uid : String} (h : c.Passes n d now)
    (huid : d.metadata.uid = some uid) : ∃ owner, Deployment.requireOwner d = .ok owner :=
  Deployment.exists_owner (Table.metadata_of_find? h.2).2 huid

theorem replaces_iff {r : Instance} : c.Replaces n d r ↔
    ∃ k i, c.Renews n d k i ∧ r = Deployment.renewedInstance d k i := by
  constructor
  · rintro ⟨now, hpass, hcall⟩
    obtain ⟨hdel, hfin, hl, huid⟩ := Deployment.standing_of_replaces hcall
    obtain ⟨uid, hsome⟩ := Option.ne_none_iff_exists'.1 huid
    obtain ⟨owner, ho⟩ := exists_owner_of_passes hpass hsome
    obtain ⟨k, i, hdue, rfl⟩ := (Deployment.mem_calls_step_iff hdel hfin hl hsome ho).1 hcall
    refine ⟨k, i, ⟨⟨now, hpass⟩, hdel, hfin, hl, huid, ?_⟩, rfl⟩
    rwa [instances, hsome, Option.getD_some]
  · rintro ⟨k, i, ⟨⟨now, hpass⟩, hdel, hfin, hl, huid, hdue⟩, rfl⟩
    obtain ⟨uid, huid⟩ := Option.ne_none_iff_exists'.1 huid
    obtain ⟨owner, ho⟩ := exists_owner_of_passes hpass huid
    rw [instances, huid, Option.getD_some] at hdue
    exact ⟨now, hpass, (Deployment.mem_calls_step_iff hdel hfin hl huid ho).2 ⟨k, i, hdue, rfl⟩⟩

/-! ### What is told of a renewed instance -/

/-- Between two turns others report nothing on the instance at an address, and it is not renewed. -/
structure Quiet (c : Course) (m n : Nat) (address : Option String × Option String) : Prop where
  unreported : ∀ l, m < l → l < n → ∀ change, c.turns l = .others change →
    (c.server l).Silent (change (c.server l)) address
  unrenewed : ∀ l, m < l → l < n → ∀ d r, c.Replaces l d r → r.destination ≠ address

theorem silent_of_pass {address : Option String × Option String} {now : Instant}
    (hturn : c.turns n = .pass now) (hrenews : ∀ d r, c.Replaces n d r → r.destination ≠ address) :
    (c.server n).Silent (c.server (n + 1)) address := by
  rw [server, hturn, take]
  split
  · next d hd =>
    refine Pass.run_related (R := fun a b => Server.Silent a b address) (fun a => .refl a)
      (fun _ _ _ => .trans) fun call hcall t => ?_
    refine Server.silent_answer (Deployment.reports_eq_false_of_mem_calls hcall) (fun r hr => ?_) now t
    exact hrenews d r ⟨now, ⟨hturn, hd⟩, hr ▸ hcall⟩
  · exact .refl _

theorem Quiet.silent {m : Nat} {address : Option String × Option String} (h : c.Quiet m n address)
    (hmn : m < n) : (c.server (m + 1)).Silent (c.server n) address := by
  obtain ⟨hreports, hrenews⟩ := h
  induction hmn with
  | refl => exact .refl _
  | @step n hmn ih =>
    have hbefore := ih (fun l hl hln => hreports l hl (Nat.lt_succ_of_lt hln))
      fun l hl hln => hrenews l hl (Nat.lt_succ_of_lt hln)
    refine hbefore.trans ?_
    cases hturn : c.turns n with
    | pass now => exact silent_of_pass hturn (hrenews n hmn n.lt_succ_self)
    | others change =>
      rw [server, hturn]
      exact hreports n hmn n.lt_succ_self change hturn

/-- An instance that was renewed is stored as it was renewed: from the template, and with the status that
it had. -/
theorem Renews.exists_stored {k : Nat} {i : Instance} (h : c.Renews n d k i) :
    ∃ x ∈ (c.server (n + 1)).instances.objects, x.address = i.address ∧ x.status = i.status ∧
      Instance.templateHash? x = some (Deployment.templateHash d) := by
  obtain ⟨⟨now, hpass⟩, hdel, hfin, hl, huid, hdue⟩ := h
  obtain ⟨uid, huid⟩ := Option.ne_none_iff_exists'.1 huid
  obtain ⟨owner, ho⟩ := exists_owner_of_passes hpass huid
  rw [instances, huid, Option.getD_some] at hdue
  have hnext : c.server (n + 1) =
      ((Deployment.reconcile d now).run (Server.answer now) (c.server n)).2 := by
    rw [server, hpass.1, take, hpass.2]
  rw [hnext]
  exact Deployment.renewed_run hdel hfin hl huid ho hdue

theorem address_of_holder {l : Nat} {h : Instance}
    (hh : (Deployment.slots d (c.instances n d)).holder l = some h) : h.address = h.destination :=
  Table.address_eq_of_mem (List.mem_filter.1 (Deployment.holder_mem d hh).2.1).1

/-- When a pass renews an instance, all that hold a slot have a status. -/
theorem Renews.status_ne_none {k l : Nat} {i h : Instance} (hren : c.Renews n d k i)
    (hh : (Deployment.slots d (c.instances n d)).holder l = some h) : h.status ≠ none := by
  obtain ⟨_, hh', -, hready⟩ := hren.due.all_ready l (Deployment.holder_mem d hh).1
  cases hh.symm.trans hh'
  obtain ⟨status, hstatus, -⟩ := Instance.isReady_iff.1 hready
  exact Option.ne_none_iff_exists'.2 ⟨status, hstatus⟩

/-- Until others report on it, a renewed instance awaits the template unless it had been observed before. -/
theorem awaitsTemplate_iff {m : Nat} {e : Deployment} {j k l : Nat} {i o h : Instance} (hmn : m < n)
    (hi : c.Renews m d j i) (ho : c.Renews n e k o)
    (hh : (Deployment.slots e (c.instances n e)).holder l = some h) (ha : h.address = i.address)
    (hquiet : c.Quiet m n i.address) :
    h.awaitsTemplate = true ↔
      Instance.observedTemplateHash i ≠ some (Deployment.templateHash d) := by
  obtain ⟨x, hx, hxa, hxs, hxh⟩ := hi.exists_stored
  have hstored := (List.mem_filter.1 (Deployment.holder_mem e hh).2.1).1
  obtain ⟨x', hx', hxa', hxs', hxh'⟩ := hquiet.silent hmn h hstored ha (ho.status_ne_none hh)
  cases Table.eq_of_address_eq hx hx' (hxa.trans hxa'.symm)
  have hstatus : Instance.observedTemplateHash h = Instance.observedTemplateHash i := by
    rw [Instance.observedTemplateHash, ← hxs', hxs, Instance.observedTemplateHash]
  rw [Instance.awaitsTemplate, hstatus, ← hxh', hxh, bne_iff_ne]

/-- Which updates are carried out, and what that comes to. A pass carries out an update exactly when
every slot is held by a ready instance that is not being deleted, and it renews the outdated instance
in the highest slot. The instance keeps its status, so it counts as ready on the template that it had.
Hence the next renewal does not wait for the runtime: as long as others have reported nothing on an
instance since it was renewed, any renewal comes upon it awaiting its template, unless the runtime
had observed that template before. -/
theorem renewals (c : Course) :
    (∀ n d r, c.Replaces n d r ↔ ∃ k i, c.Renews n d k i ∧ r = Deployment.renewedInstance d k i) ∧
    (∀ n d k i, c.Renews n d k i → ∃ x ∈ (c.server (n + 1)).instances.objects,
      x.address = i.address ∧ x.status = i.status ∧
        Instance.templateHash? x = some (Deployment.templateHash d)) ∧
    ∀ m n d e j k l i o h, m < n → c.Renews m d j i → c.Renews n e k o →
      (Deployment.slots e (c.instances n e)).holder l = some h → h.address = i.address →
      c.Quiet m n i.address → (h.awaitsTemplate = true ↔
        Instance.observedTemplateHash i ≠ some (Deployment.templateHash d)) :=
  ⟨fun _ _ _ => replaces_iff, fun _ _ _ _ => Renews.exists_stored,
    fun _ _ _ _ _ _ _ _ _ _ => awaitsTemplate_iff⟩

/-! ### Two passes in a row -/

/-- A scheduled deployment of two instances. -/
def twoSlots : Deployment where
  metadata := {
    name := some "web"
    ns := some "stall"
    uid := some "d1"
    finalizers := some [Deployment.finalizer] }
  spec := {
    workload := ⟨"web", "w1"⟩
    placement := "us"
    cityCode := "DFW"
    scale := { minReplicas := 2 } }
  status := some { location := some ⟨"dfw", "infra"⟩ }

/-- An instance of it that runs, and is ready, on an older template. -/
def olderInstance (uid : String) : Instance where
  metadata := {
    uid := some uid
    labels := some (Dict.set .empty Deployment.uidLabel "d1") }
  spec := { control := some { templateHash := "older" } }
  status := some {
    conditions := .insert .empty (Condition.at ⟨0, 0⟩ Condition.ready Condition.holds "Running" "")
    control := some { observedTemplateHash := "older" } }

/-- Pass after pass on it, while the runtime reports nothing. -/
def twoPasses : Course where
  ns := "stall"
  name := "web"
  start := { Server.empty with
    deployments := Table.empty.add "stall" "web" twoSlots rfl
    instances := (Table.empty.add "stall" "web-0" (olderInstance "i0") rfl).add
      "stall" "web-1" (olderInstance "i1") rfl }
  turns := fun _ => .pass ⟨0, 0⟩

/-- The deployment as it is stored. -/
def storedSlots : Deployment :=
  twoSlots.stamp "stall" "web" 1

/-- The instance in the higher slot as it is stored. -/
def higherInstance : Instance :=
  (olderInstance "i1").stamp "stall" "web-1" 2

theorem renews_higherInstance : twoPasses.Renews 0 storedSlots 1 higherInstance :=
  ⟨⟨⟨0, 0⟩, rfl, by decide +kernel⟩, by decide +kernel, by decide +kernel, by decide +kernel,
    by decide +kernel, by decide +kernel⟩

theorem twoPasses_server_one : twoPasses.server 1 =
    (((perform (.replaceInstance (Deployment.renewedInstance storedSlots 1 higherInstance))).bind
      fun _ => Deployment.finish storedSlots ⟨0, 0⟩ (twoPasses.instances 0 storedSlots)).run
        (Server.answer ⟨0, 0⟩) twoPasses.start).2 := by
  obtain ⟨⟨now, hpass⟩, hdel, hfin, hl, -, hdue⟩ := renews_higherInstance
  have huid : storedSlots.metadata.uid = some "d1" := rfl
  obtain ⟨owner, ho⟩ := exists_owner_of_passes hpass huid
  rw [server, show twoPasses.turns 0 = .pass ⟨0, 0⟩ from rfl, take, hpass.2]
  exact congrArg Prod.snd (Deployment.reconcile_run_of_due hdel hfin hl huid ho hdue)

/-- The second pass renews the instance in the lower slot, and finds the higher one as it was left. -/
theorem renews_after_higherInstance : ∃ d o h, twoPasses.Renews 1 d 0 o ∧
    (Deployment.slots d (twoPasses.instances 1 d)).holder 1 = some h ∧
      h.destination = higherInstance.destination ∧ h.metadata.uid = higherInstance.metadata.uid := by
  have hsecond : ∃ d ∈ (twoPasses.server 1).deployments.find? "stall" "web",
      d.isDeleting = false ∧ Deployment.finalizer ∈ d.finalizers ∧ Deployment.location d ≠ none ∧
        d.metadata.uid ≠ none ∧ ∃ o ∈ twoPasses.instances 1 d,
          Deployment.Due d (twoPasses.instances 1 d) 0 o ∧
            ∃ h ∈ (Deployment.slots d (twoPasses.instances 1 d)).holder 1,
              h.destination = higherInstance.destination ∧
                h.metadata.uid = higherInstance.metadata.uid := by
    simp only [instances, twoPasses_server_one]
    decide +kernel
  obtain ⟨d, hd, hdel, hfin, hl, huid, o, -, hdue, h, hh, hdest, hhuid⟩ := hsecond
  exact ⟨d, o, h, ⟨⟨⟨0, 0⟩, rfl, hd⟩, hdel, hfin, hl, huid, hdue⟩, hh, hdest, hhuid⟩

/-- Nothing comes between the two passes. -/
theorem quiet_twoPasses (address : Option String × Option String) : twoPasses.Quiet 0 1 address :=
  ⟨fun l hl hln => by omega, fun l hl hln => by omega⟩

theorem observedTemplateHash_higherInstance : Instance.observedTemplateHash higherInstance ≠
    some (Deployment.templateHash storedSlots) := by
  decide +kernel

/-- The first pass renews the instance in the higher slot, which keeps its status, and the second renews
the one in the lower slot while the first awaits its template. -/
theorem renewals_twoPasses :
    twoPasses.Replaces 0 storedSlots (Deployment.renewedInstance storedSlots 1 higherInstance) ∧
      (∃ x ∈ (twoPasses.server 1).instances.objects, x.address = higherInstance.address ∧
        x.status = higherInstance.status ∧
          Instance.templateHash? x = some (Deployment.templateHash storedSlots)) ∧
      ∃ d o h, twoPasses.Renews 1 d 0 o ∧
        (Deployment.slots d (twoPasses.instances 1 d)).holder 1 = some h ∧ h.awaitsTemplate = true := by
  obtain ⟨hreplaces, hstored, hawaits⟩ := renewals twoPasses
  obtain ⟨d, o, h, hren, hh, hdest, -⟩ := renews_after_higherInstance
  refine ⟨(hreplaces _ _ _).2 ⟨1, higherInstance, renews_higherInstance, rfl⟩,
    hstored _ _ _ _ renews_higherInstance, d, o, h, hren, hh, ?_⟩
  have ha : Resource.address h = higherInstance.address :=
    (address_of_holder hh).trans hdest
  exact (hawaits _ _ _ _ _ _ _ _ _ _ Nat.one_pos renews_higherInstance hren hh ha
    (quiet_twoPasses _)).2 observedTemplateHash_higherInstance

/-- The second of two passes renews an instance while the one that the first has renewed awaits its
template. -/
theorem two_renewals_under_way : ¬ twoPasses.OneAtATime := by
  intro hone
  obtain ⟨d, o, h, hren, hh, hdest, huid⟩ := renews_after_higherInstance
  have hslot := (Deployment.holder_mem d hren.due.holds).2.2
  have hbefore : twoPasses.RenewedBefore 1 h :=
    ⟨0, by decide, storedSlots, _, replaces_iff.2 ⟨1, higherInstance, renews_higherInstance, rfl⟩,
      hdest.symm, huid.symm⟩
  have htaken := hone 1 d _ 0 (replaces_iff.2 ⟨0, o, hren, rfl⟩) hslot 1 h (by decide) hh hbefore
  have hawaits : h.awaitsTemplate = true :=
    (awaitsTemplate_iff Nat.one_pos renews_higherInstance hren hh
      ((address_of_holder hh).trans hdest) (quiet_twoPasses _)).2 observedTemplateHash_higherInstance
  rw [htaken] at hawaits
  cases hawaits

end Course

end ControlPlane
