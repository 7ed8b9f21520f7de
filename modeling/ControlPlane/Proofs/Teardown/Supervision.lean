import ControlPlane.Proofs.Server.Identity
import ControlPlane.Proofs.Teardown.Custody

/-!
# Runs under supervision

Passes on workloads and deployments run over a server on which there was neither a deployment nor an
instance at first. Each is begun on its object as it is stored, and no two passes of one controller
are on the same object at a time. Others report statuses, mark objects for deletion and take them away
when nothing holds them, but they do not edit children nor take the finalizers of controllers.

* `Server.Attended`: what others do to a server.
* `System.Supervised`: such a run.
* `Supervised.same_workload`, `Supervised.same_deployment`: passes under way at one time on objects of
  one uid are the same pass.
* `Supervised.workload_holds`, `Supervised.deployment_holds`: a parent holds its finalizer as long as a
  pass is under way that was begun when it held it.
-/

namespace ControlPlane

section Resource

variable {Spec Status : Type}

/-- What the object was, but for its status, its finalizers and the mark of deletion. -/
structure Resource.Unedited (o x : Resource Spec Status) : Prop where
  address : o.address = x.address
  uid : x.metadata.uid = o.metadata.uid
  labels : x.metadata.labels = o.metadata.labels
  owners : x.metadata.ownerReferences = o.metadata.ownerReferences
  spec : x.spec = o.spec

theorem Resource.Unedited.refl (o : Resource Spec Status) : o.Unedited o :=
  ⟨rfl, rfl, rfl, rfl, rfl⟩

theorem Resource.kept_of_mem {r : Resource Spec Status} {finalizer : String}
    (h : finalizer ∈ r.finalizers) : r.kept = some r := by
  have hne : r.finalizers.isEmpty = false := by
    cases hf : r.finalizers with
    | nil => simp [hf] at h
    | cons => rfl
  rw [Resource.kept, hne, Bool.and_false, if_neg Bool.false_ne_true]

/-- The object of this address and uid is stored and holds the finalizer. -/
def Table.Holds (t : Table Spec Status) (finalizer : String)
    (address : Option String × Option String) (uid : Option String) : Prop :=
  ∃ o ∈ t.objects, o.address = address ∧ o.metadata.uid = uid ∧ finalizer ∈ o.finalizers

variable {t : Table Spec Status} {finalizer : String} {address : Option String × Option String}
  {uid : Option String}

theorem Table.Holds.delete (now : Instant) (r : Resource Spec Status)
    (h : t.Holds finalizer address uid) : (t.delete now r).2.Holds finalizer address uid := by
  obtain ⟨o, ho, ha, hu, hmem⟩ := h
  obtain ⟨x, hx, hxa, hxu, hxf⟩ := Table.exists_of_delete now r ho (List.ne_nil_of_mem hmem)
  exact ⟨x, hx, hxa.trans ha, hxu.trans hu, hxf ▸ hmem⟩

variable [OfKind (Resource Spec Status)] {f : Resource Spec Status → Resource Spec Status}

/-- Updates of others, and those that leave uid and finalizers alone, take no finalizer away. -/
theorem Table.Holds.update (r : Resource Spec Status) (h : t.Holds finalizer address uid)
    (hf : r.destination = address → ∀ o ∈ t.objects, o.address = r.destination →
      o.metadata.resourceVersion = r.metadata.resourceVersion →
        (f o).metadata.uid = o.metadata.uid ∧ (f o).finalizers = o.finalizers) :
    (t.update r f).2.Holds finalizer address uid := by
  obtain ⟨o, ho, ha, hu, hmem⟩ := h
  obtain hstays | ⟨hd, hv, hstored⟩ := Table.mem_or_updated r f ho
  · exact ⟨o, hstays, ha, hu, hmem⟩
  · obtain ⟨huid, hfin⟩ := hf (hd.symm.trans ha) o ho hd hv
    rw [← hfin] at hmem
    obtain ⟨ns, name, n, hadd, hx⟩ := hstored (f o) (Resource.kept_of_mem hmem)
    exact ⟨_, hx, hadd.symm.trans ha, huid.trans hu, hmem⟩

theorem Table.Holds.patch (r : Resource Spec Status) (h : t.Holds finalizer address uid)
    (hf : r.destination = address → ∀ o,
      (f o).metadata.uid = o.metadata.uid ∧ (f o).finalizers = o.finalizers) :
    (t.patch r f).2.Holds finalizer address uid := by
  rcases t.patch_cases r f with hp | hp <;> rw [hp]
  · exact h
  · exact h.update r fun hd o _ _ _ => hf hd o

theorem Table.Holds.create (now : Instant) (r : Resource Spec Status)
    (h : t.Holds finalizer address uid) : (t.create now r).2.Holds finalizer address uid := by
  obtain ⟨o, ho, hrest⟩ := h
  exact ⟨o, Table.mem_create_of_mem now r ho, hrest⟩

end Resource

/-- No call takes a finalizer from a workload unless it is to set the finalizers of that one. -/
theorem Server.workload_holds_answer (s : Server) (now : Instant) (c : Call) {finalizer : String}
    {address : Option String × Option String} {uid : Option String}
    (h : s.workloads.Holds finalizer address uid)
    (hc : ∀ w f, c = .setWorkloadFinalizers w f → w.destination ≠ address) :
    (Server.answer now c s).2.workloads.Holds finalizer address uid := by
  cases c with
  | patchWorkloadStatus w status => exact h.patch w fun _ _ => ⟨rfl, rfl⟩
  | setWorkloadFinalizers w f => exact h.patch w fun hd => absurd hd (hc w f rfl)
  | _ => exact h

/-- No call takes a finalizer from a deployment unless it is to set the finalizers of that one or
replaces it by one with other finalizers. -/
theorem Server.deployment_holds_answer (s : Server) (now : Instant) (c : Call) {finalizer : String}
    {address : Option String × Option String} {uid : Option String}
    (h : s.deployments.Holds finalizer address uid)
    (hc : ∀ d f, c = .setDeploymentFinalizers d f → d.destination ≠ address)
    (hr : ∀ r, c = .replaceDeployment r → ∀ o ∈ s.deployments.objects, o.address = r.destination →
      o.metadata.resourceVersion = r.metadata.resourceVersion → r.finalizers = o.finalizers) :
    (Server.answer now c s).2.deployments.Holds finalizer address uid := by
  cases c with
  | createDeployment d => exact h.create now d
  | replaceDeployment r =>
    exact h.update r fun _ o ho ha hv => ⟨rfl, hr r rfl o ho ha hv⟩
  | deleteDeployment d => exact h.delete now d
  | patchDeploymentStatus d status => exact h.patch d fun _ _ => ⟨rfl, rfl⟩
  | setDeploymentFinalizers d f => exact h.patch d fun hd => absurd hd (hc d f rfl)
  | _ => exact h

/-- What others do to a server. Workloads come, change and go, but keep their finalizer; of deployments
and instances they change the status, mark them for deletion, and take those away that hold no
finalizer. -/
structure Server.Attended (a b : Server) : Prop where
  advances : a.deployments.Advances b.deployments
  deployments : ∀ x ∈ b.deployments.objects, ∃ o ∈ a.deployments.objects, o.Unedited x
  instances : ∀ x ∈ b.instances.objects, ∃ o ∈ a.instances.objects, o.Unedited x
  workload_holds : ∀ address uid, a.workloads.Holds Workload.finalizer address uid →
    b.workloads.Holds Workload.finalizer address uid
  deployment_holds : ∀ address uid, a.deployments.Holds Deployment.finalizer address uid →
    b.deployments.Holds Deployment.finalizer address uid

theorem Server.Attended.refl (a : Server) : a.Attended a :=
  ⟨.refl _, fun x hx => ⟨x, hx, .refl x⟩, fun x hx => ⟨x, hx, .refl x⟩, fun _ _ h => h,
    fun _ _ h => h⟩

/-- The parent that a pass tends, if it tends one. -/
def Task.parent? : Task → Option (Kind × (Option String × Option String))
  | .workload w => some (.workload, w.destination)
  | .deployment d => some (.workloadDeployment, d.destination)
  | .scheduling _ | .inst _ => none

/-- The parent that a pass tends is stored as the pass has it. -/
def Task.StoredIn (s : Server) : Task → Prop
  | .workload w => w ∈ s.workloads.objects
  | .deployment d => d ∈ s.deployments.objects
  | .scheduling _ | .inst _ => True

instance (s : Server) (task : Task) : Decidable (task.StoredIn s) :=
  match task with
  | .workload w => inferInstanceAs (Decidable (w ∈ s.workloads.objects))
  | .deployment d => inferInstanceAs (Decidable (d ∈ s.deployments.objects))
  | .scheduling _ | .inst _ => isTrue trivial

namespace System

variable {w : Nat → System} {m n i i' : Nat} {j j' : Job} {x y : Workload} {d e : Deployment}

/-- A run of passes that tend parents one at a time. -/
structure Supervised (w : Nat → System) : Prop where
  run : Run Server.Attended w
  no_deployments : (w 0).server.deployments.objects = []
  no_instances : (w 0).server.instances.objects = []
  /-- A pass is begun on what is stored. -/
  stored : ∀ n i j, (w n).jobs i = none → (w (n + 1)).jobs i = some j → j.task.StoredIn (w n).server
  /-- No two passes that have calls to make tend the same parent. -/
  alone : ∀ n i i' j j', (w n).jobs i = some j → (w n).jobs i' = some j' → j.Active → j'.Active →
    j.task.parent?.isSome → j.task.parent? = j'.task.parent? → i = i'
  identified : ∀ n, ∀ x ∈ (w n).server.workloads.objects, x.metadata.uid.isSome
  /-- The uids of workloads are given out once. -/
  distinct : ∀ m n, ∀ x ∈ (w m).server.workloads.objects, ∀ y ∈ (w n).server.workloads.objects,
    x.metadata.uid = y.metadata.uid → x.address = y.address

namespace Supervised

theorem keepsUids (h : Supervised w) (n : Nat) :
    (w n).server.deployments.KeepsUids (w (n + 1)).server.deployments := by
  refine (h.run.step n).related (R := fun a b => a.deployments.KeepsUids b.deployments)
    (fun _ => .refl _) Server.deployments_keepUids fun a b hab => ?_
  refine Table.keepsUids_of_kept hab.advances.revision fun x hx => ?_
  obtain ⟨o, ho, hxo⟩ := hab.deployments x hx
  exact ⟨o, ho, hxo.address, hxo.uid.symm⟩

/-- Workloads of one uid have one address. -/
theorem address_of_workload_uid (h : Supervised w) (hx : x ∈ (w m).server.workloads.objects)
    (hy : y ∈ (w n).server.workloads.objects) (huid : x.uid = y.uid) : x.address = y.address := by
  obtain ⟨u, hu⟩ := Option.isSome_iff_exists.1 (h.identified m x hx)
  obtain ⟨v, hv⟩ := Option.isSome_iff_exists.1 (h.identified n y hy)
  have huv : u = v := by simpa [Workload.uid, hu, hv] using huid
  exact h.distinct m n x hx y hy (by rw [hu, hv, huv])

/-- Deployments of one uid have one address. -/
theorem address_of_deployment_uid (h : Supervised w) (hd : d ∈ (w m).server.deployments.objects)
    (he : e ∈ (w n).server.deployments.objects) (huid : d.metadata.uid = e.metadata.uid) :
    d.address = e.address :=
  Table.address_eq_of_uid_eq (t := fun n => (w n).server.deployments) h.no_deployments h.keepsUids
    hd he huid

theorem uid_isSome_of_mem (h : Supervised w) (hd : d ∈ (w n).server.deployments.objects) :
    ∃ uid, d.metadata.uid = some uid := by
  obtain ⟨k, -, hk⟩ := Table.exists_uidOf (t := fun n => (w n).server.deployments)
    h.no_deployments h.keepsUids hd
  exact ⟨_, hk⟩

/-- A pass was begun on what was stored. -/
theorem begun (h : Supervised w) (hj : (w n).jobs i = some j) :
    ∃ b < n, j.task.StoredIn (w b).server ∧ (w (b + 1)).server = (w b).server ∧
      (j.Active → Under w i j.task (b + 1) n) := by
  obtain ⟨b, hb, hfree, hserver, ⟨j', hj', ht⟩, hunder⟩ := h.run.begun hj
  exact ⟨b, hb, ht ▸ h.stored b i j' hfree hj', hserver, hunder⟩

theorem begun_workload (h : Supervised w) (hj : (w n).jobs i = some j)
    (ht : j.task = .workload x) : ∃ b < n, x ∈ (w b).server.workloads.objects ∧
      (w (b + 1)).server = (w b).server ∧ (j.Active → Under w i (.workload x) (b + 1) n) := by
  have hbegun := h.begun hj
  rwa [ht] at hbegun

theorem begun_deployment (h : Supervised w) (hj : (w n).jobs i = some j)
    (ht : j.task = .deployment d) : ∃ b < n, d ∈ (w b).server.deployments.objects ∧
      (w (b + 1)).server = (w b).server ∧ (j.Active → Under w i (.deployment d) (b + 1) n) := by
  have hbegun := h.begun hj
  rwa [ht] at hbegun

/-- Passes under way that tend the same parent are the same. -/
theorem same_task (h : Supervised w) (hj : (w n).jobs i = some j) (hj' : (w n).jobs i' = some j')
    (ha : j.Active) (ha' : j'.Active) (hsome : j.task.parent?.isSome)
    (heq : j.task.parent? = j'.task.parent?) : j.task = j'.task := by
  obtain rfl := h.alone n i i' j j' hj hj' ha ha' hsome heq
  rw [Option.some.inj (hj.symm.trans hj')]

/-- Passes under way on workloads of one uid are on the same version. -/
theorem same_workload (h : Supervised w) (hj : (w n).jobs i = some j)
    (hj' : (w n).jobs i' = some j') (ha : j.Active) (ha' : j'.Active) (ht : j.task = .workload x)
    (ht' : j'.task = .workload y) (huid : x.uid = y.uid) : x = y := by
  obtain ⟨b, -, hx, -, -⟩ := h.begun_workload hj ht
  obtain ⟨b', -, hy, -, -⟩ := h.begun_workload hj' ht'
  have hdest : x.destination = y.destination := by
    rw [← Table.address_eq_of_mem hx, ← Table.address_eq_of_mem hy]
    exact h.address_of_workload_uid hx hy huid
  have heq := h.same_task hj hj' ha ha' (by rw [ht]; rfl) (by rw [ht, ht', Task.parent?, hdest]; rfl)
  rw [ht, ht'] at heq
  exact Task.workload.inj heq

/-- Passes under way on deployments of one uid are on the same version. -/
theorem same_deployment (h : Supervised w) (hj : (w n).jobs i = some j)
    (hj' : (w n).jobs i' = some j') (ha : j.Active) (ha' : j'.Active)
    (ht : j.task = .deployment d) (ht' : j'.task = .deployment e)
    (huid : d.metadata.uid = e.metadata.uid) : d = e := by
  obtain ⟨b, -, hd, -, -⟩ := h.begun_deployment hj ht
  obtain ⟨b', -, he, -, -⟩ := h.begun_deployment hj' ht'
  have hdest : d.destination = e.destination := by
    rw [← Table.address_eq_of_mem hd, ← Table.address_eq_of_mem he]
    exact h.address_of_deployment_uid hd he huid
  have heq := h.same_task hj hj' ha ha' (by rw [ht]; rfl) (by rw [ht, ht', Task.parent?, hdest]; rfl)
  rw [ht, ht'] at heq
  exact Task.deployment.inj heq

/-- What holds of the server when a pass on a parent is begun holds as long as the pass is under way,
if others keep it and so do the calls of passes of which no other tends the same parent. -/
theorem holds_during {P : Server → Prop} (h : Supervised w) (hj : (w n).jobs i = some j)
    (ha : j.Active) (hsome : j.task.parent?.isSome) (hbegun : ∀ s, j.task.StoredIn s → P s)
    (hothers : ∀ a b, Server.Attended a b → P a → P b)
    (hcall : ∀ k j' c t now, (w k).Performs j' c t →
      (j.task.parent? = j'.task.parent? → j.task = j'.task) →
        P (w k).server → P (Server.answer now c (w k).server).2) : P (w n).server := by
  obtain ⟨b, hb, hstored, hserver, hunder⟩ := h.begun hj
  have since : ∀ k, b + 1 ≤ k → k ≤ n → P (w k).server := by
    intro k hk
    induction hk with
    | refl =>
      intro _
      rw [hserver]
      exact hbegun _ hstored
    | @step k hk ih =>
      intro hkn
      obtain ⟨jk, hjk, htk, hak⟩ := hunder ha k hk (Nat.le_of_lt hkn)
      refine (h.run.step k).preserves hothers
        (fun j' c t now hp => hcall k j' c t now hp fun heq => ?_) (ih (Nat.le_of_lt hkn))
      obtain ⟨i', next, hj', -⟩ := hp.exists_slot
      rw [← htk] at hsome heq ⊢
      exact h.same_task hjk hj' hak hp.active hsome heq
  exact since n hb (Nat.le_refl n)

/-- A workload holds its finalizer while a pass is under way that was begun when it held it. -/
theorem workload_holds (h : Supervised w) (hj : (w n).jobs i = some j) (ha : j.Active)
    (ht : j.task = .workload x) (hx : x.Holds Workload.finalizer) :
    (w n).server.workloads.Holds Workload.finalizer x.address x.metadata.uid := by
  obtain ⟨b, -, hmem, -, -⟩ := h.begun_workload hj ht
  refine h.holds_during
    (P := fun s => s.workloads.Holds Workload.finalizer x.address x.metadata.uid) hj ha
    (by rw [ht]; rfl) (fun s hs => ?_) (fun a b hab => hab.workload_holds _ _)
    fun k j' c t now hp hsame hs => ?_
  · rw [ht] at hs
    exact ⟨x, hs, rfl, rfl, hx.2⟩
  · refine Server.workload_holds_answer _ now c hs fun y f hc hd => ?_
    subst hc
    -- only the pass itself could set these finalizers, and it does not
    obtain ⟨ht', hmay⟩ := h.run.ok_of_performs Task.meets_ownerSafe hp
    have heq := hsame
      (by rw [ht, ht', Task.parent?, Task.parent?, hd, Table.address_eq_of_mem hmem])
    rw [ht, ht'] at heq
    rw [← Task.workload.inj heq] at hmay
    exact hx.not_maySet hmay

/-- A deployment holds its finalizer while a pass is under way that was begun when it held it. -/
theorem deployment_holds (h : Supervised w) (hj : (w n).jobs i = some j) (ha : j.Active)
    (ht : j.task = .deployment d) (hd : d.Holds Deployment.finalizer) :
    (w n).server.deployments.Holds Deployment.finalizer d.address d.metadata.uid := by
  obtain ⟨b, -, hmem, -, -⟩ := h.begun_deployment hj ht
  refine h.holds_during
    (P := fun s => s.deployments.Holds Deployment.finalizer d.address d.metadata.uid) hj ha
    (by rw [ht]; rfl) (fun s hs => ?_) (fun a b hab => hab.deployment_holds _ _)
    fun k j' c t now hp hsame hs => ?_
  · rw [ht] at hs
    exact ⟨d, hs, rfl, rfl, hd.2⟩
  · have hsafe := h.run.ok_of_performs Task.meets_ownerSafe hp
    refine Server.deployment_holds_answer _ now c hs (fun e f hc he => ?_)
      fun r hc o ho hoa hov => ?_
    · subst hc
      obtain ⟨ht', hmay⟩ := hsafe
      have heq := hsame
        (by rw [ht, ht', Task.parent?, Task.parent?, he, Table.address_eq_of_mem hmem])
      rw [ht, ht'] at heq
      rw [← Task.deployment.inj heq] at hmay
      exact hd.not_maySet hmay
    · -- a pass on a workload leaves the finalizers of what it replaces
      subst hc
      obtain ⟨_, -, -, _, _, wanted, e, -, -, hread, rfl⟩ := hsafe
      obtain ⟨i', next, hj', -⟩ := hp.exists_slot
      rw [(h.run.known_of_read (fun _ _ hab => hab.advances) hj' hread).unchanged o ho hoa hov]
      rfl

end Supervised

end System

end ControlPlane
