import ControlPlane.Proofs.Teardown.Supervision
import ControlPlane.Proofs.Workload.Labels

/-!
# Whose children these are

Where the deployments and instances come from that are stored in a supervised run. A deployment bears
the uid of a workload of its namespace, as a label and in its specification, and an instance that of
the deployment that controls it. So a listing by label finds all children (`listed_deployments`,
`listed_instances`), and children that no listing finds are not made while the parent is torn down.

* `DeploymentOrigin`, `InstanceOrigin`: what a step can make of the children.
* `Supervised.parented`, `Supervised.controlled`: the parent that every child has.
* `Supervised.no_child_since`, `Supervised.no_instance_since`: a parent that is torn down gets no child.
-/

namespace ControlPlane

open Workload (Bears)

theorem Table.ns_of_mem {Spec Status : Type} {t : Table Spec Status} {o : Resource Spec Status}
    (h : o ∈ t.objects) : o.metadata.ns = some o.namespaceName := by
  obtain ⟨ns, hns⟩ := Option.isSome_iff_exists.1 (t.complete o h).1
  rw [Resource.namespaceName, hns]
  rfl

/-- The namespace of an object is part of its address. -/
theorem Resource.ns_eq_of_address {Spec Status : Type} {o x : Resource Spec Status}
    (h : o.address = x.address) : o.metadata.ns = x.metadata.ns :=
  congrArg Prod.fst h

theorem Workload.Bears.congr {y : Workload} {o x : Deployment}
    (hl : x.metadata.labels = o.metadata.labels) (hs : x.spec = o.spec) :
    y.Bears x ↔ y.Bears o := by
  rw [Bears, Bears, Resource.label?, Resource.label?, hl, hs]

theorem Workload.Bears.uid_eq {y z : Workload} {x : Deployment} (hy : y.Bears x) (hz : z.Bears x) :
    y.uid = z.uid :=
  hy.2.symm.trans hz.2

theorem Workload.bears_of_mem_desired {y : Workload} {locations : List Location}
    {wanted : List Deployment} {e : Deployment} (hw : y.desired locations = .ok wanted)
    (he : e ∈ wanted) : y.Bears e :=
  have ⟨_, hentry⟩ := entries_of_desired hw
  (hentry e he).bears

/-- The instance is labelled with this uid, and its one owner has it and controls the instance. -/
def Instance.OwnedBy (i : Instance) (uid : String) : Prop :=
  i.label? Deployment.uidLabel = some uid ∧ ∃ owner, i.metadata.ownerReferences = some [owner] ∧
    owner.controller = some true ∧ owner.uid = uid

/-- The owner that controls the instance has this uid. -/
def Instance.ControlledBy (i : Instance) (uid : String) : Prop :=
  ∃ owner ∈ i.metadata.ownerReferences.getD [], owner.controller = some true ∧ owner.uid = uid

theorem Instance.OwnedBy.congr {o x : Instance} {uid : String} (h : o.OwnedBy uid)
    (labels : x.metadata.labels = o.metadata.labels)
    (owners : x.metadata.ownerReferences = o.metadata.ownerReferences) : x.OwnedBy uid := by
  rw [Instance.OwnedBy, Resource.label?, labels, owners]
  exact h

theorem Instance.OwnedBy.controlledBy_iff {i : Instance} {uid uid' : String} (h : i.OwnedBy uid) :
    i.ControlledBy uid' ↔ uid' = uid := by
  obtain ⟨-, owner, howner, hc, hu⟩ := h
  rw [ControlledBy, howner]
  simp only [Option.getD_some, List.mem_singleton, exists_eq_left, hc, hu, true_and]
  exact eq_comm

/-- The labels of an instance hold the uid of its deployment, whatever the template says. -/
theorem Deployment.value?_instanceLabels {d : Deployment} {uid : String} (k : Nat)
    (h : d.metadata.uid = some uid) : (d.instanceLabels k).value? uidLabel = some uid := by
  rw [instanceLabels, Dict.value?_set, if_pos rfl, h, Option.getD_some]

/-- A stored deployment can own its instances. -/
theorem Deployment.exists_owner_of_mem {t : Table DeploymentSpec DeploymentStatus} {d : Deployment}
    {uid : String} (hd : d ∈ t.objects) (huid : d.metadata.uid = some uid) :
    ∃ owner, d.requireOwner = .ok owner := by
  obtain ⟨ns, name, ha⟩ := Table.exists_address hd
  exact exists_owner (congrArg Prod.snd ha) huid

namespace System

variable {w : Nat → System} {m n i : Nat} {j : Job} {y : Workload} {d : Deployment}
  {x : Instance} {uid : String}

/-! ## Deployments -/

/-- A pass is under way on a workload that held its finalizer. -/
def TendsWorkload (s : System) (y : Workload) : Prop :=
  ∃ i j, s.jobs i = some j ∧ j.Active ∧ j.task = .workload y ∧ y.Holds Workload.finalizer

/-- Where a deployment comes from that is stored after a step. -/
inductive DeploymentOrigin (s : System) (d : Deployment) : Prop
  | kept {o : Deployment} (stored : o ∈ s.server.deployments.objects)
    (address : o.address = d.address) (labels : d.metadata.labels = o.metadata.labels) (spec : d.spec = o.spec)
  /-- A pass made it a child of its workload. -/
  | made {y : Workload} (tends : s.TendsWorkload y) (bears : y.Bears d)
    (ns : d.metadata.ns = y.metadata.ns)

theorem DeploymentOrigin.congr {s : System} {o : Deployment} (h : DeploymentOrigin s o)
    (address : o.address = d.address) (labels : d.metadata.labels = o.metadata.labels)
    (spec : d.spec = o.spec) : DeploymentOrigin s d := by
  cases h with
  | kept stored ha hl hs => exact .kept stored (ha.trans address) (labels.trans hl) (spec.trans hs)
  | made tends bears ns =>
    exact .made tends ((Bears.congr labels spec).2 bears)
      ((Resource.ns_eq_of_address address).symm.trans ns)

theorem Supervised.deployment_origin_of_performs (h : Supervised w) {c : Call} {t : System}
    (hp : (w n).Performs j c t) (now : Instant)
    (hd : d ∈ (Server.answer now c (w n).server).2.deployments.objects) :
    DeploymentOrigin (w n) d := by
  have hsafe := h.run.ok_of_performs Task.meets_ownerSafe hp
  obtain ⟨i, next, hj, -⟩ := hp.exists_slot
  have tends {y : Workload} (ht : j.task = .workload y) (hy : y.Holds Workload.finalizer) :
      (w n).TendsWorkload y := ⟨i, j, hj, hp.active, ht, hy⟩
  cases c with
  | createDeployment e =>
    obtain ⟨y, ht, hy, locations, wanted, hw, he⟩ := hsafe
    obtain hold | ⟨-, ns, name, hns, -, rfl⟩ := Table.mem_create now hd
    · exact .kept hold rfl rfl rfl
    · exact .made (tends ht hy)
        ((Bears.congr (o := e) rfl rfl).2 (Workload.bears_of_mem_desired hw he)) (hns.symm.trans (Workload.metadata_of_mem_desired hw he).1)
  | replaceDeployment r =>
    obtain ⟨y, ht, hy, locations, wanted, e, o, hw, he, hread, rfl⟩ := hsafe
    obtain hold | ⟨o', ho', ha, hdest, -, ns, name, k, rfl⟩ := Table.mem_update hd
    · exact .kept hold rfl rfl rfl
    · refine .made (tends ht hy)
        (Workload.bears_adopted (Workload.uid_of_mem_desired hw he) o) ?_
      -- what was read was found in the workload's namespace
      obtain ⟨m, -, hfind⟩ := h.run.stored_of_read hj hread
      obtain ⟨b, -, hstored, -, -⟩ := h.begun_workload hj ht
      rw [← Resource.ns_eq_of_address ha, Table.ns_of_mem hstored,
        ← (Table.metadata_of_find? hfind).1]
      exact congrArg Prod.fst hdest
  | deleteDeployment e =>
    obtain hold | ⟨o, ho, ha, ns, name, k, rfl⟩ := Table.mem_delete now hd
    · exact .kept hold rfl rfl rfl
    · exact .kept ho ha rfl rfl
  | patchDeploymentStatus e status =>
    obtain hold | ⟨o, ho, ha, -, -, ns, name, k, rfl⟩ := Table.mem_patch hd
    · exact .kept hold rfl rfl rfl
    · exact .kept ho ha rfl rfl
  | setDeploymentFinalizers e finalizers =>
    obtain hold | ⟨o, ho, ha, -, -, ns, name, k, rfl⟩ := Table.mem_patch hd
    · exact .kept hold rfl rfl rfl
    · exact .kept ho ha rfl rfl
  | _ => exact .kept hd rfl rfl rfl

theorem Supervised.deployment_origin (h : Supervised w) (n : Nat) :
    ∀ d ∈ (w (n + 1)).server.deployments.objects, DeploymentOrigin (w n) d := by
  refine (h.run.step n).preserves
    (P := fun s => ∀ d ∈ s.deployments.objects, DeploymentOrigin (w n) d)
    (fun a b hab ih d hd => ?_)
    (fun j c t now hp _ d hd => h.deployment_origin_of_performs hp now hd) fun d hd => .kept hd rfl rfl rfl
  obtain ⟨o, ho, hdo⟩ := hab.deployments d hd
  exact (ih o ho).congr hdo.address hdo.labels hdo.spec

/-- The deployment is the child of a workload that was stored once, in the same namespace. -/
def Parented (w : Nat → System) (d : Deployment) : Prop :=
  ∃ (m : Nat) (y : Workload), y ∈ (w m).server.workloads.objects ∧ y.Bears d ∧
    d.metadata.ns = y.metadata.ns

/-- Every deployment is the child of a workload. -/
theorem Supervised.parented (h : Supervised w) (hd : d ∈ (w n).server.deployments.objects) :
    Parented w d := by
  induction n generalizing d with
  | zero =>
    rw [h.no_deployments] at hd
    cases hd
  | succ n ih =>
    cases h.deployment_origin n d hd with
    | kept stored ha hl hs =>
      obtain ⟨m, y, hy, hbears, hns⟩ := ih stored
      exact ⟨m, y, hy, (Bears.congr hl hs).2 hbears, (Resource.ns_eq_of_address ha).symm.trans hns⟩
    | made tends bears ns =>
      obtain ⟨i, j, hj, -, ht, -⟩ := tends
      obtain ⟨b, -, hy, -, -⟩ := h.begun_workload hj ht
      exact ⟨b, _, hy, bears, ns⟩

/-- A listing shows a workload all its children. -/
theorem Supervised.listed_deployments (h : Supervised w) (hj : (w n).jobs i = some j)
    (ht : j.task = .workload y) {l : List Deployment}
    (he : ⟨.listDeployments y.namespaceName y.uid, l⟩ ∈ j.log) :
    ∃ m < n, (∀ d, d ∈ y.own l ↔ d ∈ (w m).server.deployments.objects ∧ y.Bears d) ∧
      (j.Active → Under w i (.workload y) m n) := by
  obtain ⟨m, hm, ⟨now, hanswer⟩, hunder⟩ := h.run.answered hj he
  rw [ht] at hunder
  injection hanswer with hreply _
  obtain rfl := Except.ok.inj hreply
  refine ⟨m, hm, fun d => (Workload.mem_own (s := (w m).server)).trans ?_, hunder⟩
  refine and_congr_right fun hd => and_iff_right_of_imp fun hbears => ?_
  obtain ⟨k, z, hz, hzbears, hns⟩ := h.parented hd
  obtain ⟨b, -, hy, -, -⟩ := h.begun_workload hj ht
  rw [hns, ← Table.ns_of_mem hy]
  exact Resource.ns_eq_of_address (h.address_of_workload_uid hz hy (hzbears.uid_eq hbears))

/-- A workload that is torn down gets no child. -/
theorem Supervised.no_child_since (h : Supervised w) (hmn : m ≤ n)
    (hunder : Under w i (.workload y) m n) (hdel : y.isDeleting = true)
    (hnone : ∀ d ∈ (w m).server.deployments.objects, ¬ y.Bears d) :
    ∀ d ∈ (w n).server.deployments.objects, ¬ y.Bears d := by
  induction hmn with
  | refl => exact hnone
  | @step n hmn ih =>
    intro d hd hbears
    have ih := ih fun k hk hkn => hunder k hk (Nat.le_succ_of_le hkn)
    cases h.deployment_origin n d hd with
    | kept stored _ hl hs => exact ih _ stored ((Bears.congr hl hs).1 hbears)
    | made tends bears _ =>
      obtain ⟨i', j', hj', ha', ht', hz⟩ := tends
      obtain ⟨j, hj, ht, ha⟩ := hunder n hmn (Nat.le_succ n)
      have heq := h.same_workload hj hj' ha ha' ht ht' (hbears.uid_eq bears)
      rw [← heq, Resource.Holds, hdel] at hz
      cases hz.1

/-! ## Instances -/

/-- A pass is under way on a deployment of this uid that held its finalizer. -/
def TendsDeployment (s : System) (d : Deployment) (uid : String) : Prop :=
  ∃ i j, s.jobs i = some j ∧ j.Active ∧ j.task = .deployment d ∧ d.Holds Deployment.finalizer ∧
    d.metadata.uid = some uid

/-- Where an instance comes from that is stored after step `n`. -/
inductive InstanceOrigin (w : Nat → System) (n : Nat) (x : Instance) : Prop
  | kept {o : Instance} (stored : o ∈ (w n).server.instances.objects)
    (address : o.address = x.address) (labels : x.metadata.labels = o.metadata.labels)
    (owners : x.metadata.ownerReferences = o.metadata.ownerReferences)
  /-- A pass made it, or put its labels on one that had been listed. -/
  | made {d : Deployment} {uid : String} (tends : (w n).TendsDeployment d uid)
    (label : x.label? Deployment.uidLabel = some uid) (ns : x.metadata.ns = d.metadata.ns)
    (owned : x.OwnedBy uid ∨ ∃ m < n, ∃ o ∈ (w m).server.instances.objects,
      o.label? Deployment.uidLabel = some uid ∧
        x.metadata.ownerReferences = o.metadata.ownerReferences)

theorem InstanceOrigin.congr {o : Instance} (h : InstanceOrigin w n o)
    (address : o.address = x.address) (labels : x.metadata.labels = o.metadata.labels)
    (owners : x.metadata.ownerReferences = o.metadata.ownerReferences) :
    InstanceOrigin w n x := by
  cases h with
  | kept stored ha hl ho =>
    exact .kept stored (ha.trans address) (labels.trans hl) (owners.trans ho)
  | made tends label ns owned =>
    have hlabel {l : String} : x.label? l = o.label? l := by
      rw [Resource.label?, Resource.label?, labels]
    refine .made tends (hlabel.trans label) ((Resource.ns_eq_of_address address).symm.trans ns) ?_
    obtain ⟨hl, howner⟩ | ⟨m, hm, o', ho', hl, howner⟩ := owned
    · exact .inl ⟨hlabel.trans hl, by rwa [owners]⟩
    · exact .inr ⟨m, hm, o', ho', hl, owners.trans howner⟩

/-- What a deployment makes for a slot is its own. -/
theorem ownedBy_newInstance {owner : OwnerReference} (k : Nat) (huid : d.metadata.uid = some uid)
    (ho : d.requireOwner = .ok owner) : (d.newInstance k owner).OwnedBy uid := by
  refine ⟨Deployment.value?_instanceLabels k huid, owner, rfl, ?_⟩
  simp only [Deployment.requireOwner, Resource.controllerReference?, Resource.ownerReference?,
    huid] at ho
  cases hname : d.metadata.name with
  | none => simp [hname] at ho
  | some name =>
    simp only [hname, Option.pure_def, Option.bind_eq_bind, Option.bind_some, Option.map_some,
      Except.ok.injEq] at ho
    rw [← ho]
    exact ⟨rfl, rfl⟩

theorem Supervised.instance_origin_of_performs (h : Supervised w) {c : Call} {t : System}
    (hp : (w n).Performs j c t) (now : Instant)
    (hx : x ∈ (Server.answer now c (w n).server).2.instances.objects) :
    InstanceOrigin w n x := by
  have hsafe := h.run.ok_of_performs Task.meets_ownerSafe hp
  obtain ⟨i, next, hj, -⟩ := hp.exists_slot
  cases c with
  | createInstance e =>
    obtain ⟨d, uid, ht, hd, huid, k, owner, howner, rfl⟩ := hsafe
    obtain hold | ⟨-, ns, name, hns, -, rfl⟩ := Table.mem_create now hx
    · exact .kept hold rfl rfl rfl
    · obtain ⟨b, -, hstored, -, -⟩ := h.begun_deployment hj ht
      obtain ⟨o, ho⟩ := Deployment.exists_owner_of_mem hstored huid
      obtain rfl := howner o ho
      have howned := ownedBy_newInstance k huid ho
      exact .made ⟨i, j, hj, hp.active, ht, hd, huid⟩ howned.1 hns.symm (.inl howned)
  | replaceInstance r =>
    obtain ⟨d, uid, ht, hd, huid, l, e, k, hread, he, rfl⟩ := hsafe
    obtain hold | ⟨o, ho, ha, hdest, -, ns, name, v, rfl⟩ := Table.mem_update hx
    · exact .kept hold rfl rfl rfl
    · -- what was listed was stored, in the namespace of the deployment and with its label
      obtain ⟨m, hm, ⟨now', hanswer⟩, -⟩ := h.run.answered hj hread
      injection hanswer with hreply _
      obtain rfl := Except.ok.inj hreply
      obtain ⟨hestored, hmatch⟩ := List.mem_filter.1 he
      rw [Bool.and_eq_true, beq_iff_eq, beq_iff_eq] at hmatch
      obtain ⟨b, -, hstored, -, -⟩ := h.begun_deployment hj ht
      refine .made ⟨i, j, hj, hp.active, ht, hd, huid⟩
        (Deployment.value?_instanceLabels k huid) ?_ (.inr ⟨m, hm, e, hestored, hmatch.2, rfl⟩)
      rw [← Resource.ns_eq_of_address ha, Table.ns_of_mem hstored, ← hmatch.1]
      exact congrArg Prod.fst hdest
  | deleteInstance e =>
    obtain hold | ⟨o, ho, ha, ns, name, k, rfl⟩ := Table.mem_delete now hx
    · exact .kept hold rfl rfl rfl
    · exact .kept ho ha rfl rfl
  | patchInstanceStatus e status =>
    obtain hold | ⟨o, ho, ha, -, -, ns, name, k, rfl⟩ := Table.mem_patch hx
    · exact .kept hold rfl rfl rfl
    · exact .kept ho ha rfl rfl
  | setSchedulingGates e gates =>
    obtain hold | ⟨o, ho, ha, -, -, ns, name, k, rfl⟩ := Table.mem_patch hx
    · exact .kept hold rfl rfl rfl
    · exact .kept ho ha rfl rfl
  | _ => exact .kept hx rfl rfl rfl

theorem Supervised.instance_origin (h : Supervised w) (n : Nat) :
    ∀ x ∈ (w (n + 1)).server.instances.objects, InstanceOrigin w n x := by
  refine (h.run.step n).preserves (P := fun s => ∀ x ∈ s.instances.objects, InstanceOrigin w n x)
    (fun a b hab ih x hx => ?_) (fun j c t now hp _ x hx => h.instance_origin_of_performs hp now hx)
    fun x hx => .kept hx rfl rfl rfl
  obtain ⟨o, ho, hxo⟩ := hab.instances x hx
  exact (ih o ho).congr hxo.address hxo.labels hxo.owners

/-- The instance is the child of a deployment that was stored once, in the same namespace. -/
def Controlled (w : Nat → System) (x : Instance) : Prop :=
  ∃ (m : Nat) (d : Deployment) (uid : String), d ∈ (w m).server.deployments.objects ∧
    d.metadata.uid = some uid ∧ x.OwnedBy uid ∧ x.metadata.ns = d.metadata.ns

/-- Every instance is the child of a deployment. -/
theorem Supervised.controlled (h : Supervised w) (hx : x ∈ (w n).server.instances.objects) :
    Controlled w x := by
  -- an instance may have been listed long before it gets its labels anew
  induction n using Nat.strong_induction_on generalizing x with
  | _ n ih =>
    cases n with
    | zero =>
      rw [h.no_instances] at hx
      cases hx
    | succ n =>
      cases h.instance_origin n x hx with
      | kept stored ha hl ho =>
        obtain ⟨m, d, uid, hd, huid, howned, hns⟩ := ih n (Nat.lt_succ_self n) stored
        exact ⟨m, d, uid, hd, huid, howned.congr hl ho,
          (Resource.ns_eq_of_address ha).symm.trans hns⟩
      | @made d uid tends label ns owned =>
        obtain ⟨i, j, hj, -, ht, -, huid⟩ := tends
        obtain ⟨b, -, hd, -, -⟩ := h.begun_deployment hj ht
        refine ⟨b, d, uid, hd, huid, ?_, ns⟩
        obtain howned | ⟨m, hm, o, ho, hl, howner⟩ := owned
        · exact howned
        · obtain ⟨_, _, uid', -, -, ⟨hl', hsole⟩, -⟩ := ih m (Nat.lt_succ_of_lt hm) ho
          obtain rfl := Option.some.inj (hl'.symm.trans hl)
          exact ⟨label, howner ▸ hsole⟩

/-- A listing shows a deployment all the instances that it controls. -/
theorem Supervised.listed_instances (h : Supervised w) (hj : (w n).jobs i = some j)
    (ht : j.task = .deployment d) (huid : d.metadata.uid = some uid) {l : List Instance}
    (he : ⟨.listInstances d.namespaceName uid, l⟩ ∈ j.log) :
    ∃ m < n, (∀ x, x ∈ l ↔ x ∈ (w m).server.instances.objects ∧ x.ControlledBy uid) ∧
      (j.Active → Under w i (.deployment d) m n) := by
  obtain ⟨m, hm, ⟨now, hanswer⟩, hunder⟩ := h.run.answered hj he
  rw [ht] at hunder
  injection hanswer with hreply _
  obtain rfl := Except.ok.inj hreply
  refine ⟨m, hm, fun x => ?_, hunder⟩
  rw [Server.instancesOf, Table.list, List.mem_filter, Bool.and_eq_true, beq_iff_eq, beq_iff_eq]
  refine and_congr_right fun hx => ?_
  obtain ⟨k, e, uid', hd', huid', howned, hns⟩ := h.controlled hx
  rw [howned.controlledBy_iff, howned.1, Option.some.injEq]
  constructor
  · exact fun hmatch => hmatch.2.symm
  · rintro rfl
    obtain ⟨b, -, hd, -, -⟩ := h.begun_deployment hj ht
    refine ⟨?_, rfl⟩
    rw [hns, ← Table.ns_of_mem hd]
    exact Resource.ns_eq_of_address (h.address_of_deployment_uid hd' hd (huid'.trans huid.symm))

/-- A deployment that is torn down gets no instance. -/
theorem Supervised.no_instance_since (h : Supervised w) (hmn : m ≤ n)
    (hunder : Under w i (.deployment d) m n) (hdel : d.isDeleting = true)
    (huid : d.metadata.uid = some uid)
    (hnone : ∀ x : Instance, x ∈ (w m).server.instances.objects → ¬ x.ControlledBy uid) :
    ∀ x : Instance, x ∈ (w n).server.instances.objects → ¬ x.ControlledBy uid := by
  induction hmn with
  | refl => exact hnone
  | @step n hmn ih =>
    intro x hx hcontrolled
    have ih := ih fun k hk hkn => hunder k hk (Nat.le_succ_of_le hkn)
    cases h.instance_origin n x hx with
    | kept stored _ _ ho =>
      refine ih _ stored ?_
      rw [Instance.ControlledBy, ← ho]
      exact hcontrolled
    | @made e uid' tends label _ _ =>
      obtain ⟨i', j', hj', ha', ht', hheld, huid'⟩ := tends
      -- the pass made it an instance of its own deployment, which is another
      obtain ⟨_, _, v, -, -, howned, -⟩ := h.controlled hx
      have huv : uid = v := howned.controlledBy_iff.1 hcontrolled
      have hv : v = uid' := Option.some.inj (howned.1.symm.trans label)
      obtain ⟨j, hj, ht, ha⟩ := hunder n hmn (Nat.le_succ n)
      have heq := h.same_deployment hj hj' ha ha' ht ht' (by rw [huid, huid', huv, hv])
      rw [← heq, Resource.Holds, hdel] at hheld
      cases hheld.1

end System

end ControlPlane
