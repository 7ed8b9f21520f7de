import ControlPlane.Proofs.Teardown.Duties
import ControlPlane.Proofs.Teardown.Parentage

/-!
# Teardown leaves no orphans

A parent takes its finalizer before it gets the first child, and gives it up when a listing has shown
that there is no child left. Between the listing and the release other passes and others go on; what
keeps them from making a child is that the pass that tears down is the only one that tends its parent.

* `HoldsFirst`: a parent holds its finalizer when it gets a child.
* `ReleasesLast`: a parent that is released has no child.
* `TearsDown`: a teardown deletes exactly the children that are not being deleted yet.
* `no_orphans`: all three hold in every supervised run.
-/

namespace ControlPlane

namespace System

variable {w : Nat → System} {n i : Nat} {j : Job} {y : Workload} {d : Deployment} {uid : String}
  {c : Call} {t : System}

/-- A pass on a parent that lacks its finalizer and is not being deleted takes the finalizer and does
nothing else. What is made a child is made one of a parent that is stored and holds its finalizer. -/
structure HoldsFirst (w : Nat → System) : Prop where
  workload : ∀ n i j (y : Workload), (w n).jobs i = some j → j.task = .workload y →
    y.isDeleting = false → Workload.finalizer ∉ y.finalizers → j.Follows y.holdScript
  deployment : ∀ n i j (d : Deployment), (w n).jobs i = some j → j.task = .deployment d →
    d.isDeleting = false → Deployment.finalizer ∉ d.finalizers → j.Follows d.holdScript
  creates_deployment : ∀ n j d t, (w n).Performs j (.createDeployment d) t → ∃ y : Workload,
    j.task = .workload y ∧ y.Bears d ∧
      (w n).server.workloads.Holds Workload.finalizer y.address y.metadata.uid
  replaces_deployment : ∀ n j d t, (w n).Performs j (.replaceDeployment d) t → ∃ y : Workload,
    j.task = .workload y ∧ y.Bears d ∧
      (w n).server.workloads.Holds Workload.finalizer y.address y.metadata.uid
  creates_instance : ∀ n j (x : Instance) t, (w n).Performs j (.createInstance x) t →
    ∃ (d : Deployment) (uid : String), j.task = .deployment d ∧ d.metadata.uid = some uid ∧
      x.OwnedBy uid ∧
        (w n).server.deployments.Holds Deployment.finalizer d.address d.metadata.uid

/-- When a pass gives up the finalizer of a parent, there is no child of the parent. -/
structure ReleasesLast (w : Nat → System) : Prop where
  workload : ∀ n j (y : Workload) finalizers t,
    (w n).Performs j (.setWorkloadFinalizers y finalizers) t → Workload.finalizer ∉ finalizers →
      ∀ d ∈ t.server.deployments.objects, ¬ y.Bears d
  deployment : ∀ n j (d : Deployment) finalizers t,
    (w n).Performs j (.setDeploymentFinalizers d finalizers) t →
      Deployment.finalizer ∉ finalizers → ∃ uid, d.metadata.uid = some uid ∧
        ∀ x : Instance, x ∈ t.server.instances.objects → ¬ x.ControlledBy uid

/-- A pass on a parent that is being deleted lists all children there are, and deletes exactly those
that are not being deleted yet. It gives up the finalizer only if there are none. -/
structure TearsDown (w : Nat → System) : Prop where
  workload : ∀ n i j (y : Workload), (w n).jobs i = some j → j.task = .workload y →
    y.isDeleting = true → Workload.finalizer ∈ y.finalizers → j.Follows y.tearDownScript
  listed_deployments : ∀ n i j (y : Workload) l, (w n).jobs i = some j → j.task = .workload y →
    ⟨.listDeployments y.namespaceName y.uid, l⟩ ∈ j.log →
      ∃ m < n, ∀ d, d ∈ y.own l ↔ d ∈ (w m).server.deployments.objects ∧ y.Bears d
  deployment : ∀ n i j (d : Deployment), (w n).jobs i = some j → j.task = .deployment d →
    d.isDeleting = true → Deployment.finalizer ∈ d.finalizers → ∃ uid,
      d.metadata.uid = some uid ∧ j.Follows (d.tearDownScript uid)
  listed_instances : ∀ n i j (d : Deployment) uid l, (w n).jobs i = some j →
    j.task = .deployment d → d.metadata.uid = some uid →
      ⟨.listInstances d.namespaceName uid, l⟩ ∈ j.log →
        ∃ m < n, ∀ x : Instance, x ∈ l ↔ x ∈ (w m).server.instances.objects ∧ x.ControlledBy uid

namespace Supervised

theorem holdsFirst (h : Supervised w) : HoldsFirst w where
  workload n i j y hj ht hdel hfin :=
    h.run.follows hj fun now => by rw [ht]; exact Workload.reconcile_eq_hold hdel hfin
  deployment n i j d hj ht hdel hfin :=
    h.run.follows hj fun now => by rw [ht]; exact Deployment.reconcile_eq_hold hdel hfin
  creates_deployment n j d t hp := by
    obtain ⟨y, ht, hy, _, _, hw, hd⟩ := h.run.ok_of_performs Task.meets_ownerSafe hp
    obtain ⟨i, next, hj, -⟩ := hp.exists_slot
    exact ⟨y, ht, Workload.bears_of_mem_desired hw hd, h.workload_holds hj hp.active ht hy⟩
  replaces_deployment n j d t hp := by
    obtain ⟨y, ht, hy, _, _, e, o, hw, he, -, rfl⟩ := h.run.ok_of_performs Task.meets_ownerSafe hp
    obtain ⟨i, next, hj, -⟩ := hp.exists_slot
    exact ⟨y, ht, Workload.bears_adopted (Workload.uid_of_mem_desired hw he) o,
      h.workload_holds hj hp.active ht hy⟩
  creates_instance n j x t hp := by
    obtain ⟨d, uid, ht, hd, huid, k, owner, howner, rfl⟩ :=
      h.run.ok_of_performs Task.meets_ownerSafe hp
    obtain ⟨i, next, hj, -⟩ := hp.exists_slot
    obtain ⟨b, -, hstored, -, -⟩ := h.begun_deployment hj ht
    obtain ⟨o, ho⟩ := Deployment.exists_owner_of_mem hstored huid
    obtain rfl := howner o ho
    exact ⟨d, uid, ht, huid, ownedBy_newInstance k huid ho, h.deployment_holds hj hp.active ht hd⟩

theorem tearsDown (h : Supervised w) : TearsDown w where
  workload n i j y hj ht hdel hfin :=
    h.run.follows hj fun now => by rw [ht]; exact Workload.reconcile_eq_tearDown hdel hfin
  listed_deployments n i j y l hj ht he := by
    obtain ⟨m, hm, hlisted, -⟩ := h.listed_deployments hj ht he
    exact ⟨m, hm, hlisted⟩
  deployment n i j d hj ht hdel hfin := by
    obtain ⟨b, -, hd, -, -⟩ := h.begun_deployment hj ht
    obtain ⟨uid, huid⟩ := h.uid_isSome_of_mem hd
    exact ⟨uid, huid, h.run.follows hj fun now => by
      rw [ht]
      exact Deployment.reconcile_eq_tearDown hdel huid hfin⟩
  listed_instances n i j d uid l hj ht huid he := by
    obtain ⟨m, hm, hlisted, -⟩ := h.listed_instances hj ht huid he
    exact ⟨m, hm, hlisted⟩

/-- A pass that gives up a finalizer was told of no children. -/
theorem releasesLast (h : Supervised w) : ReleasesLast w where
  workload n j y finalizers t hp hnot := by
    obtain ⟨ht, hmay⟩ := h.run.ok_of_performs Task.meets_ownerSafe hp
    obtain ⟨hdel, hfin⟩ := hmay.resolve_left fun hhold => hnot hhold.2.2
    obtain ⟨i, next, hj, hrest⟩ := hp.exists_slot
    have hfollows := h.tearsDown.workload n i j y hj ht hdel hfin
    rw [Job.Follows, hrest] at hfollows
    obtain ⟨l, hread, hnone⟩ := hfollows.nil_of_call (by rintro ⟨⟩) (by rintro _ ⟨⟩)
    obtain ⟨m, hm, hlisted, hunder⟩ := h.listed_deployments hj ht hread
    have hnochild := h.no_child_since (Nat.le_of_lt hm) (hunder hp.active) hdel
      fun d hd hbears => by
        have hmem := (hlisted d).2 ⟨hd, hbears⟩
        rw [show y.own l = [] from hnone] at hmem
        cases hmem
    obtain hserver | ⟨now, hserver⟩ := hp.server_cases <;> rw [hserver]
    · exact hnochild
    · exact hnochild
  deployment n j d finalizers t hp hnot := by
    obtain ⟨ht, hmay⟩ := h.run.ok_of_performs Task.meets_ownerSafe hp
    obtain ⟨hdel, hfin⟩ := hmay.resolve_left fun hhold => hnot hhold.2.2
    obtain ⟨i, next, hj, hrest⟩ := hp.exists_slot
    obtain ⟨uid, huid, hfollows⟩ := h.tearsDown.deployment n i j d hj ht hdel hfin
    refine ⟨uid, huid, ?_⟩
    rw [Job.Follows, hrest] at hfollows
    obtain ⟨l, hread, hnone⟩ := hfollows.nil_of_call (by rintro ⟨⟩) (by rintro _ ⟨⟩)
    obtain ⟨m, hm, hlisted, hunder⟩ := h.listed_instances hj ht huid hread
    have hnochild := h.no_instance_since (Nat.le_of_lt hm) (hunder hp.active) hdel huid
      fun x hx hcontrolled => by
        have hmem := (hlisted x).2 ⟨hx, hcontrolled⟩
        rw [show l = [] from hnone] at hmem
        cases hmem
    obtain hserver | ⟨now, hserver⟩ := hp.server_cases <;> rw [hserver]
    · exact hnochild
    · exact hnochild

end Supervised

/-- Teardown leaves no orphans. In every supervised run a parent holds its finalizer before it gets a
child, has no child when it is released, and is torn down by deleting the children that are left. -/
theorem no_orphans (h : Supervised w) : HoldsFirst w ∧ ReleasesLast w ∧ TearsDown w :=
  ⟨h.holdsFirst, h.releasesLast, h.tearsDown⟩

/-- A workload with one placement in one city. -/
def bakery : Workload where
  metadata := {
    name := some "bakery"
    ns := some "market"
    uid := some "w1"
    resourceVersion := some "1" }
  spec := { placements := [{ name := "eu", cityCodes := ["LHR"], scale := { minReplicas := 1 } }] }

/-- A workload that is being deleted. -/
def butcher : Workload where
  metadata := {
    name := some "butcher"
    ns := some "market"
    uid := some "w2"
    resourceVersion := some "2"
    deletionTimestamp := some ⟨1, 0⟩
    finalizers := some [Workload.finalizer] }
  spec := { placements := [] }

/-- A server that holds the two and a location. -/
def twoShopsServer : Server :=
  { Server.empty with
    locations := Table.empty.add "sites" "lhr" (Workload.cityLocation "LHR") (Table.find?_empty ..)
    workloads := (Table.empty.add "market" "bakery" bakery (Table.find?_empty ..)).add
      "market" "butcher" butcher rfl }

/-- The names of the workloads, deployments and instances. -/
def generations (s : Server) : List String × List String × List String :=
  (s.workloads.objects.map (·.name), s.deployments.objects.map (·.name),
    s.instances.objects.map (·.name))

/-- The first workload takes its finalizer and gets a deployment, while the second is given up. The
deployment is scheduled and gets an instance. Then the workload is deleted: a pass on it deletes the
deployment, one on that deletes the instance, and both are given up, the deployment first. -/
def twoShops : Nat → System :=
  let shop (name : String) (s : Server) : Option Task :=
    (s.workloads.find? "market" name).map .workload
  let branch (task : Deployment → Task) (s : Server) : Option Task :=
    (s.deployments.find? "market" "bakery-eu-lhr").map task
  onDuty twoShopsServer
    [.tend (shop "bakery") ⟨2, 0⟩, .tend (shop "butcher") ⟨2, 0⟩, .call 0 ⟨2, 0⟩, .call 1 ⟨2, 0⟩,
      .tend (shop "bakery") ⟨3, 0⟩, .call 4 ⟨3, 0⟩, .call 1 ⟨3, 0⟩, .call 4 ⟨3, 0⟩, .call 4 ⟨3, 0⟩,
      .call 4 ⟨3, 0⟩, .tend (branch .scheduling) ⟨4, 0⟩, .call 4 ⟨4, 0⟩, .call 10 ⟨4, 0⟩,
      .call 10 ⟨4, 0⟩, .tend (branch .deployment) ⟨5, 0⟩, .call 14 ⟨5, 0⟩, .call 14 ⟨5, 0⟩,
      .delete bakery ⟨6, 0⟩, .call 14 ⟨6, 0⟩, .tend (shop "bakery") ⟨6, 0⟩, .call 19 ⟨6, 0⟩,
      .call 19 ⟨6, 0⟩, .tend (branch .deployment) ⟨7, 0⟩, .call 22 ⟨7, 0⟩, .call 22 ⟨7, 0⟩,
      .tend (shop "bakery") ⟨7, 0⟩, .call 25 ⟨7, 0⟩, .tend (branch .deployment) ⟨8, 0⟩,
      .call 27 ⟨8, 0⟩, .call 27 ⟨8, 0⟩, .tend (shop "bakery") ⟨9, 0⟩, .call 30 ⟨9, 0⟩,
      .call 30 ⟨9, 0⟩]

/-- The children go before their parents. -/
theorem no_orphans_twoShops : Supervised twoShops ∧
    generations (twoShops 17).server = (["bakery"], ["bakery-eu-lhr"], ["bakery-eu-lhr-0"]) ∧
    generations (twoShops 25).server = (["bakery"], ["bakery-eu-lhr"], []) ∧
    generations (twoShops 30).server = (["bakery"], [], []) ∧
    generations (twoShops 33).server = ([], [], []) ∧
    HoldsFirst twoShops ∧ ReleasesLast twoShops ∧ TearsDown twoShops := by
  have hsupervised : Supervised twoShops :=
    supervised_onDuty rfl rfl (by decide +kernel) (by decide +kernel)
  exact ⟨hsupervised, by decide +kernel, by decide +kernel, by decide +kernel, by decide +kernel,
    no_orphans hsupervised⟩

end System

end ControlPlane
