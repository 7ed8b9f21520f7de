import ControlPlane.Proofs.Server.Server
import ControlPlane.Reconcile.Workload

/-!
# What a workload's pass does to the deployments of others

A deployment belongs to the workload whose uid its specification carries. A pass deletes and creates
its own deployments only, but it looks the deployments it wants up by their names: one that bears a
wanted name is brought up to date whoever it belongs to, unless it is being deleted.

* `Drops`: what a part of the pass may cost a deployment of another workload; `Drops.bind` puts the
  parts together.
* `reconcile_foreign`: the deployments of others are left as they are, save for those whose names are
  wanted.
-/

namespace ControlPlane

open Pass (perform run_bind_eq_ok)

/-! ## What the passes read -/

/-- The key names a network that does not exist. -/
def Server.lacksNetwork (s : Server) (key : String) : Bool :=
  match splitKey key with
  | none => false
  | some (ns, name) => (s.networks.find? ns name).isNone

/-- The deployments that belong to a workload and carry its label. -/
def Server.ownDeployments (s : Server) (w : Workload) : List Deployment :=
  (s.deployments.list w.namespaceName (·.label? Workload.uidLabel == some w.uid)).filter
    (·.spec.workload.uid == w.uid)

namespace Workload

variable {w : Workload} {s t : Server} {now : Instant} {x : Deployment} {α β : Type}
  {lost : Prop}

theorem missingNetworks_run (keys : List String) :
    (missingNetworks keys).run (Server.answer now) s = (.ok (keys.filter s.lacksNetwork), s) := by
  induction keys with
  | nil => rfl
  | cons key rest ih =>
    rw [missingNetworks, List.filter_cons]
    cases hk : splitKey key with
    | none =>
      simp only [Server.lacksNetwork, hk]
      exact ih
    | some p =>
      simp only [perform, Pass.bind_eq, Pass.call_bind, Pass.done_bind, Pass.run, Server.answer,
        Pass.run_bind_of_ok ih, Pass.pure_eq, Server.lacksNetwork, hk]

theorem ownDeployments_run :
    w.ownDeployments.run (Server.answer now) s = (.ok (s.ownDeployments w), s) := rfl

theorem mem_own {d : Deployment} : d ∈ s.ownDeployments w ↔ d ∈ s.deployments.objects ∧
    d.metadata.ns = some w.namespaceName ∧ d.label? uidLabel = some w.uid ∧
    d.spec.workload.uid = w.uid := by
  simp only [Server.ownDeployments, Table.list, List.mem_filter, Bool.and_eq_true, beq_iff_eq,
    and_assoc]

theorem mem_ownDeployments {d : Deployment} (h : d ∈ s.ownDeployments w) :
    d ∈ s.deployments.objects ∧ d.spec.workload.uid = w.uid :=
  ⟨(mem_own.1 h).1, (mem_own.1 h).2.2.2⟩

/-- The deployments that a workload wants are its own. -/
theorem uid_of_mem_desired {locations : List Location} {wanted : List Deployment}
    (h : w.desired locations = .ok wanted) {d : Deployment} (hd : d ∈ wanted) :
    d.spec.workload.uid = w.uid := by
  unfold desired at h
  cases hu : w.metadata.uid with
  | none => simp [hu] at h
  | some uid =>
    cases ho : w.controllerReference? with
    | none => simp [hu, ho] at h
    | some owner =>
      simp only [hu, ho, Except.ok.injEq] at h
      rw [← h, List.mem_flatMap] at hd
      obtain ⟨p, -, hd⟩ := hd
      obtain ⟨city, -, rfl⟩ := List.mem_map.1 hd
      rw [Workload.uid, hu]
      rfl

/-! ## What a pass drops -/

/-- What a pass does to the deployment `x`: it does not bring `x` in, it drops `x` only if `lost`,
and then it does drop it if it ends well. -/
def Drops (now : Instant) (x : Deployment) (lost : Prop) (p : Pass α) (s : Server) : Prop :=
  let after := p.run (Server.answer now) s
  (x ∈ s.deployments.objects ∧ ¬ lost → x ∈ after.2.deployments.objects) ∧
    (x ∈ after.2.deployments.objects →
      x ∈ s.deployments.objects ∧ (after.1.isOk = true → ¬ lost))

theorem drops_of_mem_iff {p : Pass α}
    (h : x ∈ (p.run (Server.answer now) s).2.deployments.objects ↔
      x ∈ s.deployments.objects ∧ ¬ lost) : Drops now x lost p s :=
  ⟨h.2, fun hx => ⟨(h.1 hx).1, fun _ => (h.1 hx).2⟩⟩

/-- A pass that leaves the deployments as they are drops none. -/
theorem drops_of_same {p : Pass α}
    (h : (p.run (Server.answer now) s).2.deployments = s.deployments) :
    Drops now x False p s :=
  drops_of_mem_iff (by rw [h]; simp)

theorem drops_of_error {p : Pass α} {e : Error}
    (h : p.run (Server.answer now) s = (.error e, t)) (ht : t.deployments = s.deployments) :
    Drops now x lost p s := by
  unfold Drops
  rw [h]
  refine ⟨fun hx => ?_, fun hx => ⟨?_, fun hok => by cases hok⟩⟩
  · rw [ht]
    exact hx.1
  · rw [← ht]
    exact hx

/-- A pass drops what its parts drop. -/
theorem Drops.bind {lost' : Prop} {p : Pass α} {f : α → Pass β} (hp : Drops now x lost p s)
    (hf : ∀ a m, p.run (Server.answer now) s = (.ok a, m) → Drops now x lost' (f a) m) :
    Drops now x (lost ∨ lost') (p.bind f) s := by
  unfold Drops at hp ⊢
  rw [Pass.run_bind]
  rcases h : p.run (Server.answer now) s with ⟨_ | a, m⟩
  · rw [h] at hp
    refine ⟨fun hx => hp.1 ⟨hx.1, fun hl => hx.2 (.inl hl)⟩, fun hx => ?_⟩
    exact ⟨(hp.2 hx).1, fun hok => by cases hok⟩
  · rw [h] at hp
    obtain ⟨hin, hout⟩ := hf a m h
    refine ⟨fun hx => hin ⟨hp.1 ⟨hx.1, fun hl => hx.2 (.inl hl)⟩, fun hl => hx.2 (.inr hl)⟩,
      fun hx => ?_⟩
    obtain ⟨hm, hl'⟩ := hout hx
    obtain ⟨hs, hl⟩ := hp.2 hm
    exact ⟨hs, fun hok => not_or.2 ⟨hl rfl, hl' hok⟩⟩

theorem Drops.congr {lost' : Prop} {p : Pass α} (h : Drops now x lost p s)
    (hl : x ∈ s.deployments.objects → (lost ↔ lost')) : Drops now x lost' p s := by
  refine ⟨fun hx => h.1 ⟨hx.1, mt (hl hx.1).1 hx.2⟩, fun hx => ?_⟩
  obtain ⟨hm, hok⟩ := h.2 hx
  exact ⟨hm, fun he => mt (hl hm).2 (hok he)⟩

theorem Drops.bind_right {p : Pass α} {f : α → Pass β} (hp : Drops now x False p s)
    (hf : ∀ a m, p.run (Server.answer now) s = (.ok a, m) → Drops now x lost (f a) m) :
    Drops now x lost (p.bind f) s :=
  (hp.bind hf).congr fun _ => iff_of_eq (false_or lost)

theorem Drops.bind_left {p : Pass α} {f : α → Pass β} (hp : Drops now x lost p s)
    (hf : ∀ a m, p.run (Server.answer now) s = (.ok a, m) → Drops now x False (f a) m) :
    Drops now x lost (p.bind f) s :=
  (hp.bind hf).congr fun _ => iff_of_eq (or_false lost)

theorem drops_done (a : α) : Drops now x False (.done a) s :=
  drops_of_same rfl

theorem drops_perform {c : Call}
    (h : (Server.answer now c s).2.deployments = s.deployments) :
    Drops now x False (perform c) s :=
  drops_of_same (by rw [Pass.run_perform, h])

theorem drops_reportUnavailable (reason message : String) :
    Drops now x False (w.reportUnavailable now reason message) s := by
  unfold reportUnavailable
  simp only
  split
  · exact drops_perform rfl
  · exact drops_done _

/-! ## Deletions -/

/-- Nothing at this address belongs to another workload. -/
def OwnAt (uid : String) (t : Table DeploymentSpec DeploymentStatus) (ns name : String) : Prop :=
  ∀ o, t.find? ns name = some o → o.spec.workload.uid = uid

theorem mem_remove_iff {uid ns name : String} {t : Table DeploymentSpec DeploymentStatus}
    (h : OwnAt uid t ns name) (hx : x.spec.workload.uid ≠ uid) :
    x ∈ (t.remove now ns name).objects ↔ x ∈ t.objects := by
  rcases t.remove_cases now ns name with he | ⟨f, he, hf⟩
  · rw [he]
  · rw [he, Table.mem_change]
    constructor
    · rintro (⟨hm, -⟩ | ⟨o, y, ho, hy, rfl⟩)
      · exact hm
      · rw [hf o y hy] at hx
        exact absurd (h o ho) hx
    · intro hm
      refine .inl ⟨hm, fun ha => hx ?_⟩
      exact h x (Table.find?_eq_some_iff.2 ⟨hm, ha⟩)

theorem ownAt_remove {uid ns name ns' name' : String}
    {t : Table DeploymentSpec DeploymentStatus} (h : OwnAt uid t ns' name') :
    OwnAt uid (t.remove now ns name) ns' name' := by
  intro x hx
  obtain ⟨hm, ha⟩ := Table.find?_eq_some_iff.1 hx
  rcases t.remove_cases now ns name with he | ⟨f, he, hf⟩
  · rw [he] at hm
    exact h x (Table.find?_eq_some_iff.2 ⟨hm, ha⟩)
  · rw [he] at hm
    rcases Table.mem_change.1 hm with ⟨hm, -⟩ | ⟨o, y, ho, hy, rfl⟩
    · exact h x (Table.find?_eq_some_iff.2 ⟨hm, ha⟩)
    · rw [hf o y hy] at ha ⊢
      refine h o (Table.find?_eq_some_iff.2 ⟨(Table.find?_eq_some_iff.1 ho).1, ?_⟩)
      exact (Table.find?_eq_some_iff.1 ho).2.trans ha

/-- Deleting deployments of one workload drops none of another. -/
theorem drops_deleteAll {uid : String} {l : List Deployment}
    (hl : ∀ d ∈ l, ∀ ns, d.metadata.ns = some ns → OwnAt uid s.deployments ns d.name)
    (hx : x.spec.workload.uid ≠ uid) :
    Drops now x False (Pass.forEach (fun d => perform (.deleteDeployment d)) l) s := by
  induction l generalizing s with
  | nil => exact drops_done _
  | cons d rest ih =>
    have hrun : (perform (.deleteDeployment d)).run (Server.answer now) s =
        s.onDeployments (s.deployments.delete now d) := by
      rw [Pass.run_perform]
      rfl
    rw [Table.delete] at hrun
    cases hns : d.metadata.ns with
    | none =>
      rw [hns] at hrun
      exact drops_of_error (Pass.run_bind_of_error hrun _) rfl
    | some ns =>
      rw [hns] at hrun
      have hown := hl d List.mem_cons_self ns hns
      refine Drops.bind_right (drops_of_mem_iff ?_) fun u m hm => ?_
      · rw [hrun]
        exact (mem_remove_iff hown hx).trans (by simp)
      · rw [hrun] at hm
        cases hm
        exact ih fun d' hd' ns' hns' =>
          ownAt_remove (hl d' (List.mem_cons_of_mem _ hd') ns' hns')

theorem ownAt_of_mem_ownDeployments {d : Deployment} (h : d ∈ s.ownDeployments w) (ns : String)
    (hns : d.metadata.ns = some ns) : OwnAt w.uid s.deployments ns d.name := by
  obtain ⟨hm, hu⟩ := mem_ownDeployments h
  intro o ho
  obtain ⟨hom, hoa⟩ := Table.find?_eq_some_iff.1 ho
  rw [Table.eq_of_address_eq hom hm (by
    rw [hoa, Table.address_eq_of_mem hm, Resource.destination, hns]), hu]

theorem drops_finalize (hx : x.spec.workload.uid ≠ w.uid) : Drops now x False w.finalize s := by
  rw [finalize, Pass.bind_eq]
  refine Drops.bind_right (drops_of_same rfl) fun ds m ho => ?_
  rw [ownDeployments_run] at ho
  cases ho
  refine Drops.bind_right (drops_deleteAll (fun d hd => ?_) hx) fun _ _ _ => drops_done _
  exact ownAt_of_mem_ownDeployments (List.mem_filter.1 hd).1

theorem drops_tearDown (hx : x.spec.workload.uid ≠ w.uid) : Drops now x False w.tearDown s := by
  unfold tearDown
  split
  · exact drops_done _
  · refine Drops.bind_right (drops_finalize hx) fun done m _ => ?_
    cases done with
    | false => exact drops_done _
    | true => exact Drops.bind_right (drops_perform rfl) fun _ _ _ => drops_done _

/-! ## Bringing deployments up to date -/

/-- A deployment that bringing `wanted` up to date writes over. -/
def InTheWay (ns : String) (wanted x : Deployment) : Prop :=
  x.isDeleting = false ∧ x.address = (some ns, some wanted.name)

theorem drops_create {wanted : Deployment} (hw : wanted.spec.workload.uid = w.uid)
    (hx : x.spec.workload.uid ≠ w.uid) :
    Drops now x False (perform (.createDeployment wanted)) s := by
  have hrun : (perform (.createDeployment wanted)).run (Server.answer now) s =
      s.onDeployments (s.deployments.create now wanted) := by
    rw [Pass.run_perform]
    rfl
  rcases s.deployments.create_cases now wanted with ⟨e, he⟩ | ⟨ns, name, hv, -, -, hk⟩
  · rw [he] at hrun
    exact drops_of_error hrun rfl
  · rw [hk] at hrun
    refine drops_of_mem_iff ?_
    rw [hrun]
    simp only [Server.onDeployments, Table.add, List.mem_append, List.mem_singleton, not_false_iff,
      and_true]
    refine or_iff_left fun e => hx ?_
    rw [e]
    exact hw

/-- Writing over a deployment drops that one only. -/
theorem drops_adopt {existing wanted : Deployment} (hw : wanted.spec.workload.uid = w.uid)
    (he : existing ∈ s.deployments.objects) (hx : x.spec.workload.uid ≠ w.uid) :
    Drops now x (x = existing) (perform (.replaceDeployment (adopted existing wanted))) s := by
  have hc : s.deployments.IsCurrent (adopted existing wanted) :=
    ⟨existing, he, Table.address_eq_of_mem he, rfl⟩
  obtain ⟨ns, o, hns, -, hu⟩ :=
    Table.update_of_isCurrent (g := (adopted existing wanted).inPlaceOf) hc
  have ha : existing.address = (some ns, some (adopted existing wanted).name) := by
    rw [Table.address_eq_of_mem he, ← hns]
    rfl
  refine drops_of_mem_iff ?_
  rw [Pass.run_perform]
  show x ∈ (s.deployments.replace (adopted existing wanted)).2.objects ↔ _
  rw [Table.replace, hu, Table.mem_change]
  constructor
  · rintro (⟨hm, hne⟩ | ⟨o, y, -, hy, rfl⟩)
    · exact ⟨hm, fun e => hne (e ▸ ha)⟩
    · -- what is written belongs to the workload
      unfold Resource.kept at hy
      split at hy
      · cases hy
      · cases hy
        exact absurd hw hx
  · rintro ⟨hm, hne⟩
    exact .inl ⟨hm, fun hxa => hne (Table.eq_of_address_eq hm he (hxa.trans ha.symm))⟩

/-- Bringing a deployment up to date drops the one in its way if that belongs to another workload. -/
theorem drops_upsert {ns : String} {wanted : Deployment} (hw : wanted.spec.workload.uid = w.uid)
    (hx : x.spec.workload.uid ≠ w.uid) :
    Drops now x (InTheWay ns wanted x) (upsert ns wanted) s := by
  unfold upsert
  refine Drops.bind_right (drops_perform rfl) fun found m hf => ?_
  rw [Pass.run_perform] at hf
  cases hf
  cases hf : s.deployments.find? ns wanted.name with
  | none =>
    refine (drops_create hw hx).congr fun hm => iff_of_false id fun hi => ?_
    exact Table.find?_eq_none_iff.1 hf x hm hi.2
  | some existing =>
    obtain ⟨he, hea⟩ := Table.find?_eq_some_iff.1 hf
    have hsame (hm : x ∈ s.deployments.objects) (hi : InTheWay ns wanted x) : x = existing :=
      Table.eq_of_address_eq hm he (hi.2.trans hea.symm)
    simp only
    split
    · next hc =>
      -- the existing one is being deleted, or it is the workload's own
      refine (drops_done _).congr fun hm => iff_of_false id fun hi => ?_
      obtain rfl := hsame hm hi
      rw [hi.1, Bool.false_or, decide_eq_true_iff] at hc
      exact hx (hc ▸ hw)
    · next hc =>
      rw [Bool.or_eq_true, not_or, Bool.not_eq_true] at hc
      refine (drops_adopt hw he hx).congr fun hm => ⟨?_, hsame hm⟩
      rintro rfl
      exact ⟨hc.1, hea⟩

theorem drops_upsertAll {ns : String} {wanted : List Deployment}
    (hw : ∀ d ∈ wanted, d.spec.workload.uid = w.uid) (hx : x.spec.workload.uid ≠ w.uid) :
    Drops now x (∃ d ∈ wanted, InTheWay ns d x) (Pass.collect (upsert ns) wanted) s := by
  induction wanted generalizing s with
  | nil => exact (drops_done _).congr (by simp)
  | cons d rest ih =>
    have hrest (m : Server) := ih (s := m) fun d hd => hw d (List.mem_cons_of_mem _ hd)
    refine (Drops.bind (drops_upsert (hw d List.mem_cons_self) hx) fun d' m _ =>
      Drops.bind_left (hrest m) fun ds m' _ => drops_done _).congr fun _ => ?_
    rw [List.exists_mem_cons_iff]

/-! ## The whole pass -/

/-- The pass gets to the deployments: nothing that it needs is missing. -/
def Expands (w : Workload) (s : Server) : Prop :=
  w.isDeleting = false ∧ finalizer ∈ w.finalizers ∧ w.networkKeys.filter s.lacksNetwork = [] ∧
    s.locations.objects ≠ []

/-- A deployment bears the name of one that the pass brings up to date, and is not being deleted. -/
def TakesOver (w : Workload) (s : Server) (x : Deployment) : Prop :=
  w.Expands s ∧ ∃ wanted, w.desired s.locations.objects = .ok wanted ∧
    ∃ d ∈ wanted, InTheWay w.namespaceName d x

theorem drops_report (status : WorkloadStatus) :
    Drops now x False (do
      if w.status ≠ some status then
        perform (.patchWorkloadStatus w status)
      return awaitChange) s := by
  split
  · exact Drops.bind_right (drops_perform rfl) fun _ _ _ => drops_done _
  · exact drops_done _

theorem drops_expand {locations : List Location} (hx : x.spec.workload.uid ≠ w.uid) :
    Drops now x (∃ wanted, w.desired locations = .ok wanted ∧
      ∃ d ∈ wanted, InTheWay w.namespaceName d x) (w.expand now locations) s := by
  cases hw : w.desired locations with
  | error e =>
    unfold expand
    rw [hw]
    exact drops_of_error rfl rfl
  | ok wanted =>
    suffices h : Drops now x (∃ d ∈ wanted, InTheWay w.namespaceName d x)
        (w.expand now locations) s from h.congr fun _ => by simp
    unfold expand
    rw [hw, Pass.ofExcept, Pass.bind_eq, Pass.done_bind]
    refine Drops.bind_right (drops_of_same rfl) fun existing m ho => ?_
    rw [ownDeployments_run] at ho
    cases ho
    refine Drops.bind_right (drops_deleteAll (fun d hd => ?_) hx) fun _ m _ => ?_
    · exact ownAt_of_mem_ownDeployments (List.mem_filter.1 hd).1
    · exact Drops.bind_left (drops_upsertAll (fun d hd => uid_of_mem_desired hw hd) hx)
        fun _ m _ => drops_report _

/-- A pass leaves the deployments of other workloads as they are, save for those that it takes over:
it makes none, and it deletes or changes none of the rest, whether it ends well or not. Those that it
takes over are gone when it has ended well. -/
theorem reconcile_foreign (hx : x.spec.workload.uid ≠ w.uid) :
    let after := (w.reconcile now).run (Server.answer now) s
    (x ∈ s.deployments.objects ∧ ¬ w.TakesOver s x → x ∈ after.2.deployments.objects) ∧
      (x ∈ after.2.deployments.objects →
        x ∈ s.deployments.objects ∧ (after.1.isOk = true → ¬ w.TakesOver s x)) := by
  show Drops now x (w.TakesOver s x) (w.reconcile now) s
  -- a pass that stops short of the deployments takes none over
  have short (p : Pass Requeue) (hp : Drops now x False p s) (he : ¬ w.Expands s) :
      Drops now x (w.TakesOver s x) p s :=
    hp.congr fun _ => iff_of_false id fun h => he h.1
  unfold reconcile
  split
  · next hdel =>
    refine short _ (drops_tearDown hx) fun he => ?_
    rw [he.1] at hdel
    cases hdel
  · next hdel =>
    unfold withFinalizer
    by_cases hfin : finalizer ∈ w.finalizers
    · rw [if_pos hfin]
      refine Drops.bind_right (drops_of_same ?_) fun missing m hn => ?_
      · rw [missingNetworks_run]
      rw [missingNetworks_run] at hn
      cases hn
      by_cases hk : w.networkKeys.filter s.lacksNetwork = []
      · rw [hk]
        refine Drops.bind_right (drops_perform rfl) fun locations m hl => ?_
        rw [Pass.run_perform] at hl
        cases hl
        by_cases hloc : s.locations.objects = []
        · refine short _ ?_ fun he => he.2.2.2 hloc
          rw [if_pos (by simpa using hloc)]
          exact Drops.bind_right (drops_reportUnavailable _ _) fun _ _ _ => drops_done _
        · have he : w.Expands s := ⟨by simpa using hdel, hfin, hk, hloc⟩
          rw [if_neg (by simpa using hloc)]
          refine (drops_expand hx).congr fun _ => ?_
          rw [TakesOver, and_iff_right he]
      · refine short _ ?_ fun he => hk he.2.2.1
        rw [if_pos (by simpa using hk)]
        exact Drops.bind_right (drops_reportUnavailable _ _) fun _ _ _ => drops_done _
    · refine short _ ?_ fun he => hfin he.2.1
      rw [if_neg hfin]
      exact Drops.bind_right (drops_perform rfl) fun _ _ _ => drops_done _

/-- A deployment of another workload, `web`, in a city. -/
def webDeployment (placement : String) : Deployment where
  metadata := {}
  spec := { workload := ⟨"web", "w1"⟩, placement, cityCode := "DFW", scale := { minReplicas := 1 } }

/-- A workload whose name goes on where the name of `web` ends. -/
def webUs : Workload where
  metadata := {
    name := some "web-us"
    ns := some "shop"
    uid := some "w2"
    resourceVersion := some "1"
    finalizers := some [finalizer] }
  spec := { placements := [{ name := "east", cityCodes := ["DFW"], scale := { minReplicas := 2 } }] }

/-- A server with one location, that workload and two deployments of `web`, in its placements
`us-east` and `west`. -/
def webServer : Server :=
  { Server.empty with
    workloads := Table.empty.add "shop" "web-us" webUs rfl
    locations := Table.empty.add "infra" "dfw"
      { metadata := {}, spec := { topology := Dict.set .empty Location.cityCodeKey "DFW" } } rfl
    deployments :=
      (Table.empty.add "shop" "web-us-east-dfw" (webDeployment "us-east") rfl).add "shop"
        "web-west-dfw" (webDeployment "west") rfl }

/-- The name `web-us-east-dfw` is wanted by both workloads: the pass on one of them turns the
deployment of the other into its own. -/
theorem reconcile_takes_over :
    let x := (webDeployment "us-east").stamp "shop" "web-us-east-dfw" 1
    let after := (webUs.reconcile ⟨0, 0⟩).run (Server.answer ⟨0, 0⟩) webServer
    after.1 = .ok awaitChange ∧ x.spec.workload.uid ≠ webUs.uid ∧
      x ∈ webServer.deployments.objects ∧ x ∉ after.2.deployments.objects := by
  refine ⟨by rfl, by decide, by decide, by decide⟩

/-- The other deployment of `web` bears no wanted name and stays. -/
theorem reconcile_foreign_web :
    let x := (webDeployment "west").stamp "shop" "web-west-dfw" 2
    let after := (webUs.reconcile ⟨0, 0⟩).run (Server.answer ⟨0, 0⟩) webServer
    after.1 = .ok awaitChange ∧ x.spec.workload.uid ≠ webUs.uid ∧
      x ∈ after.2.deployments.objects := by
  intro x after
  have hx : x.spec.workload.uid ≠ webUs.uid := by decide
  refine ⟨by rfl, hx, (reconcile_foreign hx).1 ⟨by decide, ?_⟩⟩
  rintro ⟨-, wanted, hw, d, hd, -, ha⟩
  have hn : (webUs.desired webServer.locations.objects).map (·.map (·.name)) =
      .ok ["web-us-east-dfw"] := by rfl
  rw [hw, Except.map, Except.ok.injEq] at hn
  have hdn : d.name = "web-us-east-dfw" := by
    have := List.mem_map_of_mem (f := (·.name)) hd
    rw [hn] at this
    exact List.mem_singleton.1 this
  rw [hdn] at ha
  exact absurd ha (by decide)

end Workload

end ControlPlane
