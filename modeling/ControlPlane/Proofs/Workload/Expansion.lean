import ControlPlane.Proofs.Server.Calls
import ControlPlane.Proofs.Workload.Isolation
import ControlPlane.Proofs.Workload.Names

/-!
# What a full pass makes of a workload's deployments

Where nothing that a pass needs is missing and the wanted names are its own, the pass leaves the
workload with the deployments that it wants: those that are not wanted are deleted, those that are
missing are created, and the rest are given the specification that is wanted. Every step writes at
most one deployment (`Writes`), and the steps of a loop write different ones (`collect_writes`), so
that the end of a pass is told name by name (`expand_run`).

* `Expanded`: the deployments that a pass has made the wanted ones.
* `reconcile_expands`: a full pass gets there, and a second one has nothing left to do.
-/

namespace ControlPlane

open Pass (perform run_bind_of_ok)

namespace Workload

variable {w : Workload} {s : Server} {now : Instant} {ns : String} {wanted d o : Deployment}
  {locations : List Location} {α γ : Type}

/-! ## One deployment at a time -/

/-- The pass ends well, and writes no deployment but the one of this name, in the way that `R` says of
what is found there before and after. -/
def Writes (now : Instant) (ns name : String)
    (R : Option Deployment → Option Deployment → Prop) (p : Pass α) (s : Server) : Prop :=
  ∃ a t, p.run (Server.answer now) s = (.ok a, { s with deployments := t }) ∧
    R (s.deployments.find? ns name) (t.find? ns name) ∧
    ∀ ns' name', (ns', name') ≠ (ns, name) →
      t.find? ns' name' = s.deployments.find? ns' name'

/-- A loop whose steps write different deployments writes each as its step does. -/
theorem collect_writes {f : γ → Pass α} {name : γ → String}
    {R : γ → Option Deployment → Option Deployment → Prop} {l : List γ} (hl : (l.map name).Nodup)
    (hf : ∀ a ∈ l, ∀ t, t.find? ns (name a) = s.deployments.find? ns (name a) →
      Writes now ns (name a) (R a) (f a) { s with deployments := t }) :
    ∃ bs t, (Pass.collect f l).run (Server.answer now) s = (.ok bs, { s with deployments := t }) ∧
      (∀ a ∈ l, R a (s.deployments.find? ns (name a)) (t.find? ns (name a))) ∧
      ∀ ns' name', (∀ a ∈ l, (ns', name') ≠ (ns, name a)) →
        t.find? ns' name' = s.deployments.find? ns' name' := by
  induction l generalizing s with
  | nil => exact ⟨[], s.deployments, rfl, by simp, fun _ _ _ => rfl⟩
  | cons a rest ih =>
    rw [List.map_cons, List.nodup_cons] at hl
    have hne : ∀ x ∈ rest, (ns, name x) ≠ (ns, name a) := fun x hx e =>
      hl.1 (List.mem_map.2 ⟨x, hx, (Prod.mk.inj e).2⟩)
    obtain ⟨b, t, hrun, hR, hframe⟩ := hf a List.mem_cons_self s.deployments rfl
    obtain ⟨bs, u, hruns, hRs, hframes⟩ := ih (s := { s with deployments := t }) hl.2
      fun x hx t' ht => hf x (List.mem_cons_of_mem _ hx) t' (ht.trans (hframe _ _ (hne x hx)))
    refine ⟨b :: bs, u, ?_, ?_, ?_⟩
    · rw [Pass.collect, Pass.bind_eq, run_bind_of_ok hrun, Pass.bind_eq, run_bind_of_ok hruns]
      rfl
    · intro x hx
      rcases List.mem_cons.1 hx with rfl | hx
      · rw [hframes _ _ fun y hy => (hne y hy).symm]
        exact hR
      · rw [← hframe _ _ (hne x hx)]
        exact hRs x hx
    · intro ns' name' h
      rw [hframes _ _ fun x hx => h x (List.mem_cons_of_mem _ hx)]
      exact hframe _ _ (h a List.mem_cons_self)

theorem forEach_writes {f : γ → Pass Unit} {name : γ → String}
    {R : γ → Option Deployment → Option Deployment → Prop} {l : List γ} (hl : (l.map name).Nodup)
    (hf : ∀ a ∈ l, ∀ t, t.find? ns (name a) = s.deployments.find? ns (name a) →
      Writes now ns (name a) (R a) (f a) { s with deployments := t }) :
    ∃ t, (Pass.forEach f l).run (Server.answer now) s = (.ok (), { s with deployments := t }) ∧
      (∀ a ∈ l, R a (s.deployments.find? ns (name a)) (t.find? ns (name a))) ∧
      ∀ ns' name', (∀ a ∈ l, (ns', name') ≠ (ns, name a)) →
        t.find? ns' name' = s.deployments.find? ns' name' := by
  obtain ⟨bs, t, hrun, h⟩ := collect_writes hl hf
  refine ⟨t, ?_, h⟩
  rw [Pass.forEach_eq_collect, run_bind_of_ok hrun]
  rfl

theorem writes_perform {c : Call} {a : c.Reply} {t : Table DeploymentSpec DeploymentStatus}
    {name : String} {R : Option Deployment → Option Deployment → Prop}
    (hc : Server.answer now c s = (.ok a, { s with deployments := t }))
    (hR : R (s.deployments.find? ns name) (t.find? ns name))
    (hframe : ∀ ns' name', (ns', name') ≠ (ns, name) →
      t.find? ns' name' = s.deployments.find? ns' name') : Writes now ns name R (perform c) s :=
  ⟨a, t, (Pass.run_perform ..).trans hc, hR, hframe⟩

theorem writes_bind {p : Pass γ} {f : γ → Pass α} {a : γ} {name : String}
    {R : Option Deployment → Option Deployment → Prop}
    (hp : p.run (Server.answer now) s = (.ok a, s)) :
    Writes now ns name R (p.bind f) s ↔ Writes now ns name R (f a) s := by
  rw [Writes, run_bind_of_ok hp, Writes]

/-! ## Deleting -/

/-- What is found where `d` was deleted: nothing, or `d` marked for deletion. -/
def Dismissed (now : Instant) (ns : String) (d : Deployment) (found : Option Deployment) : Prop :=
  found = none ∨ ∃ n, found = some ((d.marked now).stamp ns d.name n)

theorem writes_delete (hns : d.metadata.ns = some ns)
    (hd : s.deployments.find? ns d.name = some d) (hdel : d.isDeleting = false) :
    Writes now ns d.name (fun _ => Dismissed now ns d) (perform (.deleteDeployment d)) s := by
  have hc : s.deployments.delete now d = (.ok (), s.deployments.remove now ns d.name) := by
    rw [Table.delete, hns]
  exact writes_perform (congrArg s.onDeployments hc) (Table.find?_remove_self hd hdel now)
    fun ns' name' h => Table.find?_remove_of_ne h now

/-! ## Bringing up to date -/

/-- The deployment `d` is `o` with another specification: the status is the same, and the metadata
are, save for the workload's label and the version. -/
structure Renewal (o d : Deployment) : Prop where
  status : d.status = o.status
  metadata : d.metadata = { o.metadata with
    labels := d.metadata.labels
    resourceVersion := d.metadata.resourceVersion }
  label? : ∀ l ≠ uidLabel, d.label? l = o.label? l

theorem Renewal.refl (d : Deployment) : Renewal d d :=
  ⟨rfl, rfl, fun _ _ => rfl⟩

theorem Renewal.isDeleting (h : Renewal o d) : d.isDeleting = o.isDeleting := by
  rw [Resource.isDeleting, h.metadata, Resource.isDeleting]

/-- What bringing `wanted` up to date makes of what is found under its name. -/
inductive Upserted (wanted : Deployment) : Option Deployment → Option Deployment → Prop
  | created {d : Deployment} (spec : d.spec = wanted.spec) (active : d.isDeleting = false) :
    Upserted wanted none (some d)
  | left {o : Deployment} (h : o.isDeleting = true ∨ o.spec = wanted.spec) :
    Upserted wanted (some o) (some o)
  | renewed {o d : Deployment} (active : o.isDeleting = false) (spec : d.spec = wanted.spec)
    (renewal : Renewal o d) : Upserted wanted (some o) (some d)

theorem renewal_adopted {name : String} (n : Nat) (hns : o.metadata.ns = some ns)
    (hname : o.metadata.name = some name) :
    Renewal o (((adopted o wanted).inPlaceOf o).stamp ns name n) where
  status := rfl
  metadata := by
    simp only [Resource.stamp, Resource.inPlaceOf, adopted, hns, hname]
  label? l hl := by
    simp only [Resource.label?, Resource.stamp, Resource.inPlaceOf, adopted, Option.bind_some,
      Dict.value?_set, if_neg hl.symm]
    cases o.metadata.labels <;> rfl

theorem writes_upsert (hns : wanted.metadata.ns = some ns)
    (hname : wanted.metadata.name = some wanted.name) (hdel : wanted.isDeleting = false) :
    Writes now ns wanted.name (Upserted wanted) (upsert ns wanted) s := by
  have hget : (perform (.getDeployment ns wanted.name)).run (Server.answer now) s =
      (.ok (s.deployments.find? ns wanted.name), s) := by
    rw [Pass.run_perform]
    rfl
  rw [upsert, Pass.bind_eq, writes_bind hget]
  cases hf : s.deployments.find? ns wanted.name with
  | none =>
    have hc := Table.create_of_free now hns hname hf
    have ha : Server.answer now (.createDeployment wanted) s = _ := congrArg s.onDeployments hc
    refine writes_perform ha ?_ fun ns' name' hne => Table.find?_add_of_ne hf hne
    rw [hf, Table.find?_add_self]
    exact .created rfl hdel
  | some o =>
    simp only
    split
    · next hs =>
      rw [Bool.or_eq_true, decide_eq_true_iff] at hs
      exact ⟨o, s.deployments, rfl, hf ▸ .left hs, fun _ _ _ => rfl⟩
    · next hs =>
      rw [Bool.or_eq_true, not_or, Bool.not_eq_true] at hs
      obtain ⟨hons, honame⟩ := Table.metadata_of_find? hf
      have hname : (adopted o wanted).name = wanted.name := (Table.name_of_find? hf : o.name = _)
      have hkept : ((adopted o wanted).inPlaceOf o).kept = some ((adopted o wanted).inPlaceOf o) :=
        Resource.kept_of_not_isDeleting hs.1
      have ha : Server.answer now (.replaceDeployment (adopted o wanted)) s = _ :=
        congrArg s.onDeployments (Table.update_of_find? hons hname hf rfl)
      refine writes_perform ha ?_ fun ns' name' => Table.find?_change_of_ne
      rw [Table.find?_change_self, hf, Option.bind_some, hkept, Option.map_some]
      exact .renewed hs.1 rfl (renewal_adopted _ hons honame)

/-! ## All deployments -/

section

variable {uid name : String} {all : List Deployment}

/-- What the table `t` has of the deployments of `s` after a pass on a workload that wants `all`. -/
structure Settled (w : Workload) (now : Instant) (ns : String) (all : List Deployment) (s : Server)
    (t : Table DeploymentSpec DeploymentStatus) : Prop where
  upserted : ∀ e ∈ all, Upserted e (s.deployments.find? ns e.name) (t.find? ns e.name)
  dismissed : ∀ d ∈ s.ownDeployments w, isOrphan all d = true →
    Dismissed now ns d (t.find? ns d.name)
  untouched : ∀ ns' name', (∀ e ∈ all, (ns', name') ≠ (ns, e.name)) →
    (∀ d ∈ s.ownDeployments w, isOrphan all d = true → (ns', name') ≠ (ns, d.name)) →
    t.find? ns' name' = s.deployments.find? ns' name'

theorem metadata_of_mem_desired (hw : w.desired locations = .ok all) (hd : d ∈ all) :
    d.metadata.ns = w.metadata.ns ∧ d.metadata.name = some d.name ∧ d.isDeleting = false := by
  obtain ⟨uid, owner, -, rfl⟩ := desired_eq_ok hw
  obtain ⟨p, -, hd⟩ := List.mem_flatMap.1 hd
  obtain ⟨city, -, rfl⟩ := List.mem_map.1 hd
  exact ⟨rfl, rfl, rfl⟩

theorem isOrphan_iff : isOrphan all d = true ↔ d.name ∉ all.map (·.name) ∧ d.isDeleting = false := by
  rw [isOrphan, Bool.and_eq_true, Bool.not_eq_true', Bool.not_eq_true', List.contains_eq_mem,
    decide_eq_false_iff_not]

theorem mem_ownDeployments_iff (hns : w.metadata.ns = some ns) (huid : w.metadata.uid = some uid) :
    d ∈ s.ownDeployments w ↔ d ∈ s.deployments.objects ∧ d.metadata.ns = some ns ∧
      d.label? uidLabel = some uid ∧ d.spec.workload.uid = uid := by
  have hn : w.namespaceName = ns := by rw [Resource.namespaceName, hns]; rfl
  have hu : w.uid = uid := by rw [Workload.uid, huid]; rfl
  rw [mem_own, hn, hu]

theorem deleteOrphans_run (s : Server) (now : Instant) (all : List Deployment)
    (hns : w.metadata.ns = some ns) (huid : w.metadata.uid = some uid) :
    ∃ t, (Pass.forEach (fun d => perform (.deleteDeployment d))
        ((s.ownDeployments w).filter (isOrphan all))).run (Server.answer now) s =
          (.ok (), { s with deployments := t }) ∧
      (∀ d ∈ s.ownDeployments w, isOrphan all d = true → Dismissed now ns d (t.find? ns d.name)) ∧
      ∀ ns' name',
        (∀ d ∈ s.ownDeployments w, isOrphan all d = true → (ns', name') ≠ (ns, d.name)) →
        t.find? ns' name' = s.deployments.find? ns' name' := by
  have hnames : (((s.ownDeployments w).filter (isOrphan all)).map (·.name)).Nodup :=
    (Table.list_names_nodup ..).sublist ((List.filter_sublist.trans List.filter_sublist).map _)
  have hstep (d : Deployment) (hd : d ∈ (s.ownDeployments w).filter (isOrphan all))
      (t : Table DeploymentSpec DeploymentStatus)
      (ht : t.find? ns d.name = s.deployments.find? ns d.name) :
      Writes now ns d.name (fun _ => Dismissed now ns d) (perform (.deleteDeployment d))
        { s with deployments := t } := by
    obtain ⟨hd, ho⟩ := List.mem_filter.1 hd
    obtain ⟨hm, hdns, -⟩ := (mem_ownDeployments_iff hns huid).1 hd
    exact writes_delete hdns (ht.trans (Table.find?_of_mem hm hdns)) (isOrphan_iff.1 ho).2
  obtain ⟨t, hrun, hgone, hframe⟩ := forEach_writes hnames hstep
  refine ⟨t, hrun, fun d hd ho => hgone d (List.mem_filter.2 ⟨hd, ho⟩), fun ns' name' h => ?_⟩
  refine hframe ns' name' fun d hd => ?_
  exact h d (List.mem_filter.1 hd).1 (List.mem_filter.1 hd).2

theorem upsertAll_run (s : Server) (now : Instant) (hns : w.metadata.ns = some ns)
    (hw : w.desired locations = .ok all) (hnames : (all.map (·.name)).Nodup) :
    ∃ ds t, (Pass.collect (upsert ns) all).run (Server.answer now) s =
        (.ok ds, { s with deployments := t }) ∧
      (∀ e ∈ all, Upserted e (s.deployments.find? ns e.name) (t.find? ns e.name)) ∧
      ∀ ns' name', (∀ e ∈ all, (ns', name') ≠ (ns, e.name)) →
        t.find? ns' name' = s.deployments.find? ns' name' := by
  refine collect_writes hnames fun e he t _ => ?_
  obtain ⟨hens, hname, hdel⟩ := metadata_of_mem_desired hw he
  exact writes_upsert (hens.trans hns) hname hdel

/-- The workload with another status, under another version. -/
def reported (w : Workload) (status : Option WorkloadStatus) (version : Option String) : Workload :=
  { w with metadata := { w.metadata with resourceVersion := version }, status }

/-- Reporting the status changes the stored workload at most, and that not in what a pass reads. -/
theorem report_run (w : Workload) (s : Server) (now : Instant) (status : WorkloadStatus) :
    ∃ r t, (do
        if w.status ≠ some status then
          perform (.patchWorkloadStatus w status)
        return awaitChange).run (Server.answer now) s = (r, { s with workloads := t }) ∧
      (w ∈ s.workloads.objects → w.isDeleting = false → r = .ok awaitChange ∧
        ∃ status version, w.reported status version ∈ t.objects) := by
  split
  · have hp : (perform (.patchWorkloadStatus w status)).run (Server.answer now) s =
        s.onWorkloads (s.workloads.patchStatus w status) := Pass.run_perform ..
    by_cases hw : s.workloads.IsCurrent w
    · obtain ⟨ns, hns, hpatch⟩ := Table.patch_eq_of_isCurrent (g := Resource.mergeStatus status) hw
      rw [Table.patchStatus, hpatch] at hp
      refine ⟨.ok awaitChange, _, run_bind_of_ok hp _, fun hm hdel => ⟨rfl, ?_⟩⟩
      have hf := Table.find?_of_mem hm hns
      have hk : (Resource.mergeStatus status w).kept = some (Resource.mergeStatus status w) :=
        Resource.kept_of_not_isDeleting hdel
      have heq : (Resource.mergeStatus status w).stamp ns w.name (s.workloads.revision + 1) =
          w.reported (Resource.mergeStatus status w).status
            (some (Nat.repr (s.workloads.revision + 1))) := by
        simp only [reported, Resource.stamp, Resource.mergeStatus, hns,
          (Table.metadata_of_find? hf).2]
      exact ⟨_, _, heq ▸ Table.mem_change.2 (.inr ⟨w, _, hf, hk, rfl⟩)⟩
    · obtain ⟨e, hpatch⟩ := Table.patch_of_not_isCurrent (g := Resource.mergeStatus status) hw
      rw [Table.patchStatus, hpatch] at hp
      exact ⟨.error e, _, Pass.run_bind_of_error hp _,
        fun hm _ => absurd (Table.isCurrent_of_mem hm) hw⟩
  · exact ⟨.ok awaitChange, s.workloads, rfl, fun h _ => ⟨rfl, w.status, _, h⟩⟩

theorem expand_run (s : Server) (now : Instant) (hns : w.metadata.ns = some ns)
    (hw : w.desired locations = .ok all) (hnames : (all.map (·.name)).Nodup) :
    ∃ r t ws, (w.expand now locations).run (Server.answer now) s =
        (r, { s with deployments := t, workloads := ws }) ∧ Settled w now ns all s t ∧
      (w ∈ s.workloads.objects → w.isDeleting = false → r = .ok awaitChange ∧
        ∃ status version, w.reported status version ∈ ws.objects) := by
  obtain ⟨uid, -, huid, -⟩ := desired_eq_ok hw
  have hn : w.namespaceName = ns := by rw [Resource.namespaceName, hns]; rfl
  obtain ⟨t₁, hdelete, hgone, hframe₁⟩ := deleteOrphans_run s now all hns huid
  obtain ⟨ds, t₂, hupsert, hup, hframe₂⟩ :=
    upsertAll_run { s with deployments := t₁ } now hns hw hnames
  let current := Keyed.ofList (fun d : Deployment => d.name) (s.ownDeployments w ++ ds)
  obtain ⟨r, ws, hreport, hok⟩ := report_run w { s with deployments := t₂ } now
    (w.aggregate now current.toList)
  refine ⟨r, t₂, ws, ?_, ?_, hok⟩
  · unfold expand
    rw [hw, hn, Pass.ofExcept, Pass.bind_eq, Pass.done_bind, Pass.bind_eq,
      run_bind_of_ok ownDeployments_run, Pass.bind_eq, run_bind_of_ok hdelete, Pass.bind_eq,
      run_bind_of_ok hupsert]
    exact hreport
  · -- the wanted names are not those of the orphans
    have hne : ∀ e ∈ all, ∀ d ∈ s.ownDeployments w, isOrphan all d = true →
        (ns, e.name) ≠ (ns, d.name) := fun e he d _ ho h =>
      (isOrphan_iff.1 ho).1 (List.mem_map.2 ⟨e, he, (Prod.mk.inj h).2⟩)
    constructor
    · intro e he
      rw [← hframe₁ ns e.name (hne e he)]
      exact hup e he
    · intro d hd ho
      rw [hframe₂ ns d.name fun e he => (hne e he d hd ho).symm]
      exact hgone d hd ho
    · intro ns' name' hall ho
      rw [hframe₂ ns' name' hall, hframe₁ ns' name' ho]

/-! ## The result of a pass -/

/-- The deployment is in the namespace, belongs to the workload of this uid, and is not being
deleted. -/
def IsActive (ns uid : String) (d : Deployment) : Prop :=
  d.metadata.ns = some ns ∧ d.spec.workload.uid = uid ∧ d.isDeleting = false

/-- A pass on the workload of this uid, which wants `all`, has led from the deployments `s` to `t`. -/
structure Expanded (now : Instant) (ns uid : String) (all : List Deployment)
    (s t : Table DeploymentSpec DeploymentStatus) : Prop where
  /-- The active deployments are the wanted ones that were not being deleted already, as wanted. -/
  active_iff : ∀ name spec, (∃ d ∈ t.objects, IsActive ns uid d ∧ d.name = name ∧ d.spec = spec) ↔
    ∃ e ∈ all, e.name = name ∧ e.spec = spec ∧
      ∀ o ∈ s.objects, o.metadata.ns = some ns → o.name = name → o.isDeleting = false
  /-- Those that were there before are what they were, save for the specification. -/
  renewed : ∀ o ∈ s.objects, ∀ d ∈ t.objects, IsActive ns uid d → d.address = o.address →
    Renewal o d
  /-- What was not active stays as it was. -/
  unchanged : ∀ o ∈ s.objects, ¬ IsActive ns uid o → o ∈ t.objects
  /-- Whatever else is there was there before, or was active and not wanted, and is now marked. -/
  others : ∀ d ∈ t.objects, ¬ IsActive ns uid d → d ∈ s.objects ∨
    ∃ o ∈ s.objects, IsActive ns uid o ∧ o.name ∉ all.map (·.name) ∧
      ∃ n, d = (o.marked now).stamp ns o.name n

/-- The workload is identified and wants `all`, under names that differ and that no deployment of
another workload has; its own deployments carry its label. With a name and a uid it does want
something (`exists_desired`). -/
structure Undisputed (w : Workload) (ns uid : String) (all : List Deployment) (s : Server) : Prop where
  ns_eq : w.metadata.ns = some ns
  uid_eq : w.metadata.uid = some uid
  desired_eq : w.desired s.locations.objects = .ok all
  names_nodup : (all.map (·.name)).Nodup
  labelled : ∀ d ∈ s.deployments.objects, d.metadata.ns = some ns → d.spec.workload.uid = uid →
    d.label? uidLabel = some uid
  foreign : ∀ d ∈ s.deployments.objects, d.metadata.ns = some ns → d.spec.workload.uid ≠ uid →
    d.name ∉ all.map (·.name)

/-- What an orphan leaves behind is being deleted. -/
theorem Dismissed.isDeleting (h : Dismissed now ns o (some d)) : d.isDeleting = true := by
  obtain h | ⟨n, h⟩ := h
  · cases h
  · cases h
    rfl

section Settled

variable {t : Table DeploymentSpec DeploymentStatus}

/-- At every address there is a wanted deployment, or an orphan's remains, or what was there. -/
theorem Settled.cases (h : Settled w now ns all s t) (hc : Undisputed w ns uid all s)
    (ns' name : String) :
    (ns' = ns ∧ ∃ e ∈ all, e.name = name ∧
        Upserted e (s.deployments.find? ns name) (t.find? ns name)) ∨
      (ns' = ns ∧ ∃ o, s.deployments.find? ns name = some o ∧ IsActive ns uid o ∧
        o.name ∉ all.map (·.name) ∧ Dismissed now ns o (t.find? ns name)) ∨
      (t.find? ns' name = s.deployments.find? ns' name ∧
        (ns' = ns → name ∉ all.map (·.name) ∧
          ∀ o ∈ s.ownDeployments w, isOrphan all o = true → o.name ≠ name)) := by
  by_cases hall : ∃ e ∈ all, (ns', name) = (ns, e.name)
  · obtain ⟨e, he, heq⟩ := hall
    obtain ⟨rfl, rfl⟩ := Prod.mk.inj heq
    exact .inl ⟨rfl, e, he, rfl, h.upserted e he⟩
  · by_cases ho : ∃ o ∈ s.ownDeployments w, isOrphan all o = true ∧ (ns', name) = (ns, o.name)
    · obtain ⟨o, hm, ho, heq⟩ := ho
      obtain ⟨rfl, rfl⟩ := Prod.mk.inj heq
      obtain ⟨hom, hons, -, hou⟩ := (mem_ownDeployments_iff hc.ns_eq hc.uid_eq).1 hm
      obtain ⟨hname, hdel⟩ := isOrphan_iff.1 ho
      exact .inr (.inl ⟨rfl, o, Table.find?_of_mem hom hons, ⟨hons, hou, hdel⟩, hname,
        h.dismissed o hm ho⟩)
    · refine .inr (.inr ⟨h.untouched ns' name ?_ ?_, ?_⟩)
      · exact fun e he heq => hall ⟨e, he, heq⟩
      · exact fun o hm hor heq => ho ⟨o, hm, hor, heq⟩
      · rintro rfl
        refine ⟨fun hn => ?_, fun o hm hor hn => ho ⟨o, hm, hor, by rw [hn]⟩⟩
        obtain ⟨e, he, rfl⟩ := List.mem_map.1 hn
        exact hall ⟨e, he, rfl⟩

/-- What is found under a wanted name, as it is wanted, is active. -/
theorem Undisputed.isActive {e : Deployment} (hc : Undisputed w ns uid all s) (he : e ∈ all)
    (hd : t.find? ns e.name = some d) (hspec : d.spec = e.spec) (hdel : d.isDeleting = false) :
    IsActive ns uid d := by
  refine ⟨(Table.metadata_of_find? hd).1, ?_, hdel⟩
  rw [hspec, uid_of_mem_desired hc.desired_eq he, Workload.uid, hc.uid_eq]
  rfl

/-- An active deployment that is not wanted is an orphan. -/
theorem Undisputed.isOrphan (hc : Undisputed w ns uid all s) (hd : d ∈ s.deployments.objects)
    (hact : IsActive ns uid d) (hn : d.name ∉ all.map (·.name)) :
    d ∈ s.ownDeployments w ∧ isOrphan all d = true :=
  ⟨(mem_ownDeployments_iff hc.ns_eq hc.uid_eq).2
    ⟨hd, hact.1, hc.labelled d hd hact.1 hact.2.1, hact.2.1⟩, isOrphan_iff.2 ⟨hn, hact.2.2⟩⟩

/-- An active deployment has been brought up to date. -/
theorem Settled.upserted_of_active (h : Settled w now ns all s t) (hc : Undisputed w ns uid all s)
    (hd : d ∈ t.objects) (hact : IsActive ns uid d) :
    ∃ e ∈ all, e.name = d.name ∧ Upserted e (s.deployments.find? ns d.name) (some d) := by
  have hfd := Table.find?_of_mem hd hact.1
  rcases h.cases hc ns d.name with ⟨-, e, he, hen, hup⟩ | ⟨-, o, -, -, -, hgone⟩ | ⟨hsame, hkept⟩
  · exact ⟨e, he, hen, hfd ▸ hup⟩
  · rw [hfd] at hgone
    cases hgone.isDeleting.symm.trans hact.2.2
  · -- it was there before, and an orphan does not stay as it was
    obtain ⟨hn, hne⟩ := hkept rfl
    rw [hfd] at hsame
    obtain ⟨hown, ho⟩ := hc.isOrphan (Table.find?_eq_some_iff.1 hsame.symm).1 hact hn
    exact absurd rfl (hne d hown ho)

theorem Settled.active_iff (h : Settled w now ns all s t) (hc : Undisputed w ns uid all s)
    (name : String) (spec : DeploymentSpec) :
    (∃ d ∈ t.objects, IsActive ns uid d ∧ d.name = name ∧ d.spec = spec) ↔
      ∃ e ∈ all, e.name = name ∧ e.spec = spec ∧ ∀ o ∈ s.deployments.objects,
        o.metadata.ns = some ns → o.name = name → o.isDeleting = false := by
  have found {o : Deployment} (ho : o ∈ s.deployments.objects) (hons : o.metadata.ns = some ns)
      (hn : o.name = name) : s.deployments.find? ns name = some o :=
    hn ▸ Table.find?_of_mem ho hons
  constructor
  · rintro ⟨d, hd, hact, rfl, rfl⟩
    obtain ⟨e, he, hen, hup⟩ := h.upserted_of_active hc hd hact
    refine ⟨e, he, hen, ?_⟩
    generalize hs : s.deployments.find? ns d.name = old at hup found
    cases hup with
    | created hspec _ => exact ⟨hspec.symm, fun o ho hons hn => by cases found ho hons hn⟩
    | left hl =>
      have hspec := hl.resolve_left (by rw [hact.2.2]; exact Bool.false_ne_true)
      refine ⟨hspec.symm, fun o ho hons hn => ?_⟩
      cases found ho hons hn
      exact hact.2.2
    | renewed hdel hspec _ =>
      refine ⟨hspec.symm, fun o ho hons hn => ?_⟩
      cases found ho hons hn
      exact hdel
  · rintro ⟨e, he, rfl, rfl, hold⟩
    have active {d : Deployment} (hd : t.find? ns e.name = some d) (hspec : d.spec = e.spec)
        (hdel : d.isDeleting = false) :
        ∃ d ∈ t.objects, IsActive ns uid d ∧ d.name = e.name ∧ d.spec = e.spec :=
      ⟨d, (Table.find?_eq_some_iff.1 hd).1, hc.isActive he hd hspec hdel,
        Table.name_of_find? hd, hspec⟩
    have hup := h.upserted e he
    generalize hs : s.deployments.find? ns e.name = old at hup
    generalize ht : t.find? ns e.name = new at hup
    cases hup with
    | created hspec hdel => exact active ht hspec hdel
    | left hl =>
      have hdel := hold _ (Table.find?_eq_some_iff.1 hs).1 (Table.metadata_of_find? hs).1
        (Table.name_of_find? hs)
      exact active ht (hl.resolve_left (by rw [hdel]; exact Bool.false_ne_true)) hdel
    | renewed hdel hspec hr => exact active ht hspec (hr.isDeleting.trans hdel)

theorem Settled.renewed (h : Settled w now ns all s t) (hc : Undisputed w ns uid all s)
    (ho : o ∈ s.deployments.objects) (hd : d ∈ t.objects) (hact : IsActive ns uid d)
    (ha : d.address = o.address) : Renewal o d := by
  obtain ⟨e, -, -, hup⟩ := h.upserted_of_active hc hd hact
  have hfd := Table.find?_of_mem hd hact.1
  rw [Table.find?_eq_some_iff.2 ⟨ho, ha.symm.trans (Table.find?_eq_some_iff.1 hfd).2⟩] at hup
  cases hup with
  | left _ => exact .refl _
  | renewed _ _ hr => exact hr

theorem Settled.unchanged (h : Settled w now ns all s t) (hc : Undisputed w ns uid all s)
    (ho : o ∈ s.deployments.objects) (hna : ¬ IsActive ns uid o) : o ∈ t.objects := by
  obtain ⟨ns', name, ha⟩ := Table.exists_address ho
  have hfo := Table.find?_eq_some_iff.2 ⟨ho, ha⟩
  have mem (hd : t.find? ns' name = some o) : o ∈ t.objects := (Table.find?_eq_some_iff.1 hd).1
  rcases h.cases hc ns' name with ⟨rfl, e, he, rfl, hup⟩ | ⟨rfl, x, hx, hact, -, -⟩ | ⟨hsame, -⟩
  · rw [hfo] at hup
    generalize hd : t.find? ns' e.name = new at hup mem
    cases hup with
    | left _ => exact mem rfl
    | renewed hdel _ _ =>
      -- one of another workload has no wanted name
      have hons := (Table.metadata_of_find? hfo).1
      refine absurd (List.mem_map.2 ⟨e, he, (Table.name_of_find? hfo).symm⟩) ?_
      exact hc.foreign o ho hons fun hu => hna ⟨hons, hu, hdel⟩
  · rw [hfo] at hx
    cases hx
    exact absurd hact hna
  · exact mem (hsame.trans hfo)

theorem Settled.others (h : Settled w now ns all s t) (hc : Undisputed w ns uid all s)
    (hd : d ∈ t.objects) (hna : ¬ IsActive ns uid d) : d ∈ s.deployments.objects ∨
      ∃ o ∈ s.deployments.objects, IsActive ns uid o ∧ o.name ∉ all.map (·.name) ∧
        ∃ n, d = (o.marked now).stamp ns o.name n := by
  obtain ⟨ns', name, ha⟩ := Table.exists_address hd
  have hfd := Table.find?_eq_some_iff.2 ⟨hd, ha⟩
  rcases h.cases hc ns' name with
    ⟨rfl, e, he, rfl, hup⟩ | ⟨rfl, o, ho, hact, hn, hgone⟩ | ⟨hsame, -⟩
  · rw [hfd] at hup
    generalize hs : s.deployments.find? ns' e.name = old at hup
    cases hup with
    | created hspec hdel => exact absurd (hc.isActive he hfd hspec hdel) hna
    | left _ => exact .inl (Table.find?_eq_some_iff.1 hs).1
    | renewed hdel hspec hr =>
      exact absurd (hc.isActive he hfd hspec (hr.isDeleting.trans hdel)) hna
  · rw [hfd] at hgone
    obtain hgone | ⟨n, hgone⟩ := hgone
    · cases hgone
    · exact .inr ⟨o, (Table.find?_eq_some_iff.1 ho).1, hact, hn, n, Option.some.inj hgone⟩
  · rw [hfd] at hsame
    exact .inl (Table.find?_eq_some_iff.1 hsame.symm).1

theorem Settled.expanded (h : Settled w now ns all s t) (hc : Undisputed w ns uid all s) :
    Expanded now ns uid all s.deployments t where
  active_iff := h.active_iff hc
  renewed _ ho _ hd := h.renewed hc ho hd
  unchanged _ ho := h.unchanged hc ho
  others _ hd := h.others hc hd

end Settled

end

end Workload

end ControlPlane
