import Mathlib.Logic.Relation
import ControlPlane.Proofs.Server.Snapshots
import ControlPlane.Proofs.Workload.Resumption

/-!
# Which deployments a workload finds again

A workload finds its deployments by their label. The label is on every deployment that a pass creates,
and is put on those that it gives another specification; one that is as wanted is left alone, with or
without the label. Once a workload finds a deployment, it finds it for as long as it is there: its own
passes keep the label, and so does every call that neither creates nor replaces a deployment.

* `reconcile_finds`: which of the wanted deployments a workload finds after a pass.
* `finds_of_follows`: what is found once is found later on.
-/

namespace ControlPlane.Workload

open Pass (perform)

variable {w w' : Workload} {s t : Server} {now : Instant} {name : String} {m : ObjectMeta}
  {d e o x : Deployment} {all l : List Deployment} {names : List String}
  {f : String × String → Option Deployment} {a : String × String}

/-- The deployment carries the workload's uid as a label and in its specification. -/
def Bears (w : Workload) (d : Deployment) : Prop :=
  d.label? uidLabel = some w.uid ∧ d.spec.workload.uid = w.uid

/-- The workload finds what there is under this name. -/
def Finds (w : Workload) (name : String) (s : Server) : Prop :=
  ∀ d, s.deployments.find? w.namespaceName name = some d → d ∈ s.ownDeployments w

theorem mem_own_iff_bears (hd : s.deployments.find? w.namespaceName name = some d) :
    d ∈ s.ownDeployments w ↔ w.Bears d := by
  rw [mem_own, and_iff_right (Table.find?_eq_some_iff.1 hd).1,
    and_iff_right (Table.metadata_of_find? hd).1, Bears]

theorem finds_iff : w.Finds name s ↔
    ∀ x ∈ s.deployments.content (w.namespaceName, name), w.Bears x := by
  constructor
  · intro h x hx
    obtain ⟨d, hd, rfl⟩ := Table.content_eq_some_iff.1 hx
    exact (mem_own_iff_bears hd).1 (h d hd)
  · intro h d hd
    exact (mem_own_iff_bears hd).2 (h d.asWritten (Table.content_eq_some_iff.2 ⟨d, hd, rfl⟩))

/-! ## What a pass makes of the label -/

theorem bears_adopted (h : e.spec.workload.uid = w.uid) (o : Deployment) :
    w.Bears (adopted o e) := by
  refine ⟨?_, h⟩
  rw [adopted, Resource.label?, Option.bind_some, Dict.value?_set, if_pos rfl, h]

theorem Entry.bears (h : Entry w.uid m e) : w.Bears e := by
  refine ⟨?_, h.owner⟩
  rw [Resource.label?, h.metadata, h.labels, Option.bind_some, Dict.value?_set, if_pos rfl]

theorem bears_revisedBy (hl : ∀ e ∈ l, Entry w.uid m e) {o : Option Deployment}
    (ho : ∀ x ∈ o, w.Bears x) : ∀ x ∈ revisedBy l o, w.Bears x := by
  induction l generalizing o with
  | nil => exact ho
  | cons e rest ih =>
    have he := hl e List.mem_cons_self
    refine ih (fun e he => hl e (List.mem_cons_of_mem _ he)) fun x hx => ?_
    cases hx
    cases o with
    | none => exact he.bears
    | some o =>
      rw [revised_some]
      split
      · exact ho o rfl
      · exact bears_adopted he.owner o

theorem bears_swept (h : ∀ x ∈ f a, w.Bears x) : ∀ x ∈ w'.swept names f a, w.Bears x := by
  rw [swept]
  split
  · intro x hx
    obtain ⟨o, ho, hx⟩ := Option.bind_eq_some_iff.1 hx
    rw [discarded, Resource.removed] at hx
    split at hx
    · split at hx
      · cases hx
      · cases hx
        exact h o ho
    · cases hx
      exact h _ ho
  · exact h

/-- A pass on the workload, whatever has become of it, keeps what it finds findable. -/
theorem finds_reconcile (hns : w'.namespaceName = w.namespaceName) (huid : w'.uid = w.uid)
    (h : w.Finds name s) : w.Finds name ((w'.reconcile now).run (Server.answer now) s).2 := by
  rw [finds_iff] at h ⊢
  cases hdel : w'.isDeleting with
  | true =>
    rw [reconcile, hdel, if_pos rfl, (tearDown_states w' now s).1]
    split
    · exact bears_swept h
    · exact h
  | false =>
    by_cases hexp : w'.Expands s
    · rw [reconcile_run hexp]
      cases hw : w'.desired s.locations.objects with
      | error err => rwa [states_expand_of_error hw s _ (Pass.run_mem_states _ _ s)]
      | ok all =>
        obtain ⟨metadata, hentries⟩ := entries_of_desired hw
        rw [(expand_states now hw s).2.1, outcome, hns, revisedAll_apply]
        refine bears_revisedBy (m := metadata name) (fun e he => ?_) (bears_swept h)
        obtain ⟨hmem, hn⟩ := List.mem_filter.1 he
        rw [← huid, ← of_decide_eq_true hn]
        exact hentries e (mem_of_mem_reached hmem)
    · rwa [states_reconcile_of_not_expands now hdel hexp _ (Pass.run_mem_states _ _ s)]

/-! ## Later on -/

/-- What may come next: a pass on the workload, whatever has become of it, or a call of anyone that
neither creates nor replaces a deployment. -/
inductive Follows (w : Workload) : Server → Server → Prop
  | pass {s : Server} {w' : Workload} {now : Instant} (ns : w'.namespaceName = w.namespaceName)
    (uid : w'.uid = w.uid) : Follows w s ((w'.reconcile now).run (Server.answer now) s).2
  | call {s : Server} {c : Call} {now : Instant} (create : ∀ d, c ≠ .createDeployment d)
    (replace : ∀ d, c ≠ .replaceDeployment d) : Follows w s (Server.answer now c s).2

/-- A change that touches neither labels nor specifications keeps what is found findable. -/
theorem finds_of_changed (ht : ∀ x ∈ t.deployments.objects, x ∈ s.deployments.objects ∨
      ∃ o ∈ s.deployments.objects, o.address = x.address ∧
        x.metadata.labels = o.metadata.labels ∧ x.spec = o.spec)
    (h : w.Finds name s) : w.Finds name t := by
  intro x hx
  obtain ⟨hm, ha⟩ := Table.find?_eq_some_iff.1 hx
  rw [mem_own_iff_bears hx]
  obtain hm | ⟨o, hm, ho, hl, hs⟩ := ht x hm
  · have hx := Table.find?_eq_some_iff.2 ⟨hm, ha⟩
    exact (mem_own_iff_bears hx).1 (h x hx)
  · have hfind := Table.find?_eq_some_iff.2 ⟨hm, ho.trans ha⟩
    obtain ⟨hlabel, hu⟩ := (mem_own_iff_bears hfind).1 (h o hfind)
    exact ⟨by rwa [Resource.label?, hl], by rwa [hs]⟩

theorem finds_of_follows (h : w.Follows s t) (hs : w.Finds name s) : w.Finds name t := by
  cases h with
  | pass ns uid => exact finds_reconcile ns uid hs
  | @call c now create replace =>
    cases c with
    | createDeployment d => exact absurd rfl (create d)
    | replaceDeployment d => exact absurd rfl (replace d)
    | deleteDeployment d =>
      refine finds_of_changed (fun x hx => ?_) hs
      refine (Table.mem_delete now hx).imp_right ?_
      rintro ⟨o, ho, ha, ns, name, n, rfl⟩
      exact ⟨o, ho, ha, rfl, rfl⟩
    | patchDeploymentStatus d status =>
      refine finds_of_changed (fun x hx => ?_) hs
      refine (Table.mem_patch hx).imp_right ?_
      rintro ⟨o, ho, ha, -, -, ns, name, n, rfl⟩
      exact ⟨o, ho, ha, rfl, rfl⟩
    | setDeploymentFinalizers d finalizers =>
      refine finds_of_changed (fun x hx => ?_) hs
      refine (Table.mem_patch hx).imp_right ?_
      rintro ⟨o, ho, ha, -, -, ns, name, n, rfl⟩
      exact ⟨o, ho, ha, rfl, rfl⟩
    | _ => exact hs

theorem finds_of_run (h : Relation.ReflTransGen w.Follows s t) (hs : w.Finds name s) :
    w.Finds name t := by
  induction h with
  | refl => exact hs
  | tail _ hstep ih => exact finds_of_follows hstep ih

/-! ## After a pass -/

/-- Of what several wanted deployments make of what is found under their name, only that lacks the
label which lacked it before and was left alone. -/
theorem exists_revisedBy (hl : ∀ e ∈ l, Entry w.uid m e) (he : e ∈ l) (found : Option Deployment) :
    ∃ x, revisedBy l found = some x ∧ (x.isDeleting = false → (w.Bears x ↔
      ¬ ∃ o, found = some o ∧ o.label? uidLabel ≠ some w.uid ∧ ∀ e ∈ l, e.spec = o.spec)) := by
  obtain rfl | ⟨l, z, rfl⟩ := List.eq_nil_or_concat' l
  · cases he
  have hz := hl z (by simp)
  refine ⟨_, revisedBy_concat hl found, ?_⟩
  cases found with
  | none => exact fun _ => iff_of_true hz.bears (by simp)
  | some o =>
    rw [Option.elim_some]
    split
    · next hk =>
      intro hdel
      have hspec := hk.resolve_left (by rw [hdel]; exact Bool.false_ne_true)
      have hu : o.spec.workload.uid = w.uid := by rw [← hspec z (by simp), hz.owner]
      rw [Bears, and_iff_left hu]
      constructor
      · rintro hlabel ⟨_, ⟨⟩, hne, -⟩
        exact hne hlabel
      · intro h
        by_contra hne
        exact h ⟨o, rfl, hne, hspec⟩
    · next hk =>
      refine fun _ => iff_of_true (bears_adopted hz.owner o) ?_
      rintro ⟨_, ⟨⟩, -, hspec⟩
      exact hk (.inr hspec)

/-- After a full pass that ends well there is a deployment under every wanted name. If it is not being
deleted, the workload finds it, unless it was there before without the workload's label and all that
the pass wanted was that it be as it was. Whatever the workload finds, it finds for as long as it is
there, in all later passes of its own, and whatever calls others make meanwhile that do not create or
replace a deployment. -/
theorem reconcile_finds (h : w.Expands s) (hw : w.desired s.locations.objects = .ok all)
    (hok : ((w.reconcile now).run (Server.answer now) s).1.isOk = true) (he : e ∈ all) :
    let after := ((w.reconcile now).run (Server.answer now) s).2
    ∃ d, after.deployments.find? w.namespaceName e.name = some d ∧
      (d.isDeleting = false → (d ∈ after.ownDeployments w ↔
        ¬ ∃ o, s.deployments.find? w.namespaceName e.name = some o ∧
          o.label? uidLabel ≠ some w.uid ∧ ∀ x ∈ all, x.name = e.name → x.spec = o.spec)) ∧
      (d ∈ after.ownDeployments w → ∀ t, Relation.ReflTransGen w.Follows after t →
        ∀ x, t.deployments.find? w.namespaceName e.name = some x → x ∈ t.ownDeployments w) := by
  rw [reconcile_run h] at hok ⊢
  intro after
  obtain ⟨metadata, hentries⟩ := entries_of_desired hw
  obtain ⟨hall, hcontent, -⟩ := expand_states now hw s
  have hswept : w.swept (all.map (·.name)) s.deployments.content (w.namespaceName, e.name) =
      s.deployments.content (w.namespaceName, e.name) :=
    if_neg fun hn => hn.2 (List.mem_map_of_mem he)
  have hafter : after.deployments.content (w.namespaceName, e.name) =
      revisedBy (all.filter (·.name = e.name))
        (s.deployments.content (w.namespaceName, e.name)) := by
    rw [hcontent, outcome, hall hok, revisedAll_apply, hswept]
  have hwanted : ∀ x ∈ all.filter (·.name = e.name), Entry w.uid (metadata e.name) x := fun x hx => by
    obtain ⟨hx, hn⟩ := List.mem_filter.1 hx
    exact of_decide_eq_true hn ▸ hentries x hx
  obtain ⟨x, hx, hbears⟩ := exists_revisedBy hwanted (List.mem_filter.2 ⟨he, decide_eq_true rfl⟩)
    (s.deployments.content (w.namespaceName, e.name))
  obtain ⟨d, hd, rfl⟩ := Table.content_eq_some_iff.1 (hafter.trans hx)
  refine ⟨d, hd, fun hdel => ?_, fun hown t ht => ?_⟩
  · rw [mem_own_iff_bears hd]
    refine (hbears (Resource.asWritten_isDeleting.trans hdel)).trans (not_congr ?_)
    simp only [Table.content_eq_some_iff, List.mem_filter, decide_eq_true_iff, and_imp]
    constructor
    · rintro ⟨_, ⟨o, ho, rfl⟩, hrest⟩
      exact ⟨o, ho, hrest⟩
    · rintro ⟨o, ho, hrest⟩
      exact ⟨_, ⟨o, ho, rfl⟩, hrest⟩
  · refine finds_of_run ht fun x hx => ?_
    cases hd.symm.trans hx
    exact hown

/-- A workload with one placement in one city. -/
def plainWeb : Workload where
  metadata := {
    name := some "web"
    ns := some "shop"
    uid := some "w1"
    resourceVersion := some "1"
    finalizers := some [finalizer] }
  spec := { placements := [{ name := "us", cityCodes := ["DFW"], scale := { minReplicas := 2 } }] }

/-- The workload as it is when it is to be deleted. -/
def leavingWeb : Workload :=
  plainWeb.marked ⟨1, 0⟩

/-- Its deployment, without the label. -/
def unlabelled (minReplicas : Int32) : Deployment where
  metadata := { finalizers := some [Deployment.finalizer] }
  spec := { workload := ⟨"web", "w1"⟩, placement := "us", cityCode := "DFW", scale := { minReplicas } }

/-- A server with the workload and such a deployment. -/
def unlabelledServer (minReplicas : Int32) : Server :=
  { Server.empty with
    locations := Table.empty.add "sites" "dfw" (cityLocation "DFW") (Table.find?_empty ..)
    workloads := Table.empty.add "shop" "web" plainWeb (Table.find?_empty ..)
    deployments := Table.empty.add "shop" "web-us-dfw" (unlabelled minReplicas)
      (Table.find?_empty ..) }

/-- The deployment that the workload wants. -/
def plainWanted : Deployment :=
  plainWeb.deploymentFor "w1"
    { apiVersion := Kind.workload.apiVersion, kind := Kind.workload.name, name := "web", uid := "w1"
      controller := some true }
    { name := "us", cityCodes := ["DFW"], scale := { minReplicas := 2 } } "DFW"

/-- A deployment without the label that is to have another specification is found after the pass, and
later on. -/
theorem reconcile_finds_renewed :
    let after := ((plainWeb.reconcile ⟨0, 0⟩).run (Server.answer ⟨0, 0⟩) (unlabelledServer 1)).2
    (unlabelledServer 1).ownDeployments plainWeb = [] ∧
      ∃ d, after.deployments.find? "shop" "web-us-dfw" = some d ∧ d ∈ after.ownDeployments plainWeb ∧
        ∀ t, Relation.ReflTransGen plainWeb.Follows after t →
          ∀ x, t.deployments.find? "shop" "web-us-dfw" = some x → x ∈ t.ownDeployments plainWeb := by
  intro after
  have hwants : plainWeb.desired (unlabelledServer 1).locations.objects = .ok [plainWanted] := by rfl
  have hok : ((plainWeb.reconcile ⟨0, 0⟩).run (Server.answer ⟨0, 0⟩) (unlabelledServer 1)).1.isOk =
      true := by rfl
  obtain ⟨d, hd, hfinds, hlater⟩ := reconcile_finds ⟨by decide, by decide, by decide, by decide⟩
    hwants hok (List.mem_singleton_self plainWanted)
  have hdel : d.isDeleting = false := by
    have hall : ∀ d ∈ after.deployments.objects, d.isDeleting = false := by decide
    exact hall d (Table.find?_eq_some_iff.1 hd).1
  have hown : d ∈ after.ownDeployments plainWeb := by
    refine (hfinds hdel).2 ?_
    rintro ⟨o, ho, -, hspec⟩
    cases ho
    exact absurd (hspec plainWanted (by simp) rfl) (by decide)
  exact ⟨by decide, d, hd, hown, hlater hown⟩

/-- One that is as it is wanted is left without the label. The workload does not find it, and lets go
of its finalizer while the deployment is there. -/
theorem reconcile_misses_unlabelled :
    let after := (plainWeb.reconcile ⟨0, 0⟩).run (Server.answer ⟨0, 0⟩) (unlabelledServer 2)
    plainWeb.desired (unlabelledServer 2).locations.objects = .ok [plainWanted] ∧
      after.1 = .ok awaitChange ∧
      (∃ d, after.2.deployments.find? "shop" plainWanted.name = some d ∧ d.isDeleting = false ∧
        d.label? uidLabel = none ∧ d ∉ after.2.ownDeployments plainWeb) ∧
      (leavingWeb.reconcile ⟨1, 0⟩).calls (Server.answer ⟨1, 0⟩) after.2 =
        [.listDeployments "shop" "w1", .setWorkloadFinalizers leavingWeb []] := by
  refine ⟨by rfl, by rfl, ?_, by rfl⟩
  exact ⟨(unlabelled 2).stamp "shop" "web-us-dfw" 1, by rfl, by decide, by decide, by decide⟩

end ControlPlane.Workload
