import ControlPlane.Proofs.Rest.Counts
import ControlPlane.Proofs.Rest.Quiet
import ControlPlane.Proofs.Workload.FullPass

/-!
# What statuses say when nothing is left to do

Three controllers report one after another: instances whether they are ready, deployments how many of
their instances are, workloads how many instances their deployments report. Each writes only what has
changed. Where none of them has anything to write, nothing is out of date: the status of a workload
counts the instances themselves (`atRest_tells`).

* `Workload.AtRest`: no pass on the workload, its deployments or their instances writes.
* `Workload.Tells`: what a status says of deployments, in all and for each placement.
-/

namespace ControlPlane

open Pass (perform run_bind_of_ok)

/-- A list whose entries have different keys is kept as it is, also when entries are added that it
has. -/
theorem Keyed.ofList_append_perm {α : Type} {key : α → String} {l l' : List α}
    (hl : (l.map key).Nodup) (h : ∀ a ∈ l', a ∈ l) : (ofList key (l ++ l')).toList.Perm l := by
  have hin : ∀ a ∈ l ++ l', a ∈ l := fun a ha => (List.mem_append.1 ha).elim id (h a)
  have hone : ∀ a ∈ l ++ l', ∀ b ∈ l ++ l', key a = key b → a = b := fun a ha b hb =>
    List.inj_on_of_nodup_map hl (hin a ha) (hin b hb)
  refine (List.perm_ext_iff_of_nodup (nodup_toList _) (List.Nodup.of_map _ hl)).2 fun a => ?_
  rw [mem_toList, mem_ofList_iff hone]
  exact ⟨hin a, List.mem_append_left l'⟩

namespace Server

/-- The deployments of a workload's namespace that belong to it. -/
def deploymentsOf (s : Server) (w : Workload) : List Deployment :=
  s.deployments.objects.filter fun d =>
    d.metadata.ns == some w.namespaceName && d.spec.workload.uid == w.uid

variable {s : Server} {w : Workload} {d : Deployment}

theorem mem_deploymentsOf : d ∈ s.deploymentsOf w ↔ d ∈ s.deployments.objects ∧
    d.metadata.ns = some w.namespaceName ∧ d.spec.workload.uid = w.uid := by
  simp [deploymentsOf]

/-- A pass on the workload lists its deployments, if they carry its label. -/
theorem ownDeployments_eq (h : ∀ d ∈ s.deploymentsOf w, d.label? Workload.uidLabel = some w.uid) :
    s.ownDeployments w = s.deploymentsOf w := by
  rw [ownDeployments, Table.list, List.filter_filter, deploymentsOf]
  refine List.filter_congr fun d hd => ?_
  have hlabel : d.metadata.ns = some w.namespaceName → d.spec.workload.uid = w.uid →
      d.label? Workload.uidLabel = some w.uid := fun hns huid =>
    h d (mem_deploymentsOf.2 ⟨hd, hns, huid⟩)
  rw [Bool.eq_iff_iff]
  simp only [Bool.and_eq_true, beq_iff_eq]
  tauto

theorem tally_perm {k : Count} {ds ds' : List Deployment} (h : ds.Perm ds') :
    s.tally k ds = s.tally k ds' :=
  (h.map _).sum_eq

end Server

namespace Workload

variable {w : Workload} {s : Server} {now later : Instant} {ds : List Deployment}

/-! ## A workload at rest -/

/-- Bringing a deployment up to date without a write comes down to looking it up. -/
theorem find?_of_quiet_upsert {ns : String} {e d : Deployment}
    (h : (upsert ns e).Quiet now s) (hd : (upsert ns e).run (Server.answer now) s = (.ok d, s)) :
    s.deployments.find? ns e.name = some d := by
  have hget : (perform (.getDeployment ns e.name)).run (Server.answer now) s =
      (.ok (s.deployments.find? ns e.name), s) := Pass.run_perform ..
  obtain ⟨-, found, hfound, hrest⟩ := h.of_bind
  rw [upsert, Pass.bind_eq, run_bind_of_ok hfound] at hd
  rw [hget] at hfound
  cases hfound
  cases hf : s.deployments.find? ns e.name with
  | none =>
    rw [hf] at hrest
    cases hrest.of_perform
  | some existing =>
    rw [hf] at hrest hd
    dsimp only at hrest hd
    split at hrest
    · next hkept =>
      rw [if_pos hkept] at hd
      cases hd
      rfl
    · cases hrest.of_perform

/-- A workload whose pass lacks nothing and writes nothing reports the deployments that there are. -/
theorem status_of_quiet (h : (w.reconcile now).Quiet later s) (hexp : w.Expands s)
    (hlabel : ∀ d ∈ s.deploymentsOf w, d.label? uidLabel = some w.uid)
    (hname : ∀ wanted, w.desired s.locations.objects = .ok wanted → ∀ d ∈ s.deployments.objects,
      d.metadata.ns = some w.namespaceName → d.name ∈ wanted.map (·.name) →
        d.spec.workload.uid = w.uid) :
    ∃ ds, ds.Perm (s.deploymentsOf w) ∧ w.status = some (w.aggregate now ds) := by
  obtain ⟨hdel, hfin, hnet, hloc⟩ := hexp
  rw [reconcile_eq hdel hfin] at h
  obtain ⟨-, missing, hmissing, h⟩ := h.of_bind
  rw [missingNetworks_run, hnet] at hmissing
  cases hmissing
  rw [if_pos rfl] at h
  obtain ⟨-, locations, hlocations, h⟩ := h.of_bind
  rw [Pass.run_perform] at hlocations
  cases hlocations
  rw [if_neg hloc] at h
  obtain ⟨-, wanted, hwanted, h⟩ := h.of_bind
  obtain ⟨-, own, hown, h⟩ := h.of_bind
  rw [ownDeployments_run, Server.ownDeployments_eq hlabel] at hown
  cases hown
  obtain ⟨-, _, -, h⟩ := h.of_bind
  obtain ⟨hquiet, upserted, hupserted, h⟩ := h.of_bind
  refine ⟨_, ?_, not_not.1 (Pass.Quiet.of_write h rfl)⟩
  have hw := Pass.run_ofExcept_eq_ok hwanted
  -- what was brought up to date is among what was listed
  refine Keyed.ofList_append_perm ?_ fun d hd => ?_
  · rw [← Server.ownDeployments_eq hlabel]
    exact ((List.filter_sublist ..).map _).nodup (Table.list_names_nodup ..)
  · obtain ⟨e, he, hquiet, hrun⟩ := hquiet.of_collect hupserted d hd
    have hfound := find?_of_quiet_upsert hquiet hrun
    have hmem := (Table.find?_eq_some_iff.1 hfound).1
    have hns := (Table.metadata_of_find? hfound).1
    refine Server.mem_deploymentsOf.2 ⟨hmem, hns, hname wanted hw d hmem hns ?_⟩
    rw [Table.name_of_find? hfound]
    exact List.mem_map_of_mem he

/-! ## What the status says -/

/-- What a workload's status says of deployments. The counts are those of the instances, so far as they
fit into 32 bits. -/
structure Tells (s : Server) (status : WorkloadStatus) (ds : List Deployment) : Prop where
  counts : ∀ k, FitsInt32 (s.tally k ds) → (status.counts.get k).toInt = s.tally k ds
  available : status.conditions.isTrue Condition.available = ds.any Deployment.isAvailable
  /-- There is one entry for each placement that has deployments. -/
  placements_nodup : (status.placements.map (·.name)).Nodup
  placements_iff : ∀ name, name ∈ status.placements.map (·.name) ↔ ∃ d ∈ ds, d.spec.placement = name
  placement_counts : ∀ p ∈ status.placements, ∀ k,
    FitsInt32 (s.tally k (ds.filter (·.spec.placement == p.name))) →
      (p.counts.get k).toInt = s.tally k (ds.filter (·.spec.placement == p.name))
  placement_available : ∀ p ∈ status.placements, p.conditions.isTrue Condition.available =
    (ds.filter (·.spec.placement == p.name)).any Deployment.isAvailable

theorem Tells.of_perm {status : WorkloadStatus} {ds ds' : List Deployment} (h : ds.Perm ds')
    (ht : Tells s status ds) : Tells s status ds' := by
  have hfilter (name : String) := h.filter (·.spec.placement == name)
  refine ⟨fun k => ?_, ?_, ht.placements_nodup, fun name => ?_, fun p hp k => ?_, fun p hp => ?_⟩
  · rw [← Server.tally_perm h]
    exact ht.counts k
  · rw [← h.any_eq]
    exact ht.available
  · rw [ht.placements_iff]
    exact exists_congr fun d => and_congr_left fun _ => h.mem_iff
  · rw [← Server.tally_perm (hfilter p.name)]
    exact ht.placement_counts p hp k
  · rw [← (hfilter p.name).any_eq]
    exact ht.placement_available p hp

theorem name_placementStatus (w : Workload) (now : Instant) (previous : WorkloadStatus)
    (name : String) (members : List Deployment) :
    (w.placementStatus now previous name members).name = name := by
  unfold placementStatus
  cases hp : previous.placements.find? (·.name == name) with
  | none => rfl
  | some p =>
    have hname := List.find?_some hp
    exact beq_iff_eq.1 hname

theorem isTrue_set_placementCondition (conditions : ConditionSet) (available : Bool) :
    (conditions.set (w.placementCondition now available)).1.isTrue Condition.available =
      available := by
  cases available <;> exact ConditionSet.isTrue_set ..

theorem isTrue_set_availableCondition (conditions : ConditionSet) (available : Bool) :
    (conditions.set (w.availableCondition now available)).1.isTrue Condition.available =
      available := by
  cases available <;> exact ConditionSet.isTrue_set ..

/-- The status that is made of deployments says how they stand, if their own counts are right. -/
theorem tells_aggregate
    (h : ∀ k, ∀ d ∈ ds, (Deployment.counts d).get k = Int32.ofInt (s.number k d)) :
    Tells s (w.aggregate now ds) ds := by
  have hnames : (w.aggregate now ds).placements.map (·.name) =
      distinctSorted (ds.map (·.spec.placement)) := by
    simp [aggregate, Function.comp_def, name_placementStatus]
  have hplacement : ∀ p ∈ (w.aggregate now ds).placements,
      p = w.placementStatus now (w.status.getD {}) p.name
        (ds.filter (·.spec.placement == p.name)) := by
    intro p hp
    obtain ⟨name, -, rfl⟩ := List.mem_map.1 hp
    rw [name_placementStatus]
  refine ⟨fun k hfits => ?_, isTrue_set_availableCondition .., ?_, fun name => ?_,
    fun p hp k hfits => ?_, fun p hp => ?_⟩
  · exact toInt_of_eq_ofInt (get_counts_aggregate (h k)) hfits
  · rw [hnames]
    exact nodup_distinctSorted _
  · rw [hnames, mem_distinctSorted, List.mem_map]
  · refine toInt_of_eq_ofInt ?_ hfits
    rw [hplacement p hp, name_placementStatus]
    exact get_counts_placementStatus fun d hd => h k d (List.mem_filter.1 hd).1
  · rw [hplacement p hp, name_placementStatus]
    exact isTrue_set_placementCondition ..

/-- The workload, these deployments and their instances are at rest: a pass on any of them ends well
and writes nothing. The pass on the workload gets to its deployments, they are in service, and no
deployment of another workload is in the way. -/
structure AtRest (s : Server) (w : Workload) (ds : List Deployment) : Prop where
  expands : w.Expands s
  labelled : ∀ d ∈ ds, d.label? uidLabel = some w.uid
  standing : ∀ d ∈ ds, d.isDeleting = false ∧ Deployment.finalizer ∈ d.finalizers ∧
    Deployment.location d ≠ none
  undisputed : ∀ wanted, w.desired s.locations.objects = .ok wanted →
    ∀ d ∈ s.deployments.objects, d.metadata.ns = some w.namespaceName →
      d.name ∈ wanted.map (·.name) → d.spec.workload.uid = w.uid
  quiet : ∃ now, (w.reconcile now).Quiet now s
  deployments_quiet : ∀ d ∈ ds, ∃ now, (Deployment.reconcile d now).Quiet now s
  instances_quiet : ∀ d ∈ ds, ∀ i ∈ s.ownInstances d, ∃ now, (Instance.reconcile i now).Quiet now s

/-- The status of a workload at rest, with the deployments of its namespace, says how the instances of
these stand, and each instance that is not being deleted is ready exactly when no gate is held on it,
the runtime has programmed it and it runs. -/
theorem atRest_tells (h : AtRest s w (s.deploymentsOf w)) :
    (∃ status, w.status = some status ∧ Tells s status (s.deploymentsOf w)) ∧
      ∀ d ∈ s.deploymentsOf w, ∀ i ∈ s.ownInstances d, i.isDeleting = false →
        (Instance.isReady i = true ↔ Instance.gates i = [] ∧
          Instance.isTrue i Condition.programmed = true ∧
          Instance.isTrue i Condition.running = true) := by
  constructor
  · obtain ⟨now, hquiet⟩ := h.quiet
    obtain ⟨ds, hperm, hstatus⟩ := status_of_quiet hquiet h.expands h.labelled h.undisputed
    refine ⟨_, hstatus, (tells_aggregate fun k d hd => ?_).of_perm hperm⟩
    have hd := hperm.mem_iff.1 hd
    obtain ⟨hdel, hfin, hl⟩ := h.standing d hd
    obtain ⟨later, hquiet⟩ := h.deployments_quiet d hd
    obtain ⟨uid, ready, huid, hcounted⟩ := Deployment.status_of_quiet hquiet hdel hfin hl
    have hown : s.instancesOf d.namespaceName uid = s.ownInstances d := by
      rw [Server.ownInstances, huid]
      rfl
    rw [hown] at hcounted
    exact Deployment.get_counts_of_status hcounted k
  · intro d hd i hi hdel
    obtain ⟨now, hquiet⟩ := h.instances_quiet d hd i hi
    rw [Instance.isReady_of_quiet hquiet hdel]
    simp [and_assoc]

/-! ## A workload at rest in one namespace of two -/

/-- A placement with one city. -/
def oneCity : Placement where
  name := "us"
  cityCodes := ["DFW"]
  scale := { minReplicas := 1 }

/-- A workload with one deployment. -/
def oneCityWeb : Workload where
  metadata := {
    name := some "web"
    ns := some "depot"
    uid := some "w1"
    finalizers := some [finalizer] }
  spec := { placements := [oneCity] }

/-- Its deployment, scheduled and with one instance that is not ready. -/
def waitingDeployment (uid : String) : Deployment :=
  let scheduled : Deployment :=
    { oneCityWeb.deploymentFor "w1" { name := "web", uid := "w1" } oneCity "DFW" with
      status := some { location := some ⟨"dallas", "sites"⟩ } }
  { scheduled with
    metadata := { scheduled.metadata with uid := some uid }
    status := some (scheduled.progress ⟨0, 0⟩ { replicas := 1 } true) }

/-- The instance. -/
def waitingInstance (uid : String) : Instance :=
  let fresh : Instance := {
    metadata := { labels := some (Dict.set .empty Deployment.uidLabel uid) }
    spec := {} }
  { fresh with status := some { conditions := .insert .empty (fresh.readyCondition ⟨0, 0⟩ none) } }

/-- The workload with the status that it has with that deployment. -/
def waitingWeb : Workload :=
  { oneCityWeb with status := some (oneCityWeb.aggregate ⟨0, 0⟩ [waitingDeployment "d1"]) }

/-- A server that holds the deployment and, in another namespace, one that refers to the same workload,
both with their instances. -/
def branchServer : Server :=
  { Server.empty with
    locations := Table.empty.add "sites" "dallas" (cityLocation "DFW") rfl
    deployments := (Table.empty.add "depot" "web-us-dfw" (waitingDeployment "d1") rfl).add
      "branch" "web-us-dfw" (waitingDeployment "d2") rfl
    instances := (Table.empty.add "depot" "web-us-dfw-0" (waitingInstance "d1") rfl).add
      "branch" "web-us-dfw-0" (waitingInstance "d2") rfl }

theorem atRest_branchServer {ds : List Deployment}
    (h : ∀ d ∈ ds, d ∈ branchServer.deployments.objects) : AtRest branchServer waitingWeb ds := by
  have hstanding : ∀ d ∈ branchServer.deployments.objects, d.label? uidLabel = some waitingWeb.uid ∧
      d.isDeleting = false ∧ Deployment.finalizer ∈ d.finalizers ∧ Deployment.location d ≠ none ∧
        d.spec.workload.uid = waitingWeb.uid := by
    decide +kernel
  have hquiet : ∀ d ∈ branchServer.deployments.objects,
      (Deployment.reconcile d ⟨0, 0⟩).Quiet ⟨0, 0⟩ branchServer ∧
        ∀ i ∈ branchServer.ownInstances d,
          (Instance.reconcile i ⟨0, 0⟩).Quiet ⟨0, 0⟩ branchServer := by
    decide +kernel
  exact {
    expands := ⟨rfl, List.mem_singleton_self _, rfl, List.cons_ne_nil _ _⟩
    labelled := fun d hd => (hstanding d (h d hd)).1
    standing := fun d hd =>
      have ⟨_, hdel, hfin, hl, _⟩ := hstanding d (h d hd)
      ⟨hdel, hfin, hl⟩
    undisputed := fun _ _ d hd _ _ => (hstanding d hd).2.2.2.2
    quiet := ⟨⟨0, 0⟩, by decide +kernel⟩
    deployments_quiet := fun d hd => ⟨⟨0, 0⟩, (hquiet d (h d hd)).1⟩
    instances_quiet := fun d hd i hi => ⟨⟨0, 0⟩, (hquiet d (h d hd)).2 i hi⟩ }

/-- With the deployment of its own namespace the workload is at rest, and its status counts the one
instance. -/
theorem atRest_tells_branch :
    AtRest branchServer waitingWeb (branchServer.deploymentsOf waitingWeb) ∧
      ∃ status, waitingWeb.status = some status ∧ status.replicas.toInt = 1 := by
  have hrest : AtRest branchServer waitingWeb (branchServer.deploymentsOf waitingWeb) :=
    atRest_branchServer fun d hd => (Server.mem_deploymentsOf.1 hd).1
  have htally : branchServer.tally .replicas (branchServer.deploymentsOf waitingWeb) = 1 := by
    decide +kernel
  obtain ⟨⟨status, hstatus, htells⟩, -⟩ := atRest_tells hrest
  refine ⟨hrest, status, hstatus, (htells.counts .replicas ?_).trans htally⟩
  rw [htally]
  exact ⟨by decide, by decide⟩

/-- The status says nothing of the deployment in the other namespace, which is at rest as well. -/
theorem atRest_branch_not_told :
    let all := branchServer.deployments.objects.filter (·.spec.workload.uid == waitingWeb.uid)
    AtRest branchServer waitingWeb all ∧
      ∀ status, waitingWeb.status = some status → ¬ Tells branchServer status all := by
  intro all
  refine ⟨atRest_branchServer fun d hd => (List.mem_filter.1 hd).1, fun status hstatus htells => ?_⟩
  have htally : branchServer.tally .replicas all = 2 := by decide +kernel
  have hcounted : (status.counts.get .replicas).toInt = 1 := by
    rw [← Option.some.inj hstatus]
    decide +kernel
  have hcounts := htells.counts .replicas (by rw [htally]; exact ⟨by decide, by decide⟩)
  rw [htally, hcounted] at hcounts
  exact absurd hcounts (by decide)

end Workload

end ControlPlane
