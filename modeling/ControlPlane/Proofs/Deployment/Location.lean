import ControlPlane.Proofs.Server.Footprint
import ControlPlane.Proofs.Server.History

/-!
# The location of a deployment over whole runs

A deployment that has a location keeps it for as long as it is stored. The scheduler assigns one to
deployments that had none when they were read; otherwise it and the controller of deployments write
the location that they have read, and versions see to it that this is the stored one. So it does not
matter how old the objects are that passes work on, nor which locations there are in the meantime.

* `location_mergeStatus`: a status patch with the stored location leaves it as it is.
* `LocationSafe`: how the calls of a pass deal with locations. `Task.meets_locationSafe` has it of
  every pass.
* `Server.KeepsLocations`: what others do to a server, and what passes do to it.
* `location_kept`: the location is kept over whole runs.
-/

namespace ControlPlane

open Pass (perform)

/-! ## Merging a status -/

section

variable {s status : DeploymentStatus} {l : LocationReference}

/-- A location merged into itself. -/
theorem mergePatch_location (l : LocationReference) :
    Json.mergePatch (encode l) (encode l) = encode l := by
  simp [encode, Members.always, Json.mergePatch, Json.mergeMembers, Json.membersOrNone,
    Json.setMember]

/-- A status with a location has it as its first member and as no other. -/
theorem encode_of_location (h : s.location = some l) : ∃ rest,
    encode s = .obj (("location", encode l) :: rest) ∧ ∀ m ∈ rest, m.1 ≠ "location" := by
  refine ⟨Members.optional "clusterRef" s.cluster ++ Members.always "conditions" s.conditions ++
    Members.always "replicas" s.replicas ++ Members.always "currentReplicas" s.currentReplicas ++
    Members.always "desiredReplicas" s.desiredReplicas ++
    Members.always "readyReplicas" s.readyReplicas, ?_, ?_⟩
  · simp [encode, h, Members.optional]
  · cases s.cluster <;> simp [Members.always, Members.optional]

theorem location_of_decode {members : Members} (h : decode (.obj members) = some s)
    (hl : Json.valuesOf "location" members = [encode l]) : s.location = some l := by
  have hmaybe : members.maybe "location" = some (some l) := by
    rw [Members.maybe, hl]
    rfl
  simp only [decode, Json.record?, Option.bind_eq_bind, Option.bind_some, hmaybe,
    Option.bind_eq_some_iff] at h
  obtain ⟨_, -, _, -, _, -, _, -, _, -, _, -, hs⟩ := h
  rw [← Option.some.inj hs]

/-- The members of two statuses with the same location, merged. -/
theorem valuesOf_mergeMembers_location {changes members : Members}
    (hc : ∀ m ∈ changes, m.1 ≠ "location") (hm : ∀ m ∈ members, m.1 ≠ "location") :
    Json.valuesOf "location" (Json.mergeMembers (("location", encode l) :: changes)
      (("location", encode l) :: members)) = [encode l] := by
  have hnone : Json.valuesOf "location" members = [] := by
    simpa [Json.valuesOf] using hm
  have hfirst : Json.mergeMembers (("location", encode l) :: changes)
      (("location", encode l) :: members) =
        Json.mergeMembers changes (("location", encode l) :: members) := by
    rw [Json.mergeMembers]
    · simp [Json.setMember, hnone, mergePatch_location]
    · rintro ⟨⟩
  rw [hfirst, Json.valuesOf_mergeMembers_of_ne hc]
  simp [hnone]

/-- A status patch with the stored location leaves it as it is, whatever else it changes. -/
theorem location_mergeStatus {d : Deployment} (hd : d.location = some l)
    (hs : status.location = some l) : Deployment.location (d.mergeStatus status) = some l := by
  obtain ⟨old, hold, hl⟩ := Option.bind_eq_some_iff.1 hd
  simp only [Deployment.location, Resource.mergeStatus, hold, Option.elim_some, Option.bind_some]
  cases hdec : (decode (Json.mergePatch (encode status) (encode old)) : Option DeploymentStatus) with
  | none => exact hs
  | some merged =>
    obtain ⟨changes, hstatus, hchanges⟩ := encode_of_location hs
    obtain ⟨members, hold, hmembers⟩ := encode_of_location hl
    rw [hstatus, hold, Json.mergePatch] at hdec
    exact location_of_decode hdec (valuesOf_mergeMembers_location hchanges hmembers)

end

/-! ## What passes do to locations -/

/-- The deployment that a pass is made on. -/
def Task.deployment? : Task → Option Deployment
  | .scheduling d | .deployment d => some d
  | .workload _ | .inst _ => none

/-- What a pass writes as the location of a deployment: of the one it is made on, the location that it
has, if it has any; of others that it replaces, the one that was read. -/
def LocationSafe (task : Task) (log : List Exchange) : Call → Prop
  | .patchDeploymentStatus d status => task.deployment? = some d ∧
      (d.location = none ∨ status.location = d.location)
  | .replaceDeployment r => ∃ ns name o wanted, ⟨.getDeployment ns name, some o⟩ ∈ log ∧
      r = Workload.adopted o wanted
  | _ => True

namespace Workload

variable {w : Workload} {now : Instant} {log : List Exchange}

theorem meets_locationSafe :
    (w.reconcile now).Meets (LocationSafe (.workload w)) (fun _ _ => True) log := by
  refine w.meets_reconcile_of now (fun _ c hc => by cases c <;> trivial)
    (fun _ => w.only_tearDown.meets fun _ c hc => by cases c <;> trivial)
    (fun _ _ _ => trivial) fun _ _ locations log => ?_
  exact w.meets_expand_of now (fun _ c hc => by cases c <;> trivial)
    (fun _ _ => trivial) fun _ _ d _ log =>
      meets_upsert_of trivial (fun _ => trivial) fun o _ ho => ⟨_, _, o, d, ho, rfl⟩

end Workload

namespace Deployment

variable {d : Deployment} {now : Instant} {log : List Exchange}

theorem schedule_meets_locationSafe :
    (d.schedule now).Meets (LocationSafe (.scheduling d)) (fun _ _ => True) log := by
  unfold schedule
  split
  · trivial
  · next hskip =>
    have hnone : d.location = none := by
      simp only [Bool.or_eq_true, not_or, Option.not_isSome_iff_eq_none] at hskip
      exact hskip.2
    have hpatch (log : List Exchange) (status : DeploymentStatus) :
        LocationSafe (.scheduling d) log (.patchDeploymentStatus d status) := ⟨rfl, .inl hnone⟩
    have hreport (reason message : String) (log : List Exchange) :
        (d.reportUnscheduled now reason message).Meets (LocationSafe (.scheduling d))
          (fun _ _ => True) log := by
      unfold reportUnscheduled
      simp only
      split
      · exact Pass.meets_perform (hpatch _ _) fun _ => trivial
      · trivial
    refine Pass.Meets.bind (P := fun _ _ => True) (Pass.meets_perform trivial fun _ => trivial)
      fun locations log _ => ?_
    split
    · exact (hreport _ _ log).bind fun _ _ _ => trivial
    · exact (hreport _ _ log).bind fun _ _ _ => trivial
    · exact ⟨hpatch _ _, fun _ => trivial⟩

/-- Progress is reported at the location that the deployment has. -/
theorem location_progress (summary : ReplicaSummary) (ready : Bool) :
    (d.progress now summary ready).location = d.location := by
  rw [progress, location]
  cases d.status <;> rfl

theorem reconcile_meets_locationSafe :
    (d.reconcile now).Meets (LocationSafe (.deployment d)) (fun _ _ => True) log := by
  refine d.meets_reconcile_of now
    (fun _ => d.only_tearDown.meets fun _ c hc => by cases c <;> trivial)
    (fun _ _ _ => trivial) fun _ _ => ?_
  refine d.meets_rollOut_of now
    (fun _ => d.only_stageNetworks.meets fun _ c hc => by cases c <;> trivial)
    (fun _ _ _ => trivial) (fun _ _ _ _ _ _ _ => ?_) (fun _ _ _ => trivial)
    fun _ summary ready => ⟨rfl, .inr (location_progress summary ready)⟩
  exact (Pass.only_forEach fun a _ => a.only_execute).meets fun _ c hc => by cases c <;> trivial

end Deployment

theorem Task.meets_locationSafe (task : Task) (now : Instant) :
    (task.pass now).Meets (LocationSafe task) (fun _ _ => True) [] := by
  cases task with
  | workload w => exact Workload.meets_locationSafe
  | scheduling d => exact Deployment.schedule_meets_locationSafe
  | deployment d => exact Deployment.reconcile_meets_locationSafe
  | inst i =>
    exact (i.only_reconcile now).meets fun _ c hc => by cases c <;> trivial

/-! ## Locations step by step -/

/-- What others do to a server. They change what they like, but a location that is set stays for as
long as its deployment does. -/
structure Server.KeepsLocations (a b : Server) : Prop where
  advances : a.deployments.Advances b.deployments
  locations : ∀ o ∈ a.deployments.objects, ∀ x ∈ b.deployments.objects, o.address = x.address →
    ∀ l, Deployment.location o = some l → Deployment.location x = some l

/-- It is enough to find for each deployment one whose location it keeps. -/
theorem Server.keepsLocations_of_exists {a b : Server}
    (hadv : a.deployments.Advances b.deployments)
    (h : ∀ x ∈ b.deployments.objects, x ∈ a.deployments.objects ∨
      (∀ o ∈ a.deployments.objects, o.address ≠ x.address) ∨
        ∃ o ∈ a.deployments.objects, o.address = x.address ∧
          ∀ l, Deployment.location o = some l → Deployment.location x = some l) :
    a.KeepsLocations b := by
  refine ⟨hadv, fun o ho x hx ha l hl => ?_⟩
  obtain hx | hfree | ⟨o', ho', ha', hkeep⟩ := h x hx
  · rwa [← Table.eq_of_address_eq ho hx ha]
  · exact absurd ha (hfree o ho)
  · rw [Table.eq_of_address_eq ho ho' (ha.trans ha'.symm)] at hl
    exact hkeep l hl

theorem Server.KeepsLocations.refl (a : Server) : a.KeepsLocations a :=
  Server.keepsLocations_of_exists (.refl _) fun _ hx => .inl hx

namespace System

variable {outside : Server → Server → Prop} {s t : System} {w : Nat → System} {j : Job} {c : Call}
  {n : Nat}

/-- A pass that works on what was stored once keeps locations. -/
theorem keepsLocations_of_performs (hok : LocationSafe j.task j.log c)
    (htask : ∀ d, j.task.deployment? = some d → s.server.deployments.Known d)
    (hp : s.Performs j c t) : s.server.KeepsLocations t.server := by
  obtain ht | ⟨now, ht⟩ := hp.server_cases
  · rw [ht]
    exact .refl _
  rw [ht]
  refine Server.keepsLocations_of_exists (s.server.deployments_advance now c) fun x hx => ?_
  cases c with
  | createDeployment d =>
    obtain hx | ⟨hfree, -⟩ := Table.mem_create now hx
    · exact .inl hx
    · exact .inr (.inl hfree)
  | replaceDeployment r =>
    obtain hx | ⟨o, ho, ha, -, -, ns, name, n, rfl⟩ := Table.mem_update hx
    · exact .inl hx
    · exact .inr (.inr ⟨o, ho, ha, fun _ hl => hl⟩)
  | deleteDeployment d =>
    obtain hx | ⟨o, ho, ha, ns, name, n, rfl⟩ := Table.mem_delete now hx
    · exact .inl hx
    · exact .inr (.inr ⟨o, ho, ha, fun _ hl => hl⟩)
  | patchDeploymentStatus d status =>
    obtain hx | ⟨o, ho, ha, hod, hov, ns, name, n, rfl⟩ := Table.mem_patch hx
    · exact .inl hx
    · refine .inr (.inr ⟨o, ho, ha, fun l hl => ?_⟩)
      -- the version shows that the deployment is stored as the pass has read it
      have hod : o = d := (htask d hok.1).unchanged o ho hod hov
      subst hod
      have hstatus : status.location = some l := by
        obtain hnone | heq := hok.2
        · rw [hnone] at hl
          cases hl
        · rw [heq, hl]
      exact location_mergeStatus hl hstatus
  | setDeploymentFinalizers d finalizers =>
    obtain hx | ⟨o, ho, ha, -, -, ns, name, n, rfl⟩ := Table.mem_patch hx
    · exact .inl hx
    · exact .inr (.inr ⟨o, ho, ha, fun _ hl => hl⟩)
  | _ => exact .inl hx

/-- The passes on deployments work on what was stored once. -/
def OnSnapshots (w : Nat → System) : Prop :=
  ∀ n i j d, (w n).jobs i = some j → j.task.deployment? = some d →
    ∃ m ≤ n, d ∈ (w m).server.deployments.objects

theorem keepsLocations_step (h : Run Server.KeepsLocations w) (hw : OnSnapshots w) (n : Nat) :
    (w n).server.KeepsLocations (w (n + 1)).server := by
  have key {s t : System} (hs : Step Server.KeepsLocations s t) (e : s = w n) :
      s.server.KeepsLocations t.server := by
    cases hs with
    | begins _ => exact .refl _
    | others ho => exact ho
    | performs hp =>
      subst e
      refine keepsLocations_of_performs (h.ok_of_performs Task.meets_locationSafe hp)
        (fun d hd => ?_) hp
      obtain ⟨i, next, hj, -⟩ := hp.exists_slot
      obtain ⟨m, hm, hmem⟩ := hw n i _ d hj hd
      exact (Table.known_of_mem hmem).advances (h.deployments_advance (fun _ _ ho => ho.advances) hm)
  exact key (h.step n) rfl

/-- In every run of any passes, each on a deployment as it was stored at some time before, a
deployment that has a location keeps it for as long as one is stored under its name. What a pass
writes in place of a whole deployment has the location too, when it is not refused. -/
theorem location_kept (h : Run Server.KeepsLocations w) (hw : OnSnapshots w) :
    (∀ m n (o x : Deployment) l, m ≤ n → o ∈ (w m).server.deployments.objects →
      o.location = some l →
      (∀ k, m ≤ k → k ≤ n → ∃ y ∈ (w k).server.deployments.objects, y.address = o.address) →
      x ∈ (w n).server.deployments.objects → x.address = o.address → x.location = some l) ∧
    ∀ n j r t (o : Deployment), (w n).Performs j (.replaceDeployment r) t →
      o ∈ (w n).server.deployments.objects → o.address = r.destination →
      o.metadata.resourceVersion = r.metadata.resourceVersion →
        Deployment.location r = o.location := by
  constructor
  · intro m n o x l hmn ho hl hstored hx ha
    induction hmn generalizing x with
    | refl => rwa [Table.eq_of_address_eq hx ho ha]
    | @step n hmn ih =>
      obtain ⟨y, hy, hya⟩ := hstored n hmn (Nat.le_succ n)
      have hyl := ih y (fun k hk hkn => hstored k hk (Nat.le_succ_of_le hkn)) hy hya
      exact (keepsLocations_step h hw n).locations y hy x hx (hya.trans ha.symm) l hyl
  · intro n j r t o hp ho ha hv
    obtain ⟨ns, name, e, wanted, he, rfl⟩ := h.ok_of_performs Task.meets_locationSafe hp
    obtain ⟨i, next, hj, -⟩ := hp.exists_slot
    rw [(h.known_of_read (fun _ _ ho => ho.advances) hj he).unchanged o ho ha hv]
    rfl

/-- A deployment that waits for a location, as it is stored. -/
def backend : Deployment where
  metadata := {
    name := some "backend"
    ns := some "market"
    uid := some "d9"
    resourceVersion := some "1" }
  spec := {
    workload := { name := "backend", uid := "w9" }
    placement := "any"
    cityCode := "LHR"
    scale := { minReplicas := 1 } }

/-- A location that serves its city. -/
def heathrow : Location where
  metadata := { name := some "lhr", ns := some "sites" }
  spec := { topology := Dict.set .empty Location.cityCodeKey "LHR" }

/-- A server that holds the two. -/
def marketServer : Server :=
  { Server.empty with
    deployments := Table.empty.add "market" "backend" backend (Table.find?_empty ..)
    locations := Table.empty.add "sites" "lhr" heathrow (Table.find?_empty ..) }

/-- Two passes of the scheduler that have read the same: the first assigns the location, and the
second is too late to assign one. -/
def twoSchedulers : Nat → System :=
  after ⟨marketServer, fun _ => none⟩
    [.begin 0 (.scheduling backend) ⟨0, 0⟩, .begin 1 (.scheduling backend) ⟨1, 0⟩,
      .call 0 ⟨2, 0⟩, .call 0 ⟨3, 0⟩, .call 1 ⟨4, 0⟩, .call 1 ⟨5, 0⟩]

theorem onSnapshots_twoSchedulers : OnSnapshots twoSchedulers := by
  intro n i j d hj hd
  obtain ⟨k, -, now, hbegin⟩ := exists_turn_of_job (fun _ => rfl) hj
  have htask : j.task = .scheduling backend := by
    have hmem := List.mem_of_getElem? hbegin
    simp only [List.mem_cons, Turn.begin.injEq, List.not_mem_nil, reduceCtorEq, or_false] at hmem
    obtain ⟨-, ht, -⟩ | ⟨-, ht, -⟩ := hmem <;> exact ht
  rw [htask] at hd
  cases hd
  exact ⟨0, Nat.zero_le n, by decide +kernel⟩

theorem location_kept_twoSchedulers : Run Server.KeepsLocations twoSchedulers ∧
    OnSnapshots twoSchedulers ∧ ∃ o x : Deployment,
      o ∈ (twoSchedulers 4).server.deployments.objects ∧ o.location = some ⟨"lhr", "sites"⟩ ∧
      x ∈ (twoSchedulers 6).server.deployments.objects ∧ x.location = some ⟨"lhr", "sites"⟩ := by
  have hrun : Run Server.KeepsLocations twoSchedulers :=
    run_after Server.KeepsLocations.refl (fun _ => rfl) (by simp)
  obtain ⟨o, ho, hl⟩ : ∃ o ∈ (twoSchedulers 4).server.deployments.objects,
      Deployment.location o = some ⟨"lhr", "sites"⟩ ∧
        o.address = (some "market", some "backend") := by
    decide +kernel
  obtain ⟨x, hx, ha⟩ : ∃ x ∈ (twoSchedulers 6).server.deployments.objects,
      x.address = (some "market", some "backend") := by
    decide +kernel
  have hstored : ∀ k, 4 ≤ k → k ≤ 6 → ∃ y ∈ (twoSchedulers k).server.deployments.objects,
      y.address = o.address := by
    have hall : ∀ k ≤ 6, ∃ y ∈ (twoSchedulers k).server.deployments.objects,
        y.address = (some "market", some "backend") := by
      decide +kernel
    intro k _ hk
    rw [hl.2]
    exact hall k hk
  exact ⟨hrun, onSnapshots_twoSchedulers, o, x, ho, hl.1, hx,
    (location_kept hrun onSnapshots_twoSchedulers).1 4 6 o x _ (by decide) ho hl.1 hstored hx
      (ha.trans hl.2.symm)⟩

end System

end ControlPlane
