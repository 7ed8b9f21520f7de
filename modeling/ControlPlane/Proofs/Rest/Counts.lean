import ControlPlane.Placement.Availability
import ControlPlane.Proofs.Server.Server
import ControlPlane.Rollout.Progress
import Mathlib

/-!
# What counts come to

Statuses count with 32 bits, and add up counts in two steps: the instances of a deployment, and the
deployments of a placement and of a workload. However often they are added up, they come to the number
of what is counted, modulo 2³² (`get_sum_of_eq`), so they are the number itself when that fits.

* `Server.tally`: the numbers that the counts of deployments are to come to.
* `Deployment.get_counts_of_status`: the counts of a deployment whose status is up to date.
* `Workload.get_counts_aggregate`: the counts of a workload, if those of its deployments are right.
-/

namespace ControlPlane

/-- What is counted. -/
inductive Count where
  | replicas
  /-- Instances that the runtime has programmed from the current template. -/
  | current
  | desired
  | ready

/-! ## Counts with 32 bits -/

/-- The number fits into 32 bits. -/
def FitsInt32 (n : Int) : Prop :=
  -2 ^ 31 ≤ n ∧ n < 2 ^ 31

theorem toInt_of_eq_ofInt {c : Int32} {n : Int} (h : c = Int32.ofInt n) (hn : FitsInt32 n) :
    c.toInt = n := by
  rw [h, Int32.toInt_ofInt_of_le hn.1 hn.2]

namespace ReplicaCounts

/-- One of the counts. -/
def get (c : ReplicaCounts) : Count → Int32
  | .replicas => c.replicas
  | .current => c.current
  | .desired => c.desired
  | .ready => c.ready

theorem get_foldl_add {α : Type} {f : α → ReplicaCounts} {g : α → Int} {k : Count} (l : List α)
    (h : ∀ a ∈ l, (f a).get k = Int32.ofInt (g a)) (c : ReplicaCounts) :
    ((l.map f).foldl add c).get k = c.get k + Int32.ofInt (l.map g).sum := by
  induction l generalizing c with
  | nil => simp
  | cons a rest ih =>
    obtain ⟨ha, hrest⟩ := List.forall_mem_cons.1 h
    have hadd : (c.add (f a)).get k = c.get k + (f a).get k := by cases k <;> rfl
    rw [List.map_cons, List.foldl_cons, ih hrest, hadd, ha, List.map_cons, List.sum_cons,
      Int32.ofInt_add, Int32.add_assoc]

/-- Counts that are right come to the number of all that is counted. -/
theorem get_sum_of_eq {α : Type} {f : α → ReplicaCounts} {g : α → Int} {k : Count} {l : List α}
    (h : ∀ a ∈ l, (f a).get k = Int32.ofInt (g a)) :
    (sum (l.map f)).get k = Int32.ofInt (l.map g).sum := by
  have hzero : ({} : ReplicaCounts).get k = 0 := by cases k <;> rfl
  rw [sum, get_foldl_add l h, hzero, Int32.zero_add]

end ReplicaCounts

namespace ReplicaSummary

theorem count_succ (c : Int32) (counted : Bool) (n : Nat) :
    (if counted then c + 1 else c) + Int32.ofInt n =
      c + Int32.ofInt (n + if counted then 1 else 0 : Nat) := by
  cases counted
  · simp
  · have hone : Int32.ofInt ((n + 1 : Nat) : Int) = Int32.ofInt n + 1 := Int32.ofInt_add n 1
    simp only [if_true, hone]
    rw [Int32.add_assoc, Int32.add_comm 1]

theorem foldl_add_eq (hash : String) (l : List Instance) (s : ReplicaSummary) :
    l.foldl (add hash) s =
      { replicas := s.replicas + Int32.ofInt l.length
        current := s.current + Int32.ofInt (l.countP (isCurrent hash))
        ready := s.ready + Int32.ofInt (l.countP Instance.isReady) } := by
  induction l generalizing s with
  | nil => simp
  | cons i rest ih =>
    rw [List.foldl_cons, ih, List.length_cons, List.countP_cons, List.countP_cons]
    simp only [add, count_succ, mk.injEq, and_true]
    exact count_succ s.replicas true rest.length

/-- The summary counts the instances. -/
theorem ofInstances_eq (l : List Instance) (hash : String) :
    ofInstances l hash =
      { replicas := Int32.ofInt l.length
        current := Int32.ofInt (l.countP (isCurrent hash))
        ready := Int32.ofInt (l.countP Instance.isReady) } := by
  simp [ofInstances, foldl_add_eq]

end ReplicaSummary

/-! ## What is to be counted -/

namespace Server

/-- The instances of a deployment. -/
def ownInstances (s : Server) (d : Deployment) : List Instance :=
  s.instancesOf d.namespaceName (d.metadata.uid.getD "")

/-- What a deployment adds to a count. -/
def number (s : Server) (k : Count) (d : Deployment) : Int :=
  match k with
  | .replicas => (s.ownInstances d).length
  | .current => (s.ownInstances d).countP (ReplicaSummary.isCurrent d.templateHash)
  | .desired => d.spec.scale.minReplicas.toInt
  | .ready => (s.ownInstances d).countP Instance.isReady

/-- What deployments come to in a count. -/
def tally (s : Server) (k : Count) (ds : List Deployment) : Int :=
  (ds.map (s.number k)).sum

end Server

/-! ## What statuses count -/

/-- What the placements of deployments come to is what all of them do. -/
theorem Deployment.sum_placements {ds : List Deployment} (g : Deployment → Int)
    {names : List String} (hnames : names.Nodup) (h : ∀ d ∈ ds, d.spec.placement ∈ names) :
    (names.map fun name => ((ds.filter (·.spec.placement == name)).map g).sum).sum =
      (ds.map g).sum := by
  induction ds with
  | nil => simp
  | cons d rest ih =>
    obtain ⟨hd, hrest⟩ := List.forall_mem_cons.1 h
    have hstep : ∀ name, (((d :: rest).filter (·.spec.placement == name)).map g).sum =
        (if name = d.spec.placement then g d else 0) +
          ((rest.filter (·.spec.placement == name)).map g).sum := by
      intro name
      by_cases hname : d.spec.placement = name
      · simp [hname]
      · simp [hname, Ne.symm hname]
    simp only [hstep, List.sum_map_add, ih hrest]
    rw [List.sum_map_ite_eq, List.count_eq_one_of_mem hnames hd]
    simp

theorem Deployment.get_counts_of_status {d : Deployment} {s : Server} {now : Instant} {ready : Bool}
    (h : d.status = some (d.progress now
      (ReplicaSummary.ofInstances (s.ownInstances d) d.templateHash) ready)) (k : Count) :
    d.counts.get k = Int32.ofInt (s.number k d) := by
  rw [Deployment.counts, h]
  cases k <;> simp [Deployment.progress, ReplicaSummary.ofInstances_eq, ReplicaCounts.get,
    Server.number]

/-- The counts of a workload's status. -/
def WorkloadStatus.counts (s : WorkloadStatus) : ReplicaCounts :=
  ⟨s.replicas, s.currentReplicas, s.desiredReplicas, s.readyReplicas⟩

namespace Workload

variable {w : Workload} {now : Instant} {ds : List Deployment} {k : Count} {g : Deployment → Int}

theorem get_counts_placementStatus {previous : WorkloadStatus} {name : String}
    (h : ∀ d ∈ ds, (Deployment.counts d).get k = Int32.ofInt (g d)) :
    (w.placementStatus now previous name ds).counts.get k = Int32.ofInt (ds.map g).sum :=
  ReplicaCounts.get_sum_of_eq h

/-- The counts of a workload come to what its deployments do, if the counts of these are right. -/
theorem get_counts_aggregate (h : ∀ d ∈ ds, (Deployment.counts d).get k = Int32.ofInt (g d)) :
    (w.aggregate now ds).counts.get k = Int32.ofInt (ds.map g).sum := by
  let names := distinctSorted (ds.map (·.spec.placement))
  let members (name : String) := ds.filter (·.spec.placement == name)
  have hplacement : ∀ name ∈ names,
      (w.placementStatus now (w.status.getD {}) name (members name)).counts.get k =
        Int32.ofInt ((members name).map g).sum := fun name _ =>
    get_counts_placementStatus fun d hd => h d (List.mem_filter.1 hd).1
  have hnames : ∀ d ∈ ds, d.spec.placement ∈ names := fun d hd =>
    mem_distinctSorted.2 (List.mem_map_of_mem hd)
  have hsum := ReplicaCounts.get_sum_of_eq hplacement
  rw [Deployment.sum_placements g (nodup_distinctSorted _) hnames] at hsum
  have hcounts : (w.aggregate now ds).counts = ReplicaCounts.sum ((names.map fun name =>
      w.placementStatus now (w.status.getD {}) name (members name)).map PlacementStatus.counts) := rfl
  rw [hcounts, List.map_map]
  exact hsum

end Workload

end ControlPlane
