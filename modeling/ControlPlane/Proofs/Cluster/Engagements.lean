import ControlPlane.Cluster.Registry
import Mathlib.Data.List.Nodup
import Mathlib.Logic.Function.Basic

/-!
# Who is engaged, and what runs for them

Several operations share a registry, which a lock guards. A `Turn` is what an operation does from
one acquisition of the lock to its next. Engaging and disengaging a cluster take one turn each.
Disengaging every cluster takes a turn to list the names and one more for each of them, and in
between anybody may have a turn: a cluster that was listed may be gone, or engaged anew.

What was done, and what was answered, is kept on `record`. It tells who is engaged (`standing`).

* `Sound.engage`, `Sound.disengage`: the tasks that run are those of the engaged clusters, and no
  task belongs to two of them.
* `Shared.sound_run`: the registry and the record agree, whoever had a turn.
* `run_nexts`: disengaging every cluster, where nobody else has a turn.
* `Shared.engagements`: what holds after any turns.
-/

namespace ControlPlane

namespace Registry

variable {Client : Type}

/-- What an operation did to a cluster, and what it answered. -/
inductive Deed (Client : Type) where
  /-- `started` are the tasks that run since. -/
  | engage (cluster : String) (client : Client) (answer : Except Error Unit)
    (started : List TaskId)
  | disengage (cluster : String) (answer : Bool)

/-- The engagement of a cluster that stands after what was done, the latest deed first: the one that
succeeded last, if the cluster was not disengaged since. -/
def standing (cluster : String) : List (Deed Client) → Option (Engagement Client)
  | [] => none
  | .engage name client (.ok ()) started :: earlier =>
    if name = cluster then some ⟨name, client, started⟩ else standing cluster earlier
  | .engage _ _ (.error _) _ :: earlier => standing cluster earlier
  | .disengage name true :: earlier => if name = cluster then none else standing cluster earlier
  | .disengage _ false :: earlier => standing cluster earlier

/-- What an operation does from one acquisition of the lock to its next. -/
inductive Turn (Client : Type) where
  | engage (cluster : String) (client : Client) (tasks : Nat)
  | disengage (cluster : String)
  /-- Disengaging every cluster begins: the names are listed. -/
  | list (sweep : Nat)
  /-- Disengaging every cluster goes on with the next name that was listed. -/
  | next (sweep : Nat)

/-- A registry that is used in turn. -/
structure Shared (Client : Type) where
  registry : Registry Client := {}
  /-- The names that were listed to disengage every cluster, and that are still to come. -/
  pending : Nat → List String := fun _ => []
  /-- What was done, the latest first. -/
  record : List (Deed Client) := []

namespace Shared

/-- Engages a cluster, and puts on record which tasks were started. -/
def engage (s : Shared Client) (cluster : String) (client : Client) (tasks : Nat) :
    Shared Client :=
  let (answer, registry) := s.registry.engage cluster client tasks
  let started := registry.alive.filter (!s.registry.alive.contains ·)
  { s with registry, record := .engage cluster client answer started :: s.record }

/-- Disengages a cluster, and puts that on record. -/
def disengage (s : Shared Client) (cluster : String) : Shared Client :=
  let (answer, registry) := s.registry.disengage cluster
  { s with registry, record := .disengage cluster answer :: s.record }

/-- The registry after a turn. -/
def take (s : Shared Client) : Turn Client → Shared Client
  | .engage cluster client tasks => s.engage cluster client tasks
  | .disengage cluster => s.disengage cluster
  | .list sweep => { s with pending := Function.update s.pending sweep s.registry.names }
  | .next sweep =>
    match s.pending sweep with
    | [] => s
    | cluster :: rest =>
      { s.disengage cluster with pending := Function.update s.pending sweep rest }

section Next

variable {s : Shared Client} {sweep : Nat} {cluster : String} {rest : List String}

theorem take_next_nil (h : s.pending sweep = []) : s.take (.next sweep) = s := by
  rw [take, h]

theorem take_next_cons (h : s.pending sweep = cluster :: rest) : s.take (.next sweep) =
    { s.disengage cluster with pending := Function.update s.pending sweep rest } := by
  rw [take, h]

end Next

/-- The registry after one turn after the other. -/
def run (s : Shared Client) (turns : List (Turn Client)) : Shared Client :=
  turns.foldl take s

end Shared

/-! ## The operations -/

section Operations

variable {r : Registry Client} {cluster : String} {e : Engagement Client}

theorem engage_of_isSome (client : Client) (tasks : Nat)
    (h : (r.clusters.get? cluster).isSome = true) :
    r.engage cluster client tasks = (.error (alreadyEngaged cluster), r) := by
  rw [engage, Keyed.contains_eq_isSome_get?, if_pos h]

theorem engage_of_none (client : Client) (tasks : Nat) (h : r.clusters.get? cluster = none) :
    r.engage cluster client tasks = (.ok (),
      { clusters := r.clusters.insert ⟨cluster, client, List.range' r.nextTask tasks⟩
        alive := r.alive ++ List.range' r.nextTask tasks
        nextTask := r.nextTask + tasks }) := by
  rw [engage, Keyed.contains_eq_isSome_get?, h]
  rfl

theorem disengage_of_none (h : r.clusters.get? cluster = none) :
    r.disengage cluster = (false, r) := by
  rw [disengage, h]

theorem disengage_of_some (h : r.clusters.get? cluster = some e) :
    r.disengage cluster = (true,
      { r with
        clusters := r.clusters.erase cluster
        alive := r.alive.filter fun t => !e.tasks.contains t }) := by
  rw [disengage, h]
  rfl

theorem disengage_fst (r : Registry Client) (cluster : String) :
    (r.disengage cluster).1 = (r.clusters.get? cluster).isSome := by
  cases h : r.clusters.get? cluster with
  | none => rw [disengage_of_none h]; rfl
  | some e => rw [disengage_of_some h]; rfl

theorem mem_names : cluster ∈ r.names ↔ (r.clusters.get? cluster).isSome = true := by
  constructor
  · intro h
    obtain ⟨e, he, rfl⟩ := List.mem_map.1 h
    rw [Keyed.get?_eq_some_iff.2 ⟨Keyed.mem_toList.1 he, rfl⟩]
    rfl
  · intro h
    obtain ⟨e, he⟩ := Option.isSome_iff_exists.1 h
    obtain ⟨hmem, rfl⟩ := Keyed.get?_eq_some_iff.1 he
    exact List.mem_map_of_mem (Keyed.mem_toList.2 hmem)

/-- Disengaging a cluster leaves the others as they are, and not that one. -/
theorem mem_clusters_disengage :
    e ∈ (r.disengage cluster).2.clusters ↔ e ∈ r.clusters ∧ e.cluster ≠ cluster := by
  cases h : r.clusters.get? cluster with
  | none =>
    rw [disengage_of_none h]
    exact ⟨fun he => ⟨he, Keyed.get?_eq_none_iff.1 h e he⟩, And.left⟩
  | some held =>
    rw [disengage_of_some h]
    exact Keyed.mem_erase

theorem mem_clusters_foldl_disengage {names : List String} :
    e ∈ (names.foldl (fun r cluster => (r.disengage cluster).2) r).clusters ↔
      e ∈ r.clusters ∧ e.cluster ∉ names := by
  induction names generalizing r with
  | nil => simp
  | cons cluster rest ih =>
    rw [List.foldl_cons, ih, mem_clusters_disengage, List.mem_cons, not_or, and_assoc]

end Operations

/-! ## The tasks -/

/-- The tasks that run are those of the engaged clusters, each of them once and for one cluster. -/
structure Sound (r : Registry Client) : Prop where
  alive_iff : ∀ t, t ∈ r.alive ↔ ∃ e ∈ r.clusters, t ∈ e.tasks
  nodup : r.alive.Nodup
  issued : ∀ t ∈ r.alive, t < r.nextTask
  apart : ∀ e ∈ r.clusters, ∀ e' ∈ r.clusters, ∀ t ∈ e.tasks, t ∈ e'.tasks → e = e'

namespace Sound

variable {r : Registry Client} {cluster : String}

theorem empty : Sound ({} : Registry Client) where
  alive_iff _ := ⟨fun h => absurd h List.not_mem_nil, fun ⟨_, he, _⟩ => absurd he List.not_mem_nil⟩
  nodup := .nil
  issued _ h := absurd h List.not_mem_nil
  apart _ h := absurd h List.not_mem_nil

/-- No task that is to be started runs yet. -/
theorem disjoint_range' (h : r.Sound) (tasks : Nat) :
    r.alive.Disjoint (List.range' r.nextTask tasks) := fun t halive hnew =>
  absurd (h.issued t halive) (Nat.not_lt.2 (List.mem_range'_1.1 hnew).1)

theorem engage (h : r.Sound) (cluster : String) (client : Client) (tasks : Nat) :
    (r.engage cluster client tasks).2.Sound := by
  cases hfree : r.clusters.get? cluster with
  | some e => rwa [engage_of_isSome client tasks (by rw [hfree]; rfl)]
  | none =>
    rw [engage_of_none client tasks hfree]
    have hother : ∀ e ∈ r.clusters, e.cluster ≠ cluster := Keyed.get?_eq_none_iff.1 hfree
    have hnew {e : Engagement Client} (he : e ∈ r.clusters) (t : TaskId) (ht : t ∈ e.tasks) :
        t ∉ List.range' r.nextTask tasks := fun hrange =>
      h.disjoint_range' tasks ((h.alive_iff t).2 ⟨e, he, ht⟩) hrange
    refine ⟨fun t => ?_, ?_, fun t ht => ?_, fun e he e' he' t ht ht' => ?_⟩
    · rw [List.mem_append, h.alive_iff]
      constructor
      · rintro (⟨e, he, ht⟩ | ht)
        · exact ⟨e, Keyed.mem_insert.2 (.inr ⟨he, hother e he⟩), ht⟩
        · exact ⟨_, Keyed.mem_insert.2 (.inl rfl), ht⟩
      · rintro ⟨e, he, ht⟩
        rcases Keyed.mem_insert.1 he with rfl | ⟨he, -⟩
        · exact .inr ht
        · exact .inl ⟨e, he, ht⟩
    · exact h.nodup.append List.nodup_range' (h.disjoint_range' tasks)
    · rcases List.mem_append.1 ht with ht | ht
      · exact Nat.lt_of_lt_of_le (h.issued t ht) (Nat.le_add_right _ _)
      · exact (List.mem_range'_1.1 ht).2
    · rcases Keyed.mem_insert.1 he with rfl | ⟨he, -⟩ <;>
        rcases Keyed.mem_insert.1 he' with rfl | ⟨he', -⟩
      · rfl
      · exact absurd ht (hnew he' t ht')
      · exact absurd ht' (hnew he t ht)
      · exact h.apart e he e' he' t ht ht'

theorem disengage (h : r.Sound) (cluster : String) : (r.disengage cluster).2.Sound := by
  cases hheld : r.clusters.get? cluster with
  | none => rwa [disengage_of_none hheld]
  | some held =>
    obtain ⟨hmem, hname⟩ := Keyed.get?_eq_some_iff.1 hheld
    rw [disengage_of_some hheld]
    refine ⟨fun t => ?_, h.nodup.filter _, fun t ht => h.issued t (List.mem_of_mem_filter ht),
      fun e he e' he' => h.apart e (Keyed.mem_erase.1 he).1 e' (Keyed.mem_erase.1 he').1⟩
    simp only [List.mem_filter, h.alive_iff, Bool.not_eq_true', List.contains_eq_mem,
      decide_eq_false_iff_not, Keyed.mem_erase]
    constructor
    · rintro ⟨⟨e, he, ht⟩, hnot⟩
      refine ⟨e, ⟨he, fun heq => hnot ?_⟩, ht⟩
      rwa [← Keyed.eq_of_key_eq he hmem (heq.trans hname.symm)]
    · rintro ⟨e, ⟨he, hne⟩, ht⟩
      exact ⟨⟨e, he, ht⟩, fun hheld => hne (h.apart e he held hmem t ht hheld ▸ hname)⟩

/-- With no cluster engaged no task runs. -/
theorem alive_eq_nil (h : r.Sound) (hnone : ∀ e, e ∉ r.clusters) : r.alive = [] := by
  refine List.eq_nil_iff_forall_not_mem.2 fun t ht => ?_
  obtain ⟨e, he, -⟩ := (h.alive_iff t).1 ht
  exact hnone e he

end Sound

theorem not_mem_clusters_disengageAll (r : Registry Client) (e : Engagement Client) :
    e ∉ r.disengageAll.clusters := by
  rw [disengageAll, mem_clusters_foldl_disengage]
  exact fun ⟨he, hnot⟩ => hnot (List.mem_map_of_mem (Keyed.mem_toList.2 he))

/-! ## The record -/

namespace Shared

/-- The registry is sound, and knows the clusters that stand engaged on record. -/
structure Sound (s : Shared Client) : Prop where
  registry : s.registry.Sound
  standing : ∀ cluster, s.registry.clusters.get? cluster = standing cluster s.record

namespace Sound

variable {s : Shared Client}

theorem engage (h : s.Sound) (cluster : String) (client : Client) (tasks : Nat) :
    (s.engage cluster client tasks).Sound := by
  refine ⟨h.registry.engage cluster client tasks, fun name => ?_⟩
  unfold Shared.engage
  cases hfree : s.registry.clusters.get? cluster with
  | some e =>
    rw [engage_of_isSome client tasks (by rw [hfree]; rfl)]
    exact h.standing name
  | none =>
    -- what runs now and did not run before are the tasks that were started
    have hstarted : (s.registry.alive ++ List.range' s.registry.nextTask tasks).filter
        (!s.registry.alive.contains ·) = List.range' s.registry.nextTask tasks := by
      rw [List.filter_append, List.filter_eq_nil_iff.2 fun t ht => by simp [ht], List.nil_append,
        List.filter_eq_self.2 fun t ht => ?_]
      simpa using fun halive => h.registry.disjoint_range' tasks halive ht
    rw [engage_of_none client tasks hfree]
    dsimp only
    rw [hstarted, Keyed.get?_insert, Registry.standing, h.standing]

theorem disengage (h : s.Sound) (cluster : String) : (s.disengage cluster).Sound := by
  refine ⟨h.registry.disengage cluster, fun name => ?_⟩
  unfold Shared.disengage
  cases hheld : s.registry.clusters.get? cluster with
  | none =>
    rw [disengage_of_none hheld]
    exact h.standing name
  | some held =>
    rw [disengage_of_some hheld]
    dsimp only
    rw [Keyed.get?_erase, Registry.standing, h.standing]

theorem take (h : s.Sound) (turn : Turn Client) : (s.take turn).Sound := by
  cases turn with
  | engage cluster client tasks => exact h.engage cluster client tasks
  | disengage cluster => exact h.disengage cluster
  | list sweep => exact ⟨h.registry, h.standing⟩
  | next sweep =>
    cases hnames : s.pending sweep with
    | nil => rwa [take_next_nil hnames]
    | cons cluster rest =>
      rw [take_next_cons hnames]
      exact ⟨(h.disengage cluster).registry, (h.disengage cluster).standing⟩

end Sound

theorem sound_run {s : Shared Client} (h : s.Sound) (turns : List (Turn Client)) :
    (s.run turns).Sound := by
  induction turns generalizing s with
  | nil => exact h
  | cons turn rest ih => exact ih (h.take turn)

/-- Going on with the names that were listed, where nobody else has a turn. -/
theorem run_nexts (s : Shared Client) (sweep count : Nat) :
    (s.run (.replicate count (.next sweep))).pending sweep = (s.pending sweep).drop count ∧
      (s.run (.replicate count (.next sweep))).registry =
        ((s.pending sweep).take count).foldl (fun r cluster => (r.disengage cluster).2)
          s.registry := by
  induction count generalizing s with
  | zero => exact ⟨rfl, rfl⟩
  | succ count ih =>
    rw [List.replicate_succ, run, List.foldl_cons]
    change (run (s.take (.next sweep)) _).pending sweep = _ ∧
      (run (s.take (.next sweep)) _).registry = _
    obtain ⟨hpending, hregistry⟩ := ih (s.take (.next sweep))
    rw [hpending, hregistry]
    cases hnames : s.pending sweep with
    | nil =>
      rw [take_next_nil hnames, hnames, List.drop_nil, List.drop_nil, List.take_nil, List.take_nil]
      exact ⟨rfl, rfl⟩
    | cons cluster rest =>
      rw [take_next_cons hnames]
      dsimp only
      rw [Function.update_self]
      exact ⟨rfl, rfl⟩

/-- Disengaging every cluster where nobody else has a turn, after any number of its own turns. -/
theorem run_list_nexts (s : Shared Client) (sweep count : Nat) :
    let after := s.run (.list sweep :: .replicate count (.next sweep))
    after.pending sweep = s.registry.names.drop count ∧
      (after.pending sweep = [] → after.registry = s.registry.disengageAll) := by
  intro after
  obtain ⟨hpending, hregistry⟩ := run_nexts (s.take (.list sweep)) sweep count
  have hlisted : (s.take (.list sweep)).pending sweep = s.registry.names := Function.update_self ..
  rw [hlisted] at hpending hregistry
  refine ⟨hpending, fun hdone => ?_⟩
  have hall : s.registry.names.take count = s.registry.names :=
    List.take_of_length_le (List.drop_eq_nil_iff.1 (hpending.symm.trans hdone))
  rw [hall] at hregistry
  exact hregistry

/-- After any turns of any operations: the tasks that run are those started for the clusters that
stand engaged, each of them once; a cluster that stands engaged has the client it was engaged with;
the names are those of the clusters that stand engaged, in ascending order; such a cluster cannot be
engaged again, and the attempt changes nothing; disengaging tells whether the cluster stood engaged;
and disengaging every cluster, where nobody else has a turn, comes to an end and leaves no cluster
engaged and no task running. -/
theorem engagements (turns : List (Turn Client)) :
    let s := ({} : Shared Client).run turns
    (s.registry.alive.Nodup ∧ ∀ t, t ∈ s.registry.alive ↔
      ∃ cluster e, standing cluster s.record = some e ∧ t ∈ e.tasks) ∧
    (∀ cluster, s.registry.clientFor cluster = (standing cluster s.record).map (·.client)) ∧
    (s.registry.names.Pairwise (· < ·) ∧
      ∀ cluster, cluster ∈ s.registry.names ↔ (standing cluster s.record).isSome = true) ∧
    (∀ cluster client tasks,
      ((standing cluster s.record).isSome = true → s.registry.engage cluster client tasks =
        (.error (.configuration ("cluster " ++ cluster ++ " is already engaged")), s.registry)) ∧
      (standing cluster s.record = none → (s.registry.engage cluster client tasks).1 = .ok ())) ∧
    (∀ cluster, (s.registry.disengage cluster).1 = (standing cluster s.record).isSome) ∧
    (∀ sweep count, let after := s.run (.list sweep :: .replicate count (.next sweep))
      (s.registry.names.length ≤ count → after.pending sweep = []) ∧
      (after.pending sweep = [] → after.registry = s.registry.disengageAll ∧
        after.registry.names = [] ∧ after.registry.alive = [])) := by
  intro s
  have hsound : s.Sound := sound_run ⟨.empty, fun _ => rfl⟩ turns
  refine ⟨⟨hsound.registry.nodup, fun t => ?_⟩, fun cluster => ?_, ⟨?_, fun cluster => ?_⟩,
    fun cluster client tasks => ⟨fun h => ?_, fun h => ?_⟩, fun cluster => ?_,
    fun sweep count => ?_⟩
  · rw [hsound.registry.alive_iff]
    constructor
    · rintro ⟨e, he, ht⟩
      exact ⟨e.cluster, e, hsound.standing _ ▸ Keyed.get?_eq_some_iff.2 ⟨he, rfl⟩, ht⟩
    · rintro ⟨cluster, e, he, ht⟩
      rw [← hsound.standing] at he
      exact ⟨e, (Keyed.get?_eq_some_iff.1 he).1, ht⟩
  · rw [clientFor, hsound.standing]
  · exact List.pairwise_map.2 s.registry.clusters.ascending
  · rw [mem_names, hsound.standing]
  · exact engage_of_isSome client tasks (hsound.standing cluster ▸ h)
  · rw [engage_of_none client tasks (hsound.standing cluster ▸ h)]
  · rw [disengage_fst, hsound.standing]
  · intro after
    obtain ⟨hpending, hdone⟩ := run_list_nexts s sweep count
    refine ⟨fun h => hpending.trans (List.drop_eq_nil_iff.2 h), fun h => ?_⟩
    have hnone : ∀ e, e ∉ after.registry.clusters := by
      rw [hdone h]
      exact not_mem_clusters_disengageAll _
    refine ⟨hdone h, ?_, (sound_run hsound _).registry.alive_eq_nil hnone⟩
    exact List.map_eq_nil_iff.2 (List.eq_nil_iff_forall_not_mem.2 hnone)

/-- A cluster that is listed to be disengaged with every other one, and is engaged anew before its
turn comes, is disengaged all the same. -/
theorem engagements_reengaged :
    let turns : List (Turn Nat) := [.engage "dfw" 1 2, .engage "lhr" 2 1, .list 0,
      .disengage "dfw", .engage "dfw" 3 2, .engage "lhr" 4 1]
    let s := ({} : Shared Nat).run turns
    let after := s.run [.list 1, .next 1, .next 1]
    s.registry.names = ["dfw", "lhr"] ∧ s.registry.alive = [2, 3, 4] ∧
      s.registry.clientFor "dfw" = some 3 ∧
      (s.registry.engage "lhr" 5 1).1 =
        .error (.configuration "cluster lhr is already engaged") ∧
      (s.registry.engage "ams" 5 1).1 = .ok () ∧
      (s.run [.next 0]).registry.names = ["lhr"] ∧ (s.run [.next 0]).registry.alive = [2] ∧
      after.registry.names = [] ∧ after.registry.alive = [] := by
  intro turns s after
  obtain ⟨-, -, -, hengage, -, hsweep⟩ := engagements turns
  have hdone := (hsweep 1 2).2 ((hsweep 1 2).1 (by decide +kernel))
  refine ⟨by decide +kernel, by decide +kernel, by decide +kernel, ?_,
    (hengage "ams" 5 1).2 (by decide +kernel), by decide +kernel, by decide +kernel, hdone.2⟩
  rw [(hengage "lhr" 5 1).1 (by decide +kernel)]
  rfl

end Shared

end Registry

end ControlPlane
