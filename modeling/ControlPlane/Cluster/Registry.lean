import ControlPlane.Error
import ControlPlane.Keyed

/-!
# The registry of clusters

A cluster is engaged under a name, with the client that talks to it and the tasks that were started
for it. Disengaging it stops those tasks. Tasks run until they are stopped, and each has a number of
its own.

* `Registry.engage`, `Registry.disengage`, `Registry.disengageAll`: the operations.
* `Registry.alive`: the tasks that run, kept apart from the records of the clusters.
-/

namespace ControlPlane

/-- A task that was started for a cluster. -/
abbrev TaskId := Nat

/-- A cluster that is engaged. -/
structure Engagement (Client : Type) where
  cluster : String
  client : Client
  tasks : List TaskId
deriving DecidableEq

/-- The engaged clusters, the tasks that run, and the number of the next task. -/
structure Registry (Client : Type) where
  clusters : Keyed (@Engagement.cluster Client) := .empty
  alive : List TaskId := []
  nextTask : TaskId := 0

namespace Registry

variable {Client : Type}

/-- A cluster is engaged once at a time. -/
def alreadyEngaged (cluster : String) : Error :=
  .configuration ("cluster " ++ cluster ++ " is already engaged")

/-- Starts tasks. -/
def start (r : Registry Client) (count : Nat) : List TaskId × Registry Client :=
  let tasks := List.range' r.nextTask count
  (tasks, { r with alive := r.alive ++ tasks, nextTask := r.nextTask + count })

/-- Stops tasks. -/
def stop (r : Registry Client) (tasks : List TaskId) : Registry Client :=
  { r with alive := r.alive.filter fun t => !tasks.contains t }

/-- Engages a cluster and starts its tasks. -/
def engage (r : Registry Client) (cluster : String) (client : Client) (tasks : Nat) :
    Except Error Unit × Registry Client :=
  if r.clusters.contains cluster then (.error (alreadyEngaged cluster), r)
  else
    let (tasks, r) := r.start tasks
    (.ok (), { r with clusters := r.clusters.insert { cluster, client, tasks } })

/-- Disengages a cluster and stops its tasks; tells whether it was engaged. -/
def disengage (r : Registry Client) (cluster : String) : Bool × Registry Client :=
  match r.clusters.get? cluster with
  | none => (false, r)
  | some e => (true, { r with clusters := r.clusters.erase cluster }.stop e.tasks)

/-- The names of the engaged clusters, ascending. -/
def names (r : Registry Client) : List String :=
  r.clusters.keys

/-- Disengages every cluster that is engaged at the outset, one after another. -/
def disengageAll (r : Registry Client) : Registry Client :=
  r.names.foldl (fun r cluster => (r.disengage cluster).2) r

/-- The client of an engaged cluster. -/
def clientFor (r : Registry Client) (cluster : String) : Option Client :=
  (r.clusters.get? cluster).map (·.client)

/-- How many of a cluster's tasks run. -/
def runningFor (r : Registry Client) (e : Engagement Client) : Nat :=
  (e.tasks.filter r.alive.contains).length

end Registry

end ControlPlane
