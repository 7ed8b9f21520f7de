/-!
# Controllers of a cluster

The orchestrator runs on its own cluster and on any number of execution clusters. Workloads are
expanded and scheduled at home; deployments and their instances are managed where they run, which is
at home only while there is no execution cluster.
-/

namespace ControlPlane

/-- Which controllers run against a cluster. -/
structure ControllerSet where
  workloads : Bool
  scheduler : Bool
  deployments : Bool
  instances : Bool
deriving DecidableEq

namespace ControllerSet

/-- The name of the orchestrator's own cluster. -/
def homeCluster : String := "local"

/-- The controllers of a cluster, given how many execution clusters there are. -/
def of (cluster : String) (executionClusters : Nat) : ControllerSet :=
  let home := cluster == homeCluster
  let executes := !home || executionClusters == 0
  { workloads := home, scheduler := home, deployments := executes, instances := executes }

end ControllerSet

end ControlPlane
