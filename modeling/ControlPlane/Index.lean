import ControlPlane.Schema.Deployment

/-!
# Indexes

The keys under which objects are found from the objects they depend on: a workload by the networks
it uses, a deployment by the location it is scheduled to.
-/

namespace ControlPlane

/-- The distinct texts of a list in ascending order. -/
def distinctSorted (l : List String) : List String :=
  (Keyed.ofList id l).toList

@[simp] theorem mem_distinctSorted {l : List String} {k : String} :
    k ∈ distinctSorted l ↔ k ∈ l := by
  refine ⟨Keyed.mem_of_mem_ofList, fun h => ?_⟩
  obtain ⟨b, hb, rfl⟩ : ∃ b ∈ Keyed.ofList id l, id b = id k := Keyed.exists_mem_ofList h
  exact hb

theorem nodup_distinctSorted (l : List String) : (distinctSorted l).Nodup :=
  (Keyed.ofList id l).nodup_toList

/-- Splits a text at its first slash. -/
def splitKey (key : String) : Option (String × String) :=
  let cs := key.toList
  match cs.dropWhile (· ≠ '/') with
  | [] => none
  | _ :: rest => some (String.ofList (cs.takeWhile (· ≠ '/')), String.ofList rest)

namespace Workload

/-- `namespace/name` of the network of an interface; without a namespace, the workload's own. -/
def networkKey (w : Workload) (i : NetworkInterface) : String :=
  i.network.ns.getD w.namespaceName ++ "/" ++ i.network.name

/-- The keys of the networks a workload uses, ascending. -/
def networkKeys (w : Workload) : List String :=
  distinctSorted (w.spec.template.spec.networkInterfaces.map w.networkKey)

/-- The workloads that use a network. -/
def usingNetwork (workloads : List Workload) (key : String) : List Workload :=
  workloads.filter (·.networkKeys.contains key)

end Workload

namespace Deployment

/-- The key of the location a deployment is scheduled to, none while it is unscheduled. -/
def locationKeys (d : Deployment) : List String :=
  (d.location.map LocationReference.key).toList

/-- The deployments scheduled to a location. -/
def atLocation (deployments : List Deployment) (key : String) : List Deployment :=
  deployments.filter (·.locationKeys.contains key)

end Deployment

end ControlPlane
