import ControlPlane.Reconcile.Basic
import ControlPlane.Rollout.Readiness
import ControlPlane.Staging.Networks

/-!
# Reconciling an instance

A pass derives the `Ready` condition of an instance from its gates and from what the runtime reports.
While a gate is held, a binding of the deployment whose network could not be made gives the reason.
-/

namespace ControlPlane

open Pass (perform)

/-- The message of a binding whose network could not be made. -/
def NetworkBinding.failure? (b : NetworkBinding) : Option String :=
  match b.status.bind (·.conditions.get? Condition.ready) with
  | some c =>
    if c.status = Condition.fails ∧ c.reason = NetworkBinding.failedToCreate then some c.message
    else none
  | none => none

namespace Instance

/-- The deployment that controls the instance, as its owner references name it. -/
def controllingDeployment? (i : Instance) : Option OwnerReference :=
  (i.metadata.ownerReferences.getD []).find? fun o =>
    o.controller == some true && o.kind == Kind.workloadDeployment.name

/-- The message of the first failed binding among those with the given names. -/
def firstFailure (ns : String) : List String → Pass (Option String)
  | [] => return none
  | name :: rest => do
    match ← perform (.getNetworkBinding ns name) with
    | none => firstFailure ns rest
    | some binding =>
      match NetworkBinding.failure? binding with
      | some message => return some message
      | none => firstFailure ns rest

/-- The message of the first failed binding of the instance's deployment. -/
def networkFailure (i : Instance) : Pass (Option String) :=
  match i.controllingDeployment? with
  | none =>
    .abort <| .invalidState
      ("instance " ++ i.name ++ " has no controlling WorkloadDeployment")
  | some owner => do
    match ← perform (.getDeployment i.namespaceName owner.name) with
    | none =>
      .abort (.notFound ("WorkloadDeployment " ++ i.namespaceName ++ "/" ++ owner.name))
    | some d =>
      firstFailure i.namespaceName <|
        (List.range (Deployment.interfaces d).length).map (NetworkBinding.nameFor d.name)

/-- The message of a failed binding, which matters only while a gate is held. -/
def gatedFailure (i : Instance) : Pass (Option String) :=
  if i.gates.isEmpty then return none else i.networkFailure

/-- A pass on an instance. -/
def reconcile (i : Instance) (now : Instant) : Pass Requeue := do
  if i.isDeleting then return awaitChange
  let failure ← i.gatedFailure
  let status := i.status.getD {}
  let (conditions, changed) := status.conditions.set (i.readyCondition now failure)
  if changed then
    perform (.patchInstanceStatus i { status with conditions })
  return awaitChange

end Instance

end ControlPlane
