import ControlPlane.Error
import ControlPlane.Schema.Deployment
import ControlPlane.Schema.Location
import ControlPlane.Text.LowerCase

/-!
# Desired deployments

A workload wants one deployment for every city code of every placement that some location serves.
City codes are compared as written; a deployment's name has the city code in small letters.
-/

namespace ControlPlane.Workload

/-- The name of the deployment for a placement and a city code. -/
def deploymentName (workload placement cityCode : String) : String :=
  workload ++ "-" ++ placement ++ "-" ++ Text.lowerCase cityCode

/-- The city codes that the locations serve. -/
def servedCities (locations : List Location) : List String :=
  locations.filterMap Location.cityCode

/-- The deployment for a placement and a city code. -/
def deploymentFor (w : Workload) (uid : String) (owner : OwnerReference) (p : Placement)
    (cityCode : String) : Deployment where
  metadata := {
    name := some (deploymentName w.name p.name cityCode)
    ns := w.metadata.ns
    labels := some (Dict.set .empty uidLabel uid)
    ownerReferences := some [owner]
    finalizers := some [Deployment.finalizer] }
  spec := {
    workload := { name := w.name, uid }
    placement := p.name
    cityCode
    template := w.spec.template
    scale := p.scale }

/-- The deployments of a workload, placement by placement. -/
def desired (w : Workload) (locations : List Location) : Except Error (List Deployment) :=
  match w.metadata.uid with
  | none => .error (.missingUid "workload" w.name)
  | some uid =>
    match w.controllerReference? with
    | none => .error (.cannotOwn "workload" w.name)
    | some owner =>
      let served := servedCities locations
      .ok <| w.spec.placements.flatMap fun p =>
        (p.cityCodes.filter served.contains).map (w.deploymentFor uid owner p)

end ControlPlane.Workload
