import ControlPlane.Schema.Deployment
import ControlPlane.Schema.Location

/-!
# Selecting a location

A deployment is scheduled to the first location, in listing order, that serves its city code.
-/

namespace ControlPlane

/-- What a deployment finds among the locations. -/
inductive Selection where
  | noLocations
  | noCandidates
  | selected (l : Location)

namespace Deployment

/-- The first location that serves the deployment's city code. -/
def select (d : Deployment) (locations : List Location) : Selection :=
  if locations.isEmpty then .noLocations
  else
    match locations.find? fun l => l.cityCode == some d.spec.cityCode with
    | some l => .selected l
    | none => .noCandidates

end Deployment

end ControlPlane
