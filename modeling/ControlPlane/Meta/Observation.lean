import ControlPlane.Meta.Condition
import ControlPlane.Meta.Resource

/-!
# Observations

The conditions that a controller reports on an object carry the time of the report and the generation
of the object that was looked at.
-/

namespace ControlPlane

/-- A condition made at a time, for no generation in particular. -/
def Condition.at (now : Instant) (type status reason message : String) : Condition :=
  { type, status, reason, message, lastTransitionTime := now }

/-- A condition observed on an object at a time. -/
def Resource.observe {Spec Status : Type} (r : Resource Spec Status) (now : Instant)
    (type status reason message : String) : Condition :=
  { Condition.at now type status reason message with
    observedGeneration := r.metadata.generation }

end ControlPlane
