import ControlPlane.Meta.Observation
import ControlPlane.Schema.Instance

/-!
# The readiness of an instance

An instance is ready when no gate is held on it, the runtime has programmed it and it runs. The
`Ready` condition names the first of these that fails, in this order.
-/

namespace ControlPlane

/-- The reason a binding gives when its network could not be made. -/
def NetworkBinding.failedToCreate : String := "NetworkFailedToCreate"

namespace Instance

/-- The reason of a runtime condition that is still undecided. -/
def pending : String := "Pending"

/-- The reason taken over from a runtime condition, unless it has none to give. -/
def carriedReason (source : Option Condition) (default : String) : String :=
  match source with
  | some c => if c.reason = "" ∨ c.reason = pending then default else c.reason
  | none => default

/-- The message taken over from a runtime condition, unless it has none to give. -/
def carriedMessage (source : Option Condition) (default : String) : String :=
  match source with
  | some c => if c.status = Condition.unknown ∨ c.message = "" then default else c.message
  | none => default

/-- A runtime condition that is there and holds. -/
def holds (c : Option Condition) : Bool :=
  match c with
  | some c => c.status == Condition.holds
  | none => false

/-- A condition of the instance. -/
def condition? (i : Instance) (type : String) : Option Condition :=
  i.status.bind (·.conditions.get? type)

/-- The `Ready` condition of an instance. `failure` is the message of a binding whose network could
not be made, and counts only while gates are held. -/
def readyCondition (i : Instance) (now : Instant) (failure : Option String) : Condition :=
  let programmed := i.condition? Condition.programmed
  let running := i.condition? Condition.running
  if !i.gates.isEmpty then
    match failure with
    | some message =>
      i.observe now Condition.ready Condition.fails NetworkBinding.failedToCreate message
    | none =>
      i.observe now Condition.ready Condition.fails "SchedulingGatesPresent"
        ("Scheduling gates present: " ++ ", ".intercalate (i.gates.map (·.name)))
  else if !holds programmed then
    i.observe now Condition.ready Condition.fails
      (carriedReason programmed "PendingProgramming")
      (carriedMessage programmed "Instance has not been programmed")
  else if !holds running then
    i.observe now Condition.ready Condition.fails
      (carriedReason running pending) (carriedMessage running "Instance is not running")
  else
    i.observe now Condition.ready Condition.holds "Running" "Instance is ready"

end Instance

end ControlPlane
