import ControlPlane.Schema.Deployment
import ControlPlane.Text.Digits

/-!
# Slots

The instances of a deployment fill slots, numbered from zero. An instance's name ends in the number
of its slot: `ordinal` reads it off, and `slotName` is the name that an instance is created with.
-/

namespace ControlPlane

/-- The characters after the last hyphen, if there is a hyphen. -/
def afterLastHyphen (cs : List Char) : Option (List Char) :=
  if '-' ∈ cs then some (cs.reverse.takeWhile (· ≠ '-')).reverse else none

/-- Slots are numbered below this. -/
def slotLimit : Nat := 2147483648

/-- The slot that a name ends in: decimal digits after the last hyphen. -/
def slotOf? (name : String) : Option Nat := do
  let digits ← afterLastHyphen name.toList
  if digits ≠ [] ∧ digits.all Char.isDigit ∧ Text.decimalValue digits < slotLimit then
    some (Text.decimalValue digits)
  else none

/-- The slot that a name ends in, or -1. -/
def ordinal (name : String) : Int :=
  match slotOf? name with
  | some n => n
  | none => -1

namespace Deployment

/-- The name of the instance created for a slot. -/
def slotName (d : Deployment) (slot : Nat) : String :=
  d.name ++ "-" ++ Nat.repr slot

/-- How many slots a deployment has. -/
def slotCount (d : Deployment) : Nat :=
  d.spec.scale.minReplicas.toInt.toNat

end Deployment

end ControlPlane
