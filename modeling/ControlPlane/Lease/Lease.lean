import ControlPlane.Meta.ObjectMeta

/-!
# Leases

A lease is the object that candidates for leadership compete for. It records who holds it, since when,
when the holder last renewed it and for how long that counts. Every field is optional.
-/

namespace ControlPlane

/-- What a lease records. -/
structure LeaseSpec where
  acquireTime : Option MicroTime := none
  holderIdentity : Option String := none
  leaseDurationSeconds : Option Int32 := none
  /-- How often the lease has passed from one holder to another. -/
  leaseTransitions : Option Int32 := none
  preferredHolder : Option String := none
  renewTime : Option MicroTime := none
  strategy : Option String := none
deriving DecidableEq, Inhabited

instance : JsonForm LeaseSpec where
  encode s := .obj <|
    Members.optional "acquireTime" s.acquireTime ++
    Members.optional "holderIdentity" s.holderIdentity ++
    Members.optional "leaseDurationSeconds" s.leaseDurationSeconds ++
    Members.optional "leaseTransitions" s.leaseTransitions ++
    Members.optional "preferredHolder" s.preferredHolder ++
    Members.optional "renewTime" s.renewTime ++
    Members.optional "strategy" s.strategy
  decode j := do
    let m ← j.object?
    return {
      acquireTime := ← m.lenient "acquireTime"
      holderIdentity := ← m.lenient "holderIdentity"
      leaseDurationSeconds := ← m.lenient "leaseDurationSeconds"
      leaseTransitions := ← m.lenient "leaseTransitions"
      preferredHolder := ← m.lenient "preferredHolder"
      renewTime := ← m.lenient "renewTime"
      strategy := ← m.lenient "strategy" }

/-- A lease. -/
structure Lease where
  metadata : ObjectMeta := {}
  spec : Option LeaseSpec := none
deriving DecidableEq, Inhabited

namespace Lease

/-- The group and version of leases. -/
def apiVersion : String := "coordination.k8s.io/v1"

/-- The kind of leases. -/
def kindName : String := "Lease"

/-- Whether a member is absent or the given text, each time it occurs. -/
def agrees (m : Members) (name text : String) : Bool :=
  (Json.valuesOf name m).all fun j => j.text? == some text

/-- The identity of the holder. -/
def holder? (l : Lease) : Option String :=
  l.spec.bind (·.holderIdentity)

end Lease

instance : JsonForm Lease where
  encode l := .obj <|
    Members.always "apiVersion" Lease.apiVersion ++
    Members.always "kind" Lease.kindName ++
    Members.always "metadata" l.metadata ++
    Members.optional "spec" l.spec
  decode j := do
    let m ← j.object?
    guard (Lease.agrees m "apiVersion" Lease.apiVersion ∧ Lease.agrees m "kind" Lease.kindName)
    return {
      metadata := ← m.lenientOr "metadata" {}
      spec := ← m.lenient "spec" }

end ControlPlane
