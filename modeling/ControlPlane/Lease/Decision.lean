import ControlPlane.Lease.Lease

/-!
# Claiming a lease

What a candidate does with a lease it has read: it renews its own, takes over one that nobody holds or
whose holder has stopped renewing, and waits for any other. Every write is made from what was read, so
that the server can refuse it when another candidate was faster.

* `LeaseSpec.claimed`: the lease after a candidate has claimed or renewed it.
* `acquireWrite`, `renewWrite`, `releaseWrite`: the one write, if any, that follows a read.
-/

namespace ControlPlane

/-- Seconds that a lease counts for after it was renewed. -/
def leaseSeconds : Int32 := 15

/-- What a candidate should do with a lease. -/
inductive LeaseDecision where
  /-- The candidate holds it. -/
  | renew
  /-- Nobody holds it, or its holder has let it expire. -/
  | takeOver
  /-- Another candidate holds it. -/
  | wait
deriving DecidableEq, Inhabited

namespace LeaseSpec

/-- Whether more than the lease's duration has passed since it was renewed. -/
def isExpired (s : LeaseSpec) (now : Instant) : Bool :=
  match s.renewTime with
  | some renewed =>
    (s.leaseDurationSeconds.getD leaseSeconds).toInt < now.secondsSince renewed.instant
  | none => true

/-- What a candidate should do with a lease; a lease without a specification is held by nobody. -/
def decision (spec : Option LeaseSpec) (identity : String) (now : Instant) : LeaseDecision :=
  match spec with
  | none => .takeOver
  | some s =>
    if s.holderIdentity = some identity then .renew
    else if s.holderIdentity.isNone || s.isExpired now then .takeOver
    else .wait

/-- The lease after a candidate has claimed it: a takeover counts as a transition and starts the time
of holding anew, a renewal keeps both. -/
def claimed (previous : Option LeaseSpec) (identity : String) (now : Instant)
    (takeover : Bool) : LeaseSpec :=
  let transitions := (previous.bind (·.leaseTransitions)).getD 0
  { holderIdentity := some identity
    leaseDurationSeconds := some leaseSeconds
    acquireTime := if takeover then some ⟨now⟩ else previous.bind (·.acquireTime)
    renewTime := some ⟨now⟩
    leaseTransitions := some (if takeover then transitions + 1 else transitions) }

end LeaseSpec

namespace Lease

/-- The lease that the first candidate creates, before any transition. -/
def created (name identity : String) (now : Instant) : Lease where
  metadata := { name := some name }
  spec := some { LeaseSpec.claimed none identity now true with leaseTransitions := some 0 }

/-- The lease claimed or renewed by a candidate. -/
def claimed (l : Lease) (identity : String) (now : Instant) (takeover : Bool) : Lease :=
  { l with spec := some (LeaseSpec.claimed l.spec identity now takeover) }

/-- The lease given up by its holder. -/
def released (l : Lease) : Lease :=
  { l with spec := l.spec.map fun s => { s with holderIdentity := none } }

end Lease

/-- A write to the lease. -/
inductive LeaseWrite where
  | create (l : Lease)
  | replace (l : Lease)
deriving DecidableEq

/-- The write with which a candidate tries to acquire the lease it has read, decided at one time and
stamped with another. -/
def acquireWrite (name identity : String) (read : Option Lease) (decided stamped : Instant) :
    Option LeaseWrite :=
  match read with
  | none => some (.create (.created name identity stamped))
  | some l =>
    match LeaseSpec.decision l.spec identity decided with
    | .renew => some (.replace (l.claimed identity stamped false))
    | .takeOver => some (.replace (l.claimed identity stamped true))
    | .wait => none

/-- The write with which the holder renews the lease it has read. -/
def renewWrite (identity : String) (read : Lease) (decided stamped : Instant) :
    Option LeaseWrite :=
  if LeaseSpec.decision read.spec identity decided = .renew then
    some (.replace (read.claimed identity stamped false))
  else none

/-- The write with which the holder gives up the lease it has read. -/
def releaseWrite (identity : String) (read : Lease) : Option LeaseWrite :=
  if read.holder? = some identity then some (.replace read.released) else none

end ControlPlane
