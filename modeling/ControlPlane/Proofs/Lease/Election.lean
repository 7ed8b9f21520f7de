import Mathlib.Logic.Function.Basic
import ControlPlane.Lease.Elector

/-!
# Candidates that compete for a lease

Any number of candidates, known by their identities, read and write one lease on an API server, and
all read one clock. An attempt to acquire, to renew or to release the lease is a read and then one
write at most, and the steps of all attempts interleave as they like: a request may come late, be
refused or get lost, and a candidate may stop waiting for it while it is still on its way. The server
creates the lease only if there is none, and replaces it only for a writer that has read what is
stored.

* `Purpose.write?`: the write that follows a read. It is what the elector writes (`tryAcquire_eq`,
  `renew_eq`, `release_eq`).
* `World`: the server, the clock, the attempts under way, and what each candidate believes.
* `Step`: what can happen next.
* `World.Acts`: a candidate acts as leader. It does so at most until the time for which its last write
  of the lease counts.
-/

namespace ControlPlane

namespace Instant

/-- The instant that is this many nanoseconds after 1970-01-01T00:00:00Z. -/
def ofNanos (n : Int) : Instant :=
  ⟨n / nanosPerSecond, (n % nanosPerSecond).toNat⟩

/-- The instant with whole microseconds, as a lease records it. -/
def micros (t : Instant) : Instant :=
  { t with nano := t.nano / 1000 * 1000 }

end Instant

/-- The lease as the server stores it, under the `n`-th version that it gives out. -/
def Lease.asStored (l : Lease) (n : Nat) : Lease where
  metadata := { l.metadata with resourceVersion := some (Nat.repr n) }
  spec := l.spec.map fun s => { s with
    acquireTime := s.acquireTime.map fun t => ⟨t.instant.micros⟩
    renewTime := s.renewTime.map fun t => ⟨t.instant.micros⟩ }

/-- The lease that a write brings. -/
def LeaseWrite.lease : LeaseWrite → Lease
  | .create l | .replace l => l

namespace Election

/-- What an attempt is made for. -/
inductive Purpose where
  | acquire
  | renew
  | release
deriving DecidableEq

/-- How far an attempt has got. -/
inductive Stage where
  /-- It is about to read the lease. -/
  | begun
  /-- It has read the lease, or that there is none. -/
  | hasRead (found : Option Lease)
  /-- It has looked at the clock to decide what to do. -/
  | decided (found : Option Lease) (decided : Int)
  /-- It has looked at the clock again to stamp its write, if it makes one. -/
  | ready (found : Option Lease) (decided stamped : Int)
  /-- The server has answered the write. -/
  | answered (accepted : Bool)

/-- An attempt of a candidate. -/
structure Attempt where
  identity : String
  purpose : Purpose
  /-- The candidate waits for the attempt to end. -/
  awaited : Bool := true
  stage : Stage := .begun

/-- The lease that the attempt has read and goes by. -/
def Attempt.found? (a : Attempt) : Option Lease :=
  match a.stage with
  | .hasRead found | .decided found _ | .ready found _ _ => found
  | _ => none

/-- The time by which the attempt has decided what to do. -/
def Attempt.decided? (a : Attempt) : Option Int :=
  match a.stage with
  | .decided _ t | .ready _ t _ => some t
  | _ => none

/-- The write that an attempt makes from what it has read. -/
def Purpose.write? (p : Purpose) (name identity : String) (found : Option Lease)
    (decided stamped : Int) : Option LeaseWrite :=
  match p with
  | .acquire => acquireWrite name identity found (.ofNanos decided) (.ofNanos stamped)
  | .renew => found.bind fun l => renewWrite identity l (.ofNanos decided) (.ofNanos stamped)
  | .release => found.bind (releaseWrite identity)

section Elector

open Candidate (exchange)

variable (c : Candidate) (t : Int)

/-- An attempt to acquire the lease is a read, and the write that follows from what was read. -/
theorem tryAcquire_eq : c.tryAcquire (.ofNanos t) =
    exchange c.readRequest (·.object? Lease) >>= fun
      | .error e => pure (.error e)
      | .ok found => c.write (Purpose.acquire.write? c.leaseName c.identity found t t) :=
  rfl

/-- So is an attempt to renew it, which fails if there is none. -/
theorem renew_eq : c.renew (.ofNanos t) =
    exchange c.readRequest (·.object Lease) >>= fun
      | .error e => pure (.error e)
      | .ok found => c.write (Purpose.renew.write? c.leaseName c.identity (some found) t t) :=
  rfl

/-- So is an attempt to release it, of which nobody hears how it has ended. -/
theorem release_eq : c.release =
    exchange c.readRequest (·.object Lease) >>= fun
      | .error _ => pure ()
      | .ok found =>
        c.write (Purpose.release.write? c.leaseName c.identity (some found) t t) >>= fun _ => pure () :=
  rfl

end Elector

/-- Candidates do not acquire the lease and release it at the same time. -/
def Purpose.excludes : Purpose → Purpose → Bool
  | .acquire, .release | .release, .acquire => true
  | _, _ => false

/-- What a candidate that believed `before` believes when an attempt has ended. -/
def Purpose.believes (p : Purpose) (result before : Bool) : Bool :=
  match p with
  | .acquire => before || result
  | .renew => before && result
  | .release => before

/-- The state of the competition for the lease called `name`. -/
structure World where
  /-- Nanoseconds since 1970-01-01T00:00:00Z. -/
  clock : Int
  stored : Option Lease
  /-- The number of the version that was given out last. -/
  revision : Nat
  /-- The attempts under way, each in a slot of its own. -/
  attempts : Nat → Option Attempt
  /-- Whether a candidate believes that it leads. -/
  leads : String → Bool
  /-- The time that a candidate's last accepted claim of the lease was stamped with. -/
  stamp : String → Int

namespace World

variable (w : World)

/-- What is stored has the version of this lease. -/
def IsCurrent (l : Lease) : Prop :=
  ∃ o, w.stored = some o ∧ o.metadata.resourceVersion = l.metadata.resourceVersion

/-- The server accepts a write: it creates what is not there, and replaces what was read. -/
def Accepts : LeaseWrite → Prop
  | .create _ => w.stored = none
  | .replace l => w.IsCurrent l

/-- A candidate may start an attempt that goes with those it waits for. -/
def MayStart (identity : String) (p : Purpose) : Prop :=
  ∀ i a, w.attempts i = some a → a.awaited = true → a.identity = identity →
    p.excludes a.purpose = false

/-- The world with another attempt in a slot. -/
def set (i : Nat) (a : Option Attempt) : World :=
  { w with attempts := Function.update w.attempts i a }

/-- The world in which a candidate believes this about leading. -/
def believe (identity : String) (leads : Bool) : World :=
  { w with leads := Function.update w.leads identity leads }

/-- The world after the server has accepted a write of an attempt, and has given out a version. -/
def accept (i : Nat) (a : Attempt) (write : LeaseWrite) (stamped : Int) (version : Nat) : World :=
  { w with
    stored := some (write.lease.asStored version)
    revision := version
    attempts := Function.update w.attempts i (some { a with stage := .answered true })
    stamp := if a.purpose = .release then w.stamp
      else Function.update w.stamp a.identity stamped }

/-- What happens next. -/
inductive Step (name : String) : World → World → Prop
  /-- Time passes. -/
  | tick {w : World} {t : Int} (later : w.clock ≤ t) : Step name w { w with clock := t }
  /-- A candidate starts an attempt; one that starts to release the lease no longer leads. -/
  | start {w : World} {i : Nat} {identity : String} {p : Purpose} (free : w.attempts i = none)
    (may : w.MayStart identity p) : Step name w
      ((w.set i (some { identity, purpose := p })).believe identity
        (w.leads identity && p ≠ .release))
  /-- The lease is read. -/
  | read {w : World} {i : Nat} {a : Attempt} (is : w.attempts i = some a)
    (stage : a.stage = .begun) (awaited : a.awaited = true) :
    Step name w (w.set i (some { a with stage := .hasRead w.stored }))
  /-- A candidate looks at the clock to decide. -/
  | decide {w : World} {i : Nat} {a : Attempt} {found : Option Lease}
    (is : w.attempts i = some a) (stage : a.stage = .hasRead found) (awaited : a.awaited = true) :
    Step name w (w.set i (some { a with stage := .decided found w.clock }))
  /-- A candidate looks at the clock to stamp its write, and sends it. -/
  | stamp {w : World} {i : Nat} {a : Attempt} {found : Option Lease} {decided : Int}
    (is : w.attempts i = some a) (stage : a.stage = .decided found decided)
    (awaited : a.awaited = true) :
    Step name w (w.set i (some { a with stage := .ready found decided w.clock }))
  /-- The server accepts a write; the candidate need not be waiting for it any more. -/
  | accept {w : World} {i : Nat} {a : Attempt} {found : Option Lease} {decided stamped : Int}
    {write : LeaseWrite} {version : Nat} (is : w.attempts i = some a)
    (stage : a.stage = .ready found decided stamped)
    (writes : a.purpose.write? name a.identity found decided stamped = some write)
    (accepts : w.Accepts write) (new : w.revision < version) :
    Step name w (w.accept i a write stamped version)
  /-- The server refuses a write, for whatever reason. -/
  | refuse {w : World} {i : Nat} {a : Attempt} {found : Option Lease} {decided stamped : Int}
    (is : w.attempts i = some a) (stage : a.stage = .ready found decided stamped) :
    Step name w (w.set i (some { a with stage := .answered false }))
  /-- An attempt ends when its write is answered, or when there is nothing to write. -/
  | finish {w : World} {i : Nat} {a : Attempt} {result : Bool} (is : w.attempts i = some a)
    (awaited : a.awaited = true)
    (stage : a.stage = .answered result ∨ result = false ∧ ∃ found decided stamped,
      a.stage = .ready found decided stamped ∧
        a.purpose.write? name a.identity found decided stamped = none) :
    Step name w
      ((w.set i none).believe a.identity (a.purpose.believes result (w.leads a.identity)))
  /-- A candidate stops waiting for an attempt, which has failed for it or was broken off. -/
  | abandon {w : World} {i : Nat} {a : Attempt} (is : w.attempts i = some a)
    (awaited : a.awaited = true) :
    Step name w ((w.set i (some { a with awaited := false })).believe a.identity
      (a.purpose.believes false (w.leads a.identity)))

/-- No candidate has begun, whatever lease is there. -/
structure Initial : Prop where
  idle : ∀ i, w.attempts i = none
  leaderless : ∀ identity, w.leads identity = false
  version : ∀ l, w.stored = some l →
    ∃ n ≤ w.revision, l.metadata.resourceVersion = some (Nat.repr n)

/-- Nanoseconds that a lease counts for after it was stamped. -/
def leaseNanos : Int :=
  leaseSeconds.toInt * nanosPerSecond

/-- A candidate acts as leader: an attempt to acquire the lease has succeeded, nothing has ended this
since, and the lease still counts. -/
def Acts (identity : String) : Prop :=
  w.leads identity = true ∧ w.clock ≤ w.stamp identity + leaseNanos

end World

end Election

end ControlPlane
