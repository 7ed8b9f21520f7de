import ControlPlane.Api.Conversation
import ControlPlane.Lease.Decision
import ControlPlane.Text.Digits
import ControlPlane.Text.Ranges

/-!
# Electing a leader

A candidate acquires the lease, renews it while it leads and releases it at the end. Each of these
reads the lease and then writes it once at most. A write that the server refuses for a conflict means
that another candidate was faster.
-/

namespace ControlPlane

/-- A candidate for the lease of a namespace. -/
structure Candidate where
  identity : String
  ns : String
  leaseName : String

namespace Candidate

/-- Seconds between two attempts to acquire the lease. -/
def retrySeconds : Nat := 5

/-- Seconds between two renewals. -/
def renewSeconds : Nat := 10

/-- A candidate goes by the name of its pod, or else of its host, or else by a number that it has
drawn. -/
def identityOf (podName hostName : Option String) (drawn : UInt32 := 0) : String :=
  (podName <|> hostName).getD <|
    "workload-operator-" ++ String.ofList (Text.hexWord drawn)

/-- The path of the leases of the candidate's namespace. -/
def leasesPath (c : Candidate) : String :=
  "/apis/" ++ Lease.apiVersion ++ "/namespaces/" ++ c.ns ++ "/leases"

/-- The path of the lease, which needs a name. -/
def leasePath (c : Candidate) : Except ClientError String :=
  if c.leaseName = "" then .error .unnamed else .ok (c.leasesPath ++ "/" ++ c.leaseName)

/-- The request for the lease. -/
def readRequest (c : Candidate) : Except ClientError Request := do
  let path ← c.leasePath
  Request.get path

/-- The request that makes a write. -/
def writeRequest (c : Candidate) : LeaseWrite → Except ClientError Request
  | .create l => Request.send .post c.leasesPath .json (encode l)
  | .replace l => do
    let path ← c.leasePath
    Request.send .put path .json (encode l)

/-- Sends a request, if it could be made, and reads the answer. -/
def exchange {α : Type} (request : Except ClientError Request)
    (read : Response → Except ClientError α) : Talk (Except ClientError α) :=
  match request with
  | .error e => return .error e
  | .ok r => do return read (← Talk.ask r)

/-- What the answer to a write says: whether the write was made, or lost to another candidate. -/
def written (answer : Response) : Except ClientError Bool :=
  match answer.object Lease with
  | .ok _ => .ok true
  | .error (.refused r) => if r.code = 409 then .ok false else .error (.refused r)
  | .error e => .error e

/-- Makes a write, if there is one to make. -/
def write (c : Candidate) : Option LeaseWrite → Talk (Except ClientError Bool)
  | none => return .ok false
  | some w => exchange (c.writeRequest w) written

/-- One attempt to acquire the lease. -/
def tryAcquire (c : Candidate) (now : Instant) : Talk (Except ClientError Bool) := do
  match ← exchange c.readRequest (·.object? Lease) with
  | .error e => return .error e
  | .ok read => c.write (acquireWrite c.leaseName c.identity read now now)

/-- Attempts to acquire the lease until one succeeds, sleeping after each that does not. -/
def acquireWithin (c : Candidate) (now : Instant) : Nat → Talk Unit
  | 0 => failure
  | attempts + 1 => do
    match ← c.tryAcquire now with
    | .ok true => return ()
    | _ =>
      Talk.sleep retrySeconds
      c.acquireWithin now attempts

/-- Waits until the lease is acquired. Every attempt sends a request, so a script is used up by as
many attempts as it has lines. -/
def acquire (c : Candidate) (now : Instant) : Talk Unit := do
  c.acquireWithin now ((← get).script.length + 1)

/-- Renews the lease, and tells whether the candidate still holds it. -/
def renew (c : Candidate) (now : Instant) : Talk (Except ClientError Bool) := do
  match ← exchange c.readRequest (·.object Lease) with
  | .error e => return .error e
  | .ok read => c.write (renewWrite c.identity read now now)

/-- Gives the lease up. A failure is of no consequence: the lease expires. -/
def release (c : Candidate) : Talk Unit := do
  match ← exchange c.readRequest (·.object Lease) with
  | .error _ => return ()
  | .ok read =>
    let _ ← c.write (releaseWrite c.identity read)
    return ()

/-- The namespace of the lease: the one asked for, or else the one that the file of the service
account names, if it can be read, or else the default. -/
def detectNamespace (explicit : String) (account : Option String := none) : String :=
  if explicit = "" then
    (account.map fun text => String.ofList (Text.trim text.toList)).getD "default"
  else explicit

end Candidate

end ControlPlane
