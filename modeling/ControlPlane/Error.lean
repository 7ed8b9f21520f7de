/-!
# Errors

What a call to the store or a reconcile pass can fail with, the wording of each, and how long to wait
before the pass is tried again.
-/

namespace ControlPlane

/-- An error of the orchestrator, with the detail it carries. -/
inductive Error where
  /-- The API server refused a request or could not be reached. -/
  | kubeApi (detail : String)
  /-- Another writer was faster. -/
  | conflict (detail : String)
  | configuration (detail : String)
  | reconciliation (detail : String)
  | serialization (detail : String)
  | notFound (detail : String)
  /-- An object breaks a rule that its writers keep. -/
  | invalidState (detail : String)
deriving DecidableEq, Inhabited

namespace Error

/-- The wording of an error. -/
def message : Error → String
  | .kubeApi detail => "Kubernetes API error: " ++ detail
  | .conflict detail => "Conflict: " ++ detail
  | .configuration detail => "Configuration error: " ++ detail
  | .reconciliation detail => "Reconciliation error: " ++ detail
  | .serialization detail => "Serialization error: " ++ detail
  | .notFound detail => "Resource not found: " ++ detail
  | .invalidState detail => "Invalid state: " ++ detail

/-- Whether trying again shortly is likely to succeed. -/
def isTransient : Error → Bool
  | .kubeApi _ => true
  | .conflict _ => true
  | _ => false

/-- Seconds to wait before a failed pass is tried again, given the ordinary delay: a conflict is
tried again almost at once, a broken rule after four times the ordinary delay. -/
def retryAfter (backoff : Nat) (e : Error) : Nat :=
  match e with
  | .conflict _ => 1
  | e => if e.isTransient then backoff else 4 * backoff

/-! ## The rules that objects can break -/

/-- An object that is identified by its uid has none. -/
def missingUid (what name : String) : Error :=
  .invalidState (what ++ " " ++ name ++ " has no uid")

/-- An object that is to own another lacks the name or uid to be referred to by. -/
def cannotOwn (what name : String) : Error :=
  .invalidState ("cannot build owner reference for " ++ what ++ " " ++ name)

/-- A namespaced object has no namespace. -/
def missingNamespace (name : String) : Error :=
  .invalidState (name ++ " has no namespace")

/-- An object that is to be written carries no version to guard the write. -/
def missingVersion (name : String) : Error :=
  .invalidState (name ++ " has no resourceVersion")

end Error

end ControlPlane
