import ControlPlane.Json.MergePatch
import ControlPlane.Reconcile.Deployment
import ControlPlane.Reconcile.Instance
import ControlPlane.Reconcile.Schedule
import ControlPlane.Reconcile.Workload
import ControlPlane.Schema.Any
import ControlPlane.Store.Memory

/-!
# Simulation

Passes over a store in memory, one step at a time. A step may write to the store from outside, plant
a fault that makes a later call fail, or run a pass; the calls it makes are logged.
-/

namespace ControlPlane

/-- The document that a JSON value of a kind is stored as, if it describes such an object. -/
def Document.ofJson? (kind : Kind) (j : Json) : Option Document :=
  (AnyResource.ofJson? kind j).map fun r => ⟨kind, r.toJson⟩

/-- A call that is to fail: the one of that name after `skip` others of the name. -/
structure Fault where
  call : String
  skip : Nat
  error : Error

/-- Consults the first fault planted for a call, which fails the call once its turn has come. -/
def Fault.consult (call : String) : List Fault → Option Error × List Fault
  | [] => (none, [])
  | f :: rest =>
    if f.call = call then
      if f.skip = 0 then (some f.error, rest) else (none, { f with skip := f.skip - 1 } :: rest)
    else
      let (e, rest) := consult call rest
      (e, f :: rest)

/-- What the passes run on. -/
structure Simulation where
  store : Memory := {}
  faults : List Fault := []
  now : Instant
  /-- The ordinary delay after a failed pass, in seconds. -/
  backoff : Nat
  /-- The calls made, in order. -/
  log : List Call := []

/-- The four reconcilers. -/
inductive Controller where
  | workload
  | scheduler
  | deployment
  | inst
deriving DecidableEq

/-- A step of a simulation. Kinds are given by name; there is no object of an unknown kind. -/
inductive Step where
  | put (d : Document)
  | merge (kind ns name : String) (patch : Json)
  | remove (kind ns name : String)
  | plant (f : Fault)
  /-- Shows all objects, or those of one kind. -/
  | dump (kind : Option String)
  | act (a : Action)
  | reconcile (c : Controller) (ns name : String)
  | stageNetworks (ns name : String)

/-- What a step comes to. -/
inductive StepResult where
  | ok
  | found (isThere : Bool)
  | merged (body : Json)
  /-- The merged value describes no object of its kind, and the store is as before. -/
  | undecodable
  | objects (bodies : List Json)
  | requeue (after : Requeue)
  | ready (isReady : Bool)
  | missing
  | failed (e : Error)
  /-- A pass failed and is tried again after so many seconds. -/
  | retry (e : Error) (after : Nat)

namespace Simulation

/-- Logs a call, consults the faults and asks the store. -/
def answer : Answer Simulation := fun c s =>
  let s := { s with log := s.log ++ [c] }
  match Fault.consult c.name s.faults with
  | (some e, faults) => (.error e, { s with faults })
  | (none, faults) =>
    let (reply, store) := s.store.answer s.now c
    (reply, { s with store, faults })

/-- Runs a pass on an object, if it is there, and tells what came of it. -/
def runOn {α β : Type} (s : Simulation) (object : Option α) (pass : α → Pass β)
    (result : β → StepResult) (failure : Error → StepResult) : StepResult × Simulation :=
  match object with
  | none => (.missing, s)
  | some a =>
    match (pass a).run answer s with
    | (.ok b, s) => (result b, s)
    | (.error e, s) => (failure e, s)

/-- The pass of a controller on the object of that name. -/
def reconcile (s : Simulation) (c : Controller) (ns name : String) : StepResult × Simulation :=
  let failure (e : Error) : StepResult := .retry e (e.retryAfter s.backoff)
  match c with
  | .workload => s.runOn (s.store.read Workload ns name) (·.reconcile s.now) .requeue failure
  | .scheduler => s.runOn (s.store.read Deployment ns name) (·.schedule s.now) .requeue failure
  | .deployment => s.runOn (s.store.read Deployment ns name) (·.reconcile s.now) .requeue failure
  | .inst => s.runOn (s.store.read Instance ns name) (·.reconcile s.now) .requeue failure

/-- Merges a patch into an object. -/
def merge (s : Simulation) (kind : Kind) (ns name : String) (patch : Json) :
    StepResult × Simulation :=
  match s.store.find? kind ns name with
  | none => (.found false, s)
  | some d =>
    match Document.ofJson? kind (Json.mergePatch patch d.body) with
    | none => (.undecodable, s)
    | some merged =>
      (.merged merged.body, { s with store := { s.store with
        documents :=
          Memory.alterFirst (Document.isAt kind ns name) (fun _ => some merged)
            s.store.documents } })

/-- Takes an object out. -/
def remove (s : Simulation) (kind : Kind) (ns name : String) : StepResult × Simulation :=
  (.found (s.store.find? kind ns name).isSome, { s with store := s.store.remove kind ns name })

/-- Carries out a step. -/
def step (s : Simulation) : Step → StepResult × Simulation
  | .put d => (.ok, { s with store := s.store.put d })
  | .merge kind ns name patch =>
    match Kind.ofName? kind with
    | some kind => s.merge kind ns name patch
    | none => (.found false, s)
  | .remove kind ns name =>
    match Kind.ofName? kind with
    | some kind => s.remove kind ns name
    | none => (.found false, s)
  | .plant f => (.ok, { s with faults := s.faults ++ [f] })
  | .dump kind =>
    (.objects ((s.store.documents.filter fun d => kind.all (· == d.kind.name)).map (·.body)), s)
  | .act a => s.runOn (some a) Action.execute (fun _ => .ok) .failed
  | .reconcile c ns name => s.reconcile c ns name
  | .stageNetworks ns name =>
    s.runOn (s.store.read Deployment ns name) Deployment.stageNetworks .ready .failed

end Simulation

end ControlPlane
