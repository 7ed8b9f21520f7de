import ControlPlane.Rollout.Template

/-!
# Rollout plans

A deployment is brought to one ready instance in every slot, made from the current template, one
action at a time. `Deployment.plan` lists all that is left to do and leaves only the first action to
be carried out: missing instances are created and unready ones waited for from the lowest slot up,
then outdated ones are renewed and surplus ones deleted from the highest slot down.
-/

namespace ControlPlane

/-- What an action does to its instance. -/
inductive ActionType where
  | create
  | update
  | delete
  /-- Nothing; it marks what the rollout waits for. -/
  | wait
deriving DecidableEq

/-- A step of a rollout. -/
structure Action where
  type : ActionType
  target : Instance
  /-- Whether the step is left for a later pass. -/
  skipped : Bool := false
deriving DecidableEq

namespace Action

/-- The slot that the name of the instance ends in, or -1. -/
def ordinal (a : Action) : Int :=
  ControlPlane.ordinal a.target.name

/-- The action left for a later pass. -/
def skip (a : Action) : Action :=
  { a with skipped := true }

end Action

/-- Which instance holds each slot, and which are surplus. -/
structure SlotTable where
  holder : Nat → Option Instance := fun _ => none
  surplus : List Instance := []

namespace SlotTable

/-- The table with `i` in a slot. -/
def hold (t : SlotTable) (slot : Nat) (i : Instance) : SlotTable :=
  { t with holder := fun k => if k = slot then some i else t.holder k }

/-- The table with `i` among the surplus. -/
def dismiss (t : SlotTable) (i : Instance) : SlotTable :=
  { t with surplus := t.surplus ++ [i] }

/-- Seats an instance. Names that end in no slot of the deployment are surplus. Of two instances
for a slot, one under the slot's own name stays if it came first; otherwise the later one stays. -/
def seat (d : Deployment) (t : SlotTable) (i : Instance) : SlotTable :=
  match slotOf? i.name with
  | none => t.dismiss i
  | some slot =>
    if slot < d.slotCount then
      match t.holder slot with
      | none => t.hold slot i
      | some held =>
        if held.name = d.slotName slot then t.dismiss i
        else (t.hold slot i).dismiss held
    else t.dismiss i

end SlotTable

namespace Deployment

/-- Seats the instances of a deployment. -/
def slots (d : Deployment) (instances : List Instance) : SlotTable :=
  instances.foldl (SlotTable.seat d) {}

/-- An instance that was not written from the current template. -/
def isOutdated (d : Deployment) (i : Instance) : Bool :=
  match i.spec.control with
  | some c => c.templateHash != d.templateHash
  | none => true

/-- What a slot needs, if anything. -/
def slotAction (d : Deployment) (slot : Nat) : Option Instance → Except Error (Option Action)
  | none => do
    let owner ← d.requireOwner
    return some ⟨.create, d.newInstance slot owner, false⟩
  | some i =>
    if i.isDeleting || !i.isReady then .ok (some ⟨.wait, i, false⟩)
    else if d.isOutdated i then .ok (some ⟨.update, d.renewedInstance slot i, false⟩)
    else .ok none

/-- What the slots need, from the lowest up. -/
def slotActions (d : Deployment) (holder : Nat → Option Instance) :
    List Nat → Except Error (List Action)
  | [] => .ok []
  | slot :: rest => do
    let action ← d.slotAction slot (holder slot)
    let actions ← slotActions d holder rest
    return action.toList ++ actions

/-- Leaves all actions but the first for later. -/
def skipAllButFirst : List Action → List Action
  | [] => []
  | a :: rest => a :: rest.map Action.skip

/-- The actions in ascending order of slots. -/
def ascending (actions : List Action) : List Action :=
  actions.mergeSort fun a b => a.ordinal ≤ b.ordinal

/-- The actions in descending order of slots. -/
def descending (actions : List Action) : List Action :=
  actions.mergeSort fun a b => b.ordinal ≤ a.ordinal

/-- The plan that creates, renews and deletes in the order of slots. -/
def orderedPlan (d : Deployment) (instances : List Instance) : Except Error (List Action) := do
  let table := d.slots instances
  let actions ← d.slotActions table.holder (List.range d.slotCount)
  let upward := actions.filter (·.type ≠ .update)
  let updates := actions.filter (·.type = .update)
  let deletes := table.surplus.map fun i => (⟨.delete, i, false⟩ : Action)
  return skipAllButFirst (ascending upward ++ descending updates ++ descending deletes)

/-- All that is left to do to bring a deployment to its desired state, in order. -/
def plan (d : Deployment) (instances : List Instance) : Except Error (List Action) :=
  match d.spec.scale.policy with
  | .orderedReady => d.orderedPlan instances

end Deployment

end ControlPlane
