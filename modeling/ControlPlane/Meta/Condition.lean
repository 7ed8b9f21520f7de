import ControlPlane.Meta.ObjectMeta

/-!
# Status conditions

A condition says how an object stands in one respect, named by its type. An object's conditions form
a `ConditionSet`, one condition to a type. `ConditionSet.set` files a new observation: the time of
the last transition moves only when the status changes.
-/

namespace ControlPlane

/-- How an object stands in one respect. -/
structure Condition where
  type : String
  status : String
  reason : String
  message : String
  lastTransitionTime : Instant
  observedGeneration : Option Int64 := none
deriving DecidableEq

instance : JsonForm Condition where
  encode c := .obj <|
    Members.always "lastTransitionTime" c.lastTransitionTime ++
    Members.always "message" c.message ++
    Members.optional "observedGeneration" c.observedGeneration ++
    Members.always "reason" c.reason ++
    Members.always "status" c.status ++
    Members.always "type" c.type
  decode j := do
    let m ← j.object?
    return {
      type := ← m.lenientOr "type" ""
      status := ← m.lenientOr "status" ""
      reason := ← m.lenientOr "reason" ""
      message := ← m.lenientOr "message" ""
      lastTransitionTime := ← (← m.lenient "lastTransitionTime")
      observedGeneration := ← m.lenient "observedGeneration" }

namespace Condition

/-- The status of a condition that holds. -/
def holds : String := "True"

/-- The status of a condition that does not hold. -/
def fails : String := "False"

/-- The status of a condition nothing is known about. -/
def unknown : String := "Unknown"

/-- The type of the condition that workloads, placements and deployments serve. -/
def available : String := "Available"

/-- The type of the condition that an instance, or a link of the network chain, is ready. -/
def ready : String := "Ready"

/-- The type of the condition that the runtime has taken an instance over. -/
def programmed : String := "Programmed"

/-- The type of the condition that an instance runs. -/
def running : String := "Running"

end Condition

/-- Conditions filed under their types. -/
abbrev ConditionSet := Keyed Condition.type

namespace ConditionSet

/-- The condition of a type holds. -/
def isTrue (s : ConditionSet) (type : String) : Bool :=
  match s.get? type with
  | some c => c.status == Condition.holds
  | none => false

/-- A condition holds when one is filed under its type with the status `True`. -/
theorem isTrue_iff {s : ConditionSet} {type : String} :
    s.isTrue type = true ↔ ∃ c ∈ s, c.type = type ∧ c.status = Condition.holds := by
  unfold isTrue
  constructor
  · intro h
    split at h
    · next c hc =>
      obtain ⟨hmem, htype⟩ := Keyed.get?_eq_some_iff.1 hc
      exact ⟨c, hmem, htype, beq_iff_eq.1 h⟩
    · cases h
  · rintro ⟨c, hmem, htype, hstatus⟩
    rw [Keyed.get?_eq_some_iff.2 ⟨hmem, htype⟩]
    exact beq_iff_eq.2 hstatus

/-- Files an observation, and tells whether that changed the set. With the status unchanged the
condition keeps the time of its last transition. -/
def set (s : ConditionSet) (new : Condition) : ConditionSet × Bool :=
  match s.get? new.type with
  | none => (s.insert new, true)
  | some old =>
    if old.status ≠ new.status then (s.insert new, true)
    else
      let kept := { old with
        reason := new.reason
        message := new.message
        observedGeneration := new.observedGeneration }
      (s.insert kept,
        old.reason != new.reason || old.message != new.message ||
          old.observedGeneration != new.observedGeneration)

/-- After filing, the condition holds exactly when it was filed as holding. -/
theorem isTrue_set (s : ConditionSet) (c : Condition) :
    (s.set c).1.isTrue c.type = (c.status == Condition.holds) := by
  unfold set
  cases hs : s.get? c.type with
  | none => simp [isTrue, Keyed.get?_insert]
  | some old =>
    have ht : old.type = c.type := (Keyed.get?_eq_some_iff.1 hs).2
    simp only
    by_cases h : old.status = c.status
    · rw [if_neg (not_not_intro h)]
      simp [isTrue, Keyed.get?_insert, ht, h]
    · rw [if_pos h]
      simp [isTrue, Keyed.get?_insert]

end ConditionSet

instance : JsonForm ConditionSet where
  encode s := encode s.toList
  decode j := (decode j).map (Keyed.ofList Condition.type)

end ControlPlane
