import ControlPlane.Proofs.Schema.RoundTrip

/-!
# The times that are read

A time that is read is one that the calendar reaches, and so are all times in a value that is read
(`inRange_of_decode`). What the calendar reaches is read back, so a status that was read can be written
and read again, whatever its times are.
-/

namespace ControlPlane

/-- Types whose values, when they are read, hold no time that the calendar does not reach. -/
class RangedForm (α : Type) [JsonForm α] [Dated α] : Prop where
  inRange_of_decode {j : Json} {a : α} (h : decode j = some a) : InRange a

export RangedForm (inRange_of_decode)

theorem inRange_instant_iff {t : Instant} : InRange t ↔ t.InRange := by
  simp [InRange, times]

instance : RangedForm Instant where
  inRange_of_decode {j t} h := by
    cases j with
    | str s => exact inRange_instant_iff.2 (Rfc3339.inRange_of_parse? h)
    | _ => cases h

/-! ## Lists and members -/

section

variable {α : Type} [Dated α]

theorem inRange_list_iff {l : List α} : InRange l ↔ ∀ a ∈ l, InRange a := by
  show (∀ t ∈ l.flatMap times, t.InRange) ↔ ∀ a ∈ l, ∀ t ∈ times a, t.InRange
  constructor
  · exact fun h a ha t ht => h t (List.mem_flatMap_of_mem ha ht)
  · intro h t ht
    obtain ⟨a, ha, hta⟩ := List.mem_flatMap.1 ht
    exact h a ha t hta

theorem inRange_none : InRange (none : Option α) :=
  nofun

theorem inRange_getD {o : Option α} {default : α} (h : InRange o) (hdefault : InRange default) :
    InRange (o.getD default) := by
  cases o with
  | none => exact hdefault
  | some a => exact h

variable [JsonForm α] [RangedForm α]

theorem inRange_of_decodeItems {items : List Json} {l : List α} (h : decodeItems items = some l) :
    InRange l := by
  refine inRange_list_iff.2 fun a ha => ?_
  obtain ⟨_, -, hread⟩ := exists_of_mem_decodeItems h ha
  exact inRange_of_decode hread

instance : RangedForm (List α) where
  inRange_of_decode {j l} h := by
    cases j with
    | arr items => exact inRange_of_decodeItems h
    | _ => cases h

namespace Members

theorem inRange_of_decodeUnlessNull {j : Json} {o : Option α} (h : decodeUnlessNull j = some o) :
    InRange o := by
  cases o with
  | none => exact inRange_none
  | some a =>
    have hrange : InRange a := inRange_of_decode (ne_null_of_decodeUnlessNull h).2
    exact hrange

theorem inRange_of_lastOf {values : List Json} {o : Option α} (h : lastOf values = some o) :
    InRange o := by
  cases o with
  | none => exact inRange_none
  | some a =>
    obtain ⟨_, -, -, hread⟩ := exists_of_lastOf h
    have hrange : InRange a := inRange_of_decode hread
    exact hrange

theorem inRange_of_maybeOf {values : List Json} {o : Option α} (h : maybeOf values = some o) :
    InRange o := by
  match values with
  | [] =>
    cases h
    exact inRange_none
  | [j] => exact inRange_of_decodeUnlessNull h

theorem inRange_of_defaultOf {default a : α} {values : List Json} (hdefault : InRange default)
    (h : defaultOf default values = some a) : InRange a := by
  match values with
  | [] =>
    cases h
    exact hdefault
  | [j] => exact inRange_of_decode h

end Members

end

/-! ## Conditions and statuses -/

open Members (inRange_of_lastOf inRange_of_maybeOf inRange_of_defaultOf)

instance : RangedForm Condition where
  inRange_of_decode {j c} h := by
    simp only [decode, Option.bind_eq_bind, Option.bind_eq_some_iff] at h
    obtain ⟨m, -, _, -, _, -, _, -, _, -, time, htime, t, rfl, _, -, heq⟩ := h
    cases heq
    have hrange : InRange (some t) := inRange_of_lastOf htime
    exact hrange

theorem inRange_conditions_iff {s : ConditionSet} : InRange s ↔ ∀ c ∈ s.toList, InRange c :=
  inRange_list_iff

instance : RangedForm ConditionSet where
  inRange_of_decode {j s} h := by
    obtain ⟨l, hl, rfl⟩ := Option.map_eq_some_iff.1 h
    refine inRange_conditions_iff.2 fun c hc => ?_
    exact inRange_list_iff.1 (inRange_of_decode hl) c (Keyed.mem_of_mem_ofList hc)

theorem inRange_empty : InRange (Keyed.empty : ConditionSet) :=
  nofun

instance : RangedForm InstanceStatus where
  inRange_of_decode {j s} h := by
    simp only [decode, Option.bind_eq_bind, Option.bind_eq_some_iff] at h
    obtain ⟨m, -, conditions, hconditions, _, -, _, -, heq⟩ := h
    cases heq
    have hrange : InRange conditions := inRange_of_defaultOf inRange_empty hconditions
    exact hrange

instance : RangedForm DeploymentStatus where
  inRange_of_decode {j s} h := by
    simp only [decode, Option.bind_eq_bind, Option.bind_eq_some_iff] at h
    obtain ⟨m, -, _, -, _, -, conditions, hconditions, _, -, _, -, _, -, _, -, heq⟩ := h
    cases heq
    have hrange : InRange conditions := inRange_of_defaultOf inRange_empty hconditions
    exact hrange

instance : RangedForm PlacementStatus where
  inRange_of_decode {j s} h := by
    simp only [decode, Option.bind_eq_bind, Option.bind_eq_some_iff] at h
    obtain ⟨m, -, _, -, conditions, hconditions, _, -, _, -, _, -, _, -, heq⟩ := h
    cases heq
    have hrange : InRange conditions := inRange_of_defaultOf inRange_empty hconditions
    exact hrange

instance : RangedForm GatewayStatus where
  inRange_of_decode {j s} h := by
    simp only [decode, Option.bind_eq_bind, Option.bind_eq_some_iff] at h
    obtain ⟨m, -, _, -, conditions, hconditions, heq⟩ := h
    cases heq
    have hrange : InRange conditions := inRange_of_defaultOf inRange_empty hconditions
    exact hrange

instance : RangedForm WorkloadStatus where
  inRange_of_decode {j s} h := by
    simp only [decode, Option.bind_eq_bind, Option.bind_eq_some_iff] at h
    obtain ⟨m, -, conditions, hconditions, _, -, _, -, _, -, _, -, placements, hplacements, gateway,
      hgateway, heq⟩ := h
    cases heq
    have hempty : InRange ([] : List PlacementStatus) := nofun
    have hrange : InRange conditions := inRange_of_defaultOf inRange_empty hconditions
    have hplacementRange : InRange placements := inRange_of_defaultOf hempty hplacements
    have hgatewayRange : InRange gateway := inRange_of_maybeOf hgateway
    exact List.forall_mem_append.2
      ⟨hrange, List.forall_mem_append.2 ⟨hplacementRange, hgatewayRange⟩⟩

end ControlPlane
