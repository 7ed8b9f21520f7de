import ControlPlane.Meta.Condition
import ControlPlane.Proofs.Schema.Forms
import ControlPlane.Proofs.Time.Rfc3339

/-!
# Values with times in them

Times are written with whole seconds, so a value with times in it is not always read back as it was.
It is read back with its times cut to the second (`cut`), which is written the same way, and which is
the value itself when its times were whole seconds: these are the laws of `CutForm` and `LawfulDated`.
Each holds of a record because it holds of the members that have times in them; the other members are
read back as they were written.

There is one exception, in metadata. Whoever describes the fields that a manager has set by a bare `null`
writes what a reader takes for no description (`ObjectMeta.withoutNulls`). What was read has no such
description (`ObjectMeta.noNulls_of_decode`).
-/

namespace ControlPlane

/-- Types of values with times in them. -/
class Dated (α : Type) where
  /-- The times in a value. -/
  times : α → List Instant
  /-- The value with nothing finer than a second left of its times. -/
  cut : α → α

export Dated (times cut)

/-- The times in a value are of years that are written with four digits. -/
def InYears {α : Type} [Dated α] (a : α) : Prop :=
  ∀ t ∈ times a, t.InYears

/-- The calendar reaches the times in a value. -/
def InRange {α : Type} [Dated α] (a : α) : Prop :=
  ∀ t ∈ times a, t.InRange

/-- The times in a value are whole seconds. -/
def IsWhole {α : Type} [Dated α] (a : α) : Prop :=
  ∀ t ∈ times a, t.IsWhole

/-- What cutting the times of a value takes from it is not written anyway. -/
class CutForm (α : Type) [JsonForm α] [Dated α] : Prop extends PresentForm α where
  encode_cut (a : α) : encode (cut a) = encode a
  cut_eq_self {a : α} (h : IsWhole a) : cut a = a

export CutForm (encode_cut cut_eq_self)

/-- All that encoding loses is what is finer than a second. -/
class LawfulDated (α : Type) [JsonForm α] [Dated α] : Prop extends CutForm α where
  decode_encode_of_inRange {a : α} (h : InRange a) : decode (encode a) = some (cut a)

export LawfulDated (decode_encode_of_inRange)

attribute [simp] decode_encode_of_inRange encode_cut cut_eq_self

instance : Dated Instant := ⟨fun t => [t], Instant.cut⟩

instance : LawfulDated Instant where
  decode_encode_of_inRange {t} h := Rfc3339.parse?_text (h t List.mem_cons_self)
  encode_cut t := congrArg Json.str (Rfc3339.text_cut t)
  cut_eq_self {t} h := Instant.cut_eq_self (h t List.mem_cons_self)
  encode_ne_null _ := nofun

/-! ## Lists and members -/

section

variable {α : Type} [Dated α]

instance : Dated (Option α) := ⟨fun o => o.elim [] times, Option.map cut⟩

instance : Dated (List α) := ⟨fun l => l.flatMap times, List.map cut⟩

theorem inRange_of_mem {o : Option α} {a : α} (h : InRange o) (ha : a ∈ o) : InRange a := by
  cases ha
  exact h

variable [JsonForm α]

section

variable [CutForm α]

instance : CutForm (List α) where
  encode_cut l := by
    change Json.arr ((l.map cut).map encode) = .arr (l.map encode)
    simp
  cut_eq_self {l} h := by
    change l.map cut = l
    conv_rhs => rw [← List.map_id l]
    exact List.map_congr_left fun a ha =>
      cut_eq_self fun t ht => h t (List.mem_flatMap_of_mem ha ht)
  encode_ne_null _ := nofun

@[simp] theorem cut_option_eq_self {o : Option α} (h : IsWhole o) : cut o = o := by
  cases o with
  | none => rfl
  | some a => exact congrArg some (cut_eq_self h)

@[simp] theorem Members.always_cut (name : String) (a : α) : always name (cut a) = always name a := by
  rw [always, encode_cut, always]

@[simp] theorem Members.optional_cut (name : String) (o : Option α) :
    optional name (cut o) = optional name o := by
  cases o with
  | none => rfl
  | some a => exact always_cut name a

end

variable [LawfulDated α]

instance : LawfulDated (List α) where
  decode_encode_of_inRange h :=
    decodeItems_map_encode fun _ ha =>
      decode_encode_of_inRange fun t ht => h t (List.mem_flatMap_of_mem ha ht)

namespace Members

@[simp] theorem lastOf_encode_of_inRange {a : α} (h : InRange a) :
    lastOf [encode a] = some (some (cut a)) :=
  lastOf_encode_of_decode (decode_encode_of_inRange h)

@[simp] theorem lastOf_optional_of_inRange {o : Option α} (h : InRange o) :
    lastOf (o.map encode).toList = some (cut o) :=
  lastOf_map_encode fun _ ha => decode_encode_of_inRange (inRange_of_mem h ha)

@[simp] theorem maybeOf_optional_of_inRange {o : Option α} (h : InRange o) :
    maybeOf (o.map encode).toList = some (cut o) := by
  rw [maybeOf_toList, lastOf_optional_of_inRange h]

end Members

end

/-! ## Conditions -/

instance : Dated Condition where
  times c := times c.lastTransitionTime
  cut c := { c with lastTransitionTime := cut c.lastTransitionTime }

instance : LawfulDated Condition where
  decode_encode_of_inRange {c} h := by
    have ht : InRange c.lastTransitionTime := h
    unfold instJsonFormCondition instDatedCondition
    dsimp only [bind, Option.bind]
    simp [ht]
  encode_cut _ := by
    unfold instJsonFormCondition instDatedCondition
    simp
  cut_eq_self {c} h := by
    have ht : IsWhole c.lastTransitionTime := h
    unfold instDatedCondition
    simp [ht]
  encode_ne_null _ := nofun

/-- Cutting the times of conditions leaves their types, and with them the order they are filed in. -/
instance : Dated ConditionSet where
  times s := times s.toList
  cut s := ⟨cut s.toList, List.pairwise_map.2 s.ascending⟩

instance : LawfulDated ConditionSet where
  decode_encode_of_inRange {s} h := by
    have hl : decode (encode s.toList) = some (cut s.toList) := decode_encode_of_inRange h
    change (decode (encode s.toList)).map (Keyed.ofList Condition.type) = some (cut s)
    rw [hl, Option.map_some]
    exact congrArg some (Keyed.ofList_toList (cut s))
  encode_cut s := encode_cut s.toList
  cut_eq_self {s} h := Keyed.ext (cut_eq_self (a := s.toList) h)
  encode_ne_null _ := nofun

/-! ## Metadata -/

/-- The manager without a description of its fields that is a bare `null`. -/
def FieldManager.withoutNull (f : FieldManager) : FieldManager :=
  { f with fields := f.fields.filter fun d => d.description ≠ .null }

/-- The metadata without descriptions of fields that are a bare `null`. -/
def ObjectMeta.withoutNulls (o : ObjectMeta) : ObjectMeta :=
  { o with managedFields := o.managedFields.map fun l => l.map FieldManager.withoutNull }

/-- No manager's fields are described by a bare `null`. -/
def ObjectMeta.NoNulls (o : ObjectMeta) : Prop :=
  ∀ l ∈ o.managedFields, ∀ f ∈ l, ∀ d ∈ f.fields, d.description ≠ .null

theorem FieldManager.withoutNull_eq_self_iff {f : FieldManager} :
    f.withoutNull = f ↔ ∀ d ∈ f.fields, d.description ≠ .null := by
  have hfields : f.withoutNull = f ↔
      (f.fields.filter fun d => decide (d.description ≠ .null)) = f.fields :=
    ⟨congrArg FieldManager.fields, fun h => by rw [withoutNull, h]⟩
  rw [hfields]
  cases f.fields with
  | none => simp
  | some d => by_cases hd : d.description = .null <;> simp [Option.filter, hd]

theorem ObjectMeta.withoutNulls_eq_self_iff {o : ObjectMeta} : o.withoutNulls = o ↔ o.NoNulls := by
  have hmanagers : o.withoutNulls = o ↔
      (o.managedFields.map fun l => l.map FieldManager.withoutNull) = o.managedFields :=
    ⟨congrArg ObjectMeta.managedFields, fun h => by rw [withoutNulls, h]⟩
  rw [hmanagers, NoNulls]
  cases o.managedFields with
  | none => simp
  | some l =>
    simp only [Option.map_some, Option.some.injEq, Option.mem_some_iff, forall_eq',
      ← FieldManager.withoutNull_eq_self_iff]
    simpa using @List.map_inj_left _ _ l FieldManager.withoutNull id

/-- A description that is a bare `null` is read as none. -/
theorem Members.lastOf_description (o : Option ManagedFields) :
    lastOf (o.map encode).toList = some (o.filter fun d => d.description ≠ .null) := by
  cases o with
  | none => rfl
  | some d =>
    by_cases hd : d.description = .null
    · rw [Option.filter_some_neg (by simpa using hd)]
      change decodeUnlessNull d.description = _
      rw [hd]
      rfl
    · have hencode : encode d ≠ .null := hd
      rw [Option.filter_some_pos (by simpa using hd)]
      change decodeUnlessNull (encode d) = _
      rw [decodeUnlessNull_of_ne_null hencode, d.decode_encode, Option.map_some]

instance : Dated FieldManager where
  times f := times f.time
  cut f := { f with time := cut f.time }

instance : CutForm FieldManager where
  encode_cut _ := by
    unfold instJsonFormFieldManager instDatedFieldManager
    simp
  cut_eq_self {f} h := by
    have ht : IsWhole f.time := h
    unfold instDatedFieldManager
    simp [ht]
  encode_ne_null _ := nofun

theorem FieldManager.decode_encode {f : FieldManager} (h : InRange f) :
    decode (encode f) = some (cut f).withoutNull := by
  have ht : InRange f.time := h
  unfold instJsonFormFieldManager instDatedFieldManager
  dsimp only [bind, Option.bind]
  simp [ht, Members.lastOf_description, withoutNull]

theorem Members.lastOf_managers {o : Option (List FieldManager)} (h : InRange o) :
    lastOf (o.map encode).toList = some ((cut o).map fun l => l.map FieldManager.withoutNull) := by
  have hread : ∀ l ∈ o, decode (encode l) = some (l.map fun f => (cut f).withoutNull) := by
    intro l hl
    exact decodeItems_map_encode fun f hf => FieldManager.decode_encode fun t ht =>
      inRange_of_mem h hl t (List.mem_flatMap_of_mem hf ht)
  rw [lastOf_map_encode hread]
  cases o with
  | none => rfl
  | some l =>
    change some (some (l.map fun f => (cut f).withoutNull)) =
      some (some ((l.map cut).map FieldManager.withoutNull))
    rw [List.map_map]
    rfl

instance : Dated ObjectMeta where
  times o := times o.creationTimestamp ++ (times o.deletionTimestamp ++ times o.managedFields)
  cut o := { o with
    creationTimestamp := cut o.creationTimestamp
    deletionTimestamp := cut o.deletionTimestamp
    managedFields := cut o.managedFields }

instance : CutForm ObjectMeta where
  encode_cut _ := by
    unfold instJsonFormObjectMeta instDatedObjectMeta
    simp
  cut_eq_self {o} h := by
    obtain ⟨hc, h⟩ : IsWhole o.creationTimestamp ∧ _ := List.forall_mem_append.1 h
    obtain ⟨hd, hm⟩ : IsWhole o.deletionTimestamp ∧ IsWhole o.managedFields :=
      List.forall_mem_append.1 h
    unfold instDatedObjectMeta
    simp [hc, hd, hm]
  encode_ne_null _ := nofun

theorem ObjectMeta.decode_encode {o : ObjectMeta} (h : InRange o) :
    decode (encode o) = some (cut o).withoutNulls := by
  obtain ⟨hc, h⟩ : InRange o.creationTimestamp ∧ _ := List.forall_mem_append.1 h
  obtain ⟨hd, hm⟩ : InRange o.deletionTimestamp ∧ InRange o.managedFields :=
    List.forall_mem_append.1 h
  unfold instJsonFormObjectMeta instDatedObjectMeta
  dsimp only [bind, Option.bind]
  simp [hc, hd, Members.lastOf_managers hm, withoutNulls]

/-- Cutting its times leaves the descriptions of metadata. -/
theorem ObjectMeta.noNulls_cut {o : ObjectMeta} (h : o.NoNulls) : (cut o).NoNulls := by
  intro l hl f hf
  obtain ⟨l', hl', rfl⟩ := Option.map_eq_some_iff.1 hl
  obtain ⟨f', hf', rfl⟩ := List.mem_map.1 hf
  exact h l' hl' f' hf'

theorem FieldManager.ne_null_of_decode {j : Json} {f : FieldManager} {d : ManagedFields}
    (h : decode j = some f) (hd : f.fields = some d) : d.description ≠ .null := by
  simp only [decode, Option.bind_eq_bind, Option.bind_eq_some_iff] at h
  obtain ⟨m, -, _, -, _, -, fields, hfields, _, -, _, -, _, -, _, -, heq⟩ := h
  cases heq
  cases hd
  obtain ⟨k, -, hk, hread⟩ := Members.exists_of_lastOf hfields
  simp only [decode] at hread
  split at hread
  · cases hread
    exact Json.canonical_ne_null hk
  · cases hread

/-- Metadata that is read has no description that is a bare `null`. -/
theorem ObjectMeta.noNulls_of_decode {j : Json} {o : ObjectMeta} (h : decode j = some o) :
    o.NoNulls := by
  -- the members that are read before the managers, and those after them
  iterate 9 obtain ⟨_, -, h⟩ := Option.bind_eq_some_iff.1 h
  obtain ⟨managers, hmanagers, h⟩ := Option.bind_eq_some_iff.1 h
  iterate 6 obtain ⟨_, -, h⟩ := Option.bind_eq_some_iff.1 h
  cases h
  intro l hl f hf d hd
  cases hl
  obtain ⟨k, -, -, hread⟩ := Members.exists_of_lastOf hmanagers
  cases k with
  | arr items =>
    obtain ⟨i, -, hi⟩ := exists_of_mem_decodeItems hread hf
    exact FieldManager.ne_null_of_decode hi hd
  | _ => cases hread

/-! ## Resources -/

@[simp] theorem resourceMembers?_obj (m : Members) : resourceMembers? (.obj m) = some m := rfl

section

variable {Spec Status : Type}

/-- The resource without descriptions of managed fields that are a bare `null`. -/
def Resource.withoutNulls (r : Resource Spec Status) : Resource Spec Status :=
  { r with metadata := r.metadata.withoutNulls }

theorem Resource.withoutNulls_eq_self_iff {r : Resource Spec Status} :
    r.withoutNulls = r ↔ r.metadata.NoNulls := by
  rw [← ObjectMeta.withoutNulls_eq_self_iff]
  exact ⟨congrArg Resource.metadata, fun h => by rw [withoutNulls, h]⟩

variable [JsonForm Spec] [JsonForm Status] [OfKind (Resource Spec Status)]

theorem Resource.noNulls_of_decode {j : Json} {r : Resource Spec Status} (h : decode j = some r) :
    r.metadata.NoNulls := by
  simp only [decode, Option.bind_eq_bind, Option.bind_eq_some_iff] at h
  obtain ⟨m, -, metadata, hmetadata, _, -, _, -, heq⟩ := h
  cases heq
  rw [Members.required] at hmetadata
  split at hmetadata
  · exact ObjectMeta.noNulls_of_decode hmetadata
  · cases hmetadata

variable [Dated Status]

instance : Dated (Resource Spec Status) where
  times r := times r.metadata ++ times r.status
  cut r := { r with metadata := cut r.metadata, status := cut r.status }

variable [LawfulJsonForm Spec] [LawfulDated Status]

instance : CutForm (Resource Spec Status) where
  encode_cut _ := by
    unfold instJsonFormResourceOfOfKind instDatedResource
    simp
  cut_eq_self {r} h := by
    obtain ⟨hm, hs⟩ : IsWhole r.metadata ∧ IsWhole r.status := List.forall_mem_append.1 h
    unfold instDatedResource
    simp [hm, hs]
  encode_ne_null _ := nofun

/-- A resource is read back with its times cut to the second, and without descriptions that are a
bare `null`. -/
theorem Resource.decode_encode {r : Resource Spec Status} (h : InRange r) :
    decode (encode r) = some (cut r).withoutNulls := by
  obtain ⟨hm, hs⟩ : InRange r.metadata ∧ InRange r.status := List.forall_mem_append.1 h
  unfold instJsonFormResourceOfOfKind instDatedResource
  dsimp only [bind, Option.bind]
  simp [ObjectMeta.decode_encode hm, hs, withoutNulls]

end

end ControlPlane
