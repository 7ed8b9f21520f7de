import ControlPlane.Json.Form

/-!
# Records read back

A record is read member by member from the values that its members' names are bound to. For each way
of reading a member this module says what it makes of those values, and for each way of writing one
what the values are; a record's own round trip is then simplification.

* `Members.lastOf_optional`, `Members.maybeOf_optional`: a member that may be absent is read as absent
  exactly when it was omitted.
* `Members.defaultOf_unlessEmpty`, `Members.defaultOf_unlessEmptyDict`: a collection that is omitted
  when it is empty is read as the empty one.
* `ReadableForm`: types whose values are written with readable parts only.
-/

namespace ControlPlane

variable {α : Type} [JsonForm α]

@[simp] theorem Json.record?_obj (names : List String) (m : Members) :
    (Json.obj m).record? names = some m := rfl

@[simp] theorem Json.object?_obj (m : Members) : (Json.obj m).object? = some m := rfl

theorem decodeUnlessNull_of_ne_null {j : Json} (h : j ≠ .null) :
    decodeUnlessNull j = (decode j : Option α).map some := by
  cases j <;> first | rfl | exact absurd rfl h

/-- A value that is there was not read from a `null`. -/
theorem ne_null_of_decodeUnlessNull {j : Json} {a : α} (h : decodeUnlessNull j = some (some a)) :
    j ≠ .null ∧ decode j = some a := by
  by_cases hj : j = .null
  · subst hj
    cases h
  · rw [decodeUnlessNull_of_ne_null hj] at h
    obtain ⟨b, hb, heq⟩ := Option.map_eq_some_iff.1 h
    cases heq
    exact ⟨hj, hb⟩

/-- Every item of a list was read from one. -/
theorem exists_of_mem_decodeItems {items : List Json} {l : List α} {a : α}
    (h : decodeItems items = some l) (ha : a ∈ l) : ∃ j ∈ items, decode j = some a := by
  induction items generalizing l with
  | nil =>
    cases h
    cases ha
  | cons j rest ih =>
    obtain ⟨b, hb, h⟩ := Option.bind_eq_some_iff.1 h
    obtain ⟨bs, hbs, h⟩ := Option.bind_eq_some_iff.1 h
    cases h
    rcases List.mem_cons.1 ha with rfl | ha
    · exact ⟨j, List.mem_cons_self, hb⟩
    · obtain ⟨k, hk, hread⟩ := ih hbs ha
      exact ⟨k, List.mem_cons_of_mem j hk, hread⟩

namespace Members

/-! ## Reading -/

/-- Decodes the value of a member that must be there. -/
def onlyOf : List Json → Option α
  | [j] => decode j
  | _ => none

/-- Decodes the value of a member that may be absent or `null`. -/
def maybeOf : List Json → Option (Option α)
  | [] => some none
  | [j] => decodeUnlessNull j
  | _ => none

/-- Decodes the value of a member that may be absent, but not `null`. -/
def defaultOf (default : α) : List Json → Option α
  | [] => some default
  | [j] => decode j
  | _ => none

@[simp] theorem required_eq (m : Members) (name : String) :
    (m.required name : Option α) = onlyOf (Json.valuesOf name m) := rfl

@[simp] theorem maybe_eq (m : Members) (name : String) :
    (m.maybe name : Option (Option α)) = maybeOf (Json.valuesOf name m) := rfl

@[simp] theorem withDefault_eq (m : Members) (name : String) (default : α) :
    m.withDefault name default = defaultOf default (Json.valuesOf name m) := rfl

@[simp] theorem lenient_eq (m : Members) (name : String) :
    (m.lenient name : Option (Option α)) = lastOf (Json.valuesOf name m) := rfl

@[simp] theorem lenientOr_eq (m : Members) (name : String) (default : α) :
    m.lenientOr name default = (lastOf (Json.valuesOf name m)).map (·.getD default) := rfl

/-- What a member of a platform record is read as was read from one of its values. -/
theorem exists_of_lastOf {values : List Json} {a : α} (h : lastOf values = some (some a)) :
    ∃ j ∈ values, j ≠ .null ∧ decode j = some a := by
  induction values with
  | nil => cases h
  | cons j rest ih =>
    cases rest with
    | nil => exact ⟨j, List.mem_cons_self, ne_null_of_decodeUnlessNull h⟩
    | cons j' rest =>
      obtain ⟨_, -, h⟩ := Option.bind_eq_some_iff.1 h
      obtain ⟨k, hk, hread⟩ := ih h
      exact ⟨k, List.mem_cons_of_mem j hk, hread⟩

@[simp] theorem onlyOf_singleton (j : Json) : (onlyOf [j] : Option α) = decode j := rfl

@[simp] theorem defaultOf_singleton (default : α) (j : Json) :
    defaultOf default [j] = decode j := rfl

/-! ## Reading what was written -/

@[simp] theorem valuesOf_unlessEmpty (name key : String) (l : List α) :
    Json.valuesOf name (unlessEmpty key l) =
      if key = name then if l = [] then [] else [encode l] else [] := by
  cases l <;> simp [unlessEmpty]

@[simp] theorem valuesOf_unlessEmptyDict (name key : String) (d : Dict α) :
    Json.valuesOf name (unlessEmptyDict key d) =
      if key = name then if d.isEmpty then [] else [encode d] else [] := by
  unfold unlessEmptyDict
  split <;> simp

section

variable [PresentForm α]

/-- A member that is there is never taken for an absent one, whatever it is read back as. -/
theorem lastOf_encode_of_decode {a b : α} (h : decode (encode a) = some b) :
    lastOf [encode a] = some (some b) := by
  change decodeUnlessNull (encode a) = _
  rw [decodeUnlessNull_of_ne_null (encode_ne_null a), h, Option.map_some]

theorem lastOf_map_encode {f : α → α} {o : Option α}
    (h : ∀ a ∈ o, decode (encode a) = some (f a)) :
    lastOf (o.map encode).toList = some (o.map f) := by
  cases o with
  | none => rfl
  | some a => exact lastOf_encode_of_decode (h a rfl)

end

/-- A member that stands at most once is read the same way under both conventions. -/
theorem maybeOf_toList (o : Option Json) :
    (maybeOf o.toList : Option (Option α)) = lastOf o.toList := by
  cases o <;> rfl

variable [LawfulJsonForm α]

@[simp] theorem lastOf_encode (a : α) : lastOf [encode a] = some (some a) :=
  lastOf_encode_of_decode (decode_encode a)

@[simp] theorem lastOf_optional (o : Option α) : lastOf (o.map encode).toList = some o := by
  rw [lastOf_map_encode (f := id) fun a _ => decode_encode a, Option.map_id_fun, id]

@[simp] theorem maybeOf_optional (o : Option α) : maybeOf (o.map encode).toList = some o := by
  rw [maybeOf_toList, lastOf_optional]

@[simp] theorem defaultOf_unlessEmpty (l : List α) :
    defaultOf [] (if l = [] then [] else [encode l]) = some l := by
  split
  · next h => rw [h]; rfl
  · exact decode_encode l

@[simp] theorem defaultOf_unlessEmptyDict (d : Dict α) :
    defaultOf .empty (if d.isEmpty then [] else [encode d]) = some d := by
  split
  · next h =>
    have hd : d = .empty := Keyed.ext (List.isEmpty_iff.1 h)
    rw [hd]
    rfl
  · exact decode_encode d

end Members

/-! ## Readable forms -/

/-- Every part of an encoded value stands for a value. -/
class ReadableForm (α : Type) [JsonForm α] : Prop where
  isReadable_encode (a : α) : (encode a).isReadable = true

export ReadableForm (isReadable_encode)

attribute [simp] isReadable_encode

instance : ReadableForm String := ⟨fun _ => rfl⟩

instance : ReadableForm Bool := ⟨fun _ => rfl⟩

instance : ReadableForm Int32 := ⟨fun _ => rfl⟩

@[simp] theorem Json.isReadable_obj (m : Members) :
    (Json.obj m).isReadable = membersReadable m := by
  rw [isReadable]

@[simp] theorem Json.membersReadable_append (m n : Members) :
    membersReadable (m ++ n) = (membersReadable m && membersReadable n) := by
  induction m with
  | nil => simp [membersReadable]
  | cons e rest ih => simp [membersReadable, ih, Bool.and_assoc]

section

variable [ReadableForm α]

instance : ReadableForm (List α) where
  isReadable_encode l := by
    change Json.isReadable (.arr (l.map encode)) = true
    rw [Json.isReadable]
    induction l with
    | nil => rfl
    | cons a rest ih => simp [Json.itemsReadable, ih]

instance : ReadableForm (Dict α) where
  isReadable_encode d := by
    change Json.isReadable (.obj (d.toList.map fun e => (e.1, encode e.2))) = true
    rw [Json.isReadable_obj]
    induction d.toList with
    | nil => rfl
    | cons e rest ih => simp [Json.membersReadable, ih]

namespace Members

@[simp] theorem membersReadable_always (name : String) (a : α) :
    Json.membersReadable (always name a) = true := by
  simp [always, Json.membersReadable]

@[simp] theorem membersReadable_optional (name : String) (o : Option α) :
    Json.membersReadable (optional name o) = true := by
  cases o <;> simp [optional, Json.membersReadable]

@[simp] theorem membersReadable_unlessEmptyDict (name : String) (d : Dict α) :
    Json.membersReadable (unlessEmptyDict name d) = true := by
  unfold unlessEmptyDict
  split <;> simp [Json.membersReadable]

end Members

end

end ControlPlane
