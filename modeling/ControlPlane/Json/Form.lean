import ControlPlane.Keyed
import ControlPlane.Json.Basic

/-!
# JSON forms of types

`JsonForm α` gives a type its JSON form and the way back, which fails on every value that is not a
form of the type. A record is encoded as the list of its members (`always`, `optional`, `unlessEmpty`)
and decoded member by member.

Two conventions meet in the data model. The orchestrator's own records (`required`, `maybe`,
`withDefault`) refuse a repeated member, take `null` for an absent value only where the value is
optional, and may also be written as the list of their leading members. The platform's records
(`lenient`, `lenientOr`) take `null` for an absent value everywhere, and the last of a repeated
member.

* `LawfulJsonForm`: decoding an encoded value gives the value back; no value is encoded as `null`.
-/

namespace ControlPlane

/-- Types with a JSON form. -/
class JsonForm (α : Type) where
  encode : α → Json
  decode : Json → Option α

export JsonForm (encode decode)

/-- No value is encoded as `null`, which stands for an absent one. -/
class PresentForm (α : Type) [JsonForm α] : Prop where
  encode_ne_null (a : α) : encode a ≠ .null

export PresentForm (encode_ne_null)

/-- Decoding undoes encoding. -/
class LawfulJsonForm (α : Type) [JsonForm α] : Prop extends PresentForm α where
  decode_encode (a : α) : decode (encode a) = some a

export LawfulJsonForm (decode_encode)

attribute [simp] decode_encode

/-! ## Scalars -/

instance : JsonForm String where
  encode := .str
  decode
    | .str s => some s
    | _ => none

instance : JsonForm Bool where
  encode := .bool
  decode
    | .bool b => some b
    | _ => none

instance : JsonForm Int32 where
  encode n := .int n.toInt
  decode
    | .int n => if -2147483648 ≤ n ∧ n < 2147483648 then some (Int32.ofInt n) else none
    | _ => none

instance : JsonForm Int64 where
  encode n := .int n.toInt
  decode
    | .int n => if -9223372036854775808 ≤ n ∧ n < 9223372036854775808 then some (Int64.ofInt n) else none
    | _ => none

instance : JsonForm UInt16 where
  encode n := .int n.toNat
  decode
    | .int n => if 0 ≤ n ∧ n < 65536 then some (UInt16.ofNat n.toNat) else none
    | _ => none

instance : JsonForm UInt32 where
  encode n := .int n.toNat
  decode
    | .int n => if 0 ≤ n ∧ n < 4294967296 then some (UInt32.ofNat n.toNat) else none
    | _ => none

instance : LawfulJsonForm String where
  decode_encode _ := rfl
  encode_ne_null _ := nofun

instance : LawfulJsonForm Bool where
  decode_encode _ := rfl
  encode_ne_null _ := nofun

instance : LawfulJsonForm Int32 where
  decode_encode n := by
    have := n.toInt_lt
    have := n.le_toInt
    simp only [encode, decode]
    rw [if_pos (by omega), Int32.ofInt_toInt]
  encode_ne_null _ := nofun

instance : LawfulJsonForm Int64 where
  decode_encode n := by
    have := n.toInt_lt
    have := n.le_toInt
    simp only [encode, decode]
    rw [if_pos (by omega), Int64.ofInt_toInt]
  encode_ne_null _ := nofun

/-! ## Lists and dictionaries -/

/-- Decodes every item of a list. -/
def decodeItems {α : Type} [JsonForm α] : List Json → Option (List α)
  | [] => some []
  | j :: rest => do
    let a ← decode j
    let as ← decodeItems rest
    return a :: as

/-- Decodes the value of every member. -/
def decodeMembers {α : Type} [JsonForm α] : List (String × Json) → Option (List (String × α))
  | [] => some []
  | (name, j) :: rest => do
    let a ← decode j
    let as ← decodeMembers rest
    return (name, a) :: as

instance {α : Type} [JsonForm α] : JsonForm (List α) where
  encode l := .arr (l.map encode)
  decode
    | .arr items => decodeItems items
    | _ => none

instance {α : Type} [JsonForm α] : JsonForm (Dict α) where
  encode d := .obj (d.toList.map fun e => (e.1, encode e.2))
  decode
    | .obj members => (decodeMembers members).map (Keyed.ofList Prod.fst)
    | _ => none

/-- A list is read back item by item, each as what it is read back as. -/
theorem decodeItems_map_encode {α : Type} [JsonForm α] {f : α → α} {l : List α}
    (h : ∀ a ∈ l, decode (encode a) = some (f a)) : decodeItems (l.map encode) = some (l.map f) := by
  induction l with
  | nil => rfl
  | cons a rest ih =>
    obtain ⟨ha, hr⟩ := List.forall_mem_cons.1 h
    simp [decodeItems, ha, ih hr]

theorem decodeMembers_map_encode {α : Type} [JsonForm α] [LawfulJsonForm α]
    (l : List (String × α)) : decodeMembers (l.map fun e => (e.1, encode e.2)) = some l := by
  induction l with
  | nil => rfl
  | cons a rest ih => simp [decodeMembers, ih]

instance {α : Type} [JsonForm α] [LawfulJsonForm α] : LawfulJsonForm (List α) where
  decode_encode l := by
    change decodeItems (l.map encode) = some l
    rw [decodeItems_map_encode (f := id) fun a _ => decode_encode a, List.map_id]
  encode_ne_null _ := nofun

instance {α : Type} [JsonForm α] [LawfulJsonForm α] : LawfulJsonForm (Dict α) where
  decode_encode d := by
    change (decodeMembers (d.toList.map fun e => (e.1, encode e.2))).map (Keyed.ofList Prod.fst) = some d
    rw [decodeMembers_map_encode, Option.map_some, Keyed.ofList_toList]
  encode_ne_null _ := nofun

/-! ## Records -/

/-- Decodes a value that may be `null`. -/
def decodeUnlessNull {α : Type} [JsonForm α] : Json → Option (Option α)
  | .null => some none
  | j => (decode j).map some

/-- The members of a record as a document gives them. -/
abbrev Members := List (String × Json)

namespace Members

/-- A member that is always written. -/
def always {α : Type} [JsonForm α] (name : String) (a : α) : Members :=
  [(name, encode a)]

/-- A member that is written when there is a value. -/
def optional {α : Type} [JsonForm α] (name : String) : Option α → Members
  | some a => [(name, encode a)]
  | none => []

/-- A list that is written when it has items. -/
def unlessEmpty {α : Type} [JsonForm α] (name : String) : List α → Members
  | [] => []
  | l => [(name, encode l)]

/-- A dictionary that is written when it has entries. -/
def unlessEmptyDict {α : Type} [JsonForm α] (name : String) (d : Dict α) : Members :=
  if d.isEmpty then [] else [(name, encode d)]

/-- A member that must be there. -/
def required {α : Type} [JsonForm α] (m : Members) (name : String) : Option α :=
  match Json.valuesOf name m with
  | [j] => decode j
  | _ => none

/-- A member that may be absent or `null`. -/
def maybe {α : Type} [JsonForm α] (m : Members) (name : String) : Option (Option α) :=
  match Json.valuesOf name m with
  | [] => some none
  | [j] => decodeUnlessNull j
  | _ => none

/-- A member that may be absent, but not `null`. -/
def withDefault {α : Type} [JsonForm α] (m : Members) (name : String) (default : α) : Option α :=
  match Json.valuesOf name m with
  | [] => some default
  | [j] => decode j
  | _ => none

/-- The last of the values of a member, which must all decode. -/
def lastOf {α : Type} [JsonForm α] : List Json → Option (Option α)
  | [] => some none
  | [j] => decodeUnlessNull j
  | j :: rest => do
    let _ : Option α ← decodeUnlessNull j
    lastOf rest

/-- A member of a platform record, absent when missing or `null`. -/
def lenient {α : Type} [JsonForm α] (m : Members) (name : String) : Option (Option α) :=
  lastOf (Json.valuesOf name m)

/-- A member of a platform record with a value to stand for an absent one. -/
def lenientOr {α : Type} [JsonForm α] (m : Members) (name : String) (default : α) : Option α :=
  (lenient m name).map (·.getD default)

@[simp] theorem valuesOf_always {α : Type} [JsonForm α] (name key : String) (a : α) :
    Json.valuesOf name (always key a) = if key = name then [encode a] else [] := by
  simp [always]

@[simp] theorem valuesOf_optional {α : Type} [JsonForm α] (name key : String) (a : Option α) :
    Json.valuesOf name (optional key a) = if key = name then (a.map encode).toList else [] := by
  cases a <;> simp [optional]

end Members

/-- The members of a record of the orchestrator's own, which may also be written as the list of
its leading members. -/
def Json.record? (names : List String) : Json → Option Members
  | .obj members => some members
  | .arr items => if items.length ≤ names.length then some (names.zip items) else none
  | _ => none

/-- The members of an object. -/
def Json.object? : Json → Option Members
  | .obj members => some members
  | _ => none

/-- The value of an enumeration: its name, or an object that binds the name to `null`. -/
def Json.variant? : Json → Option String
  | .str s => some s
  | .obj [(name, .null)] => some name
  | _ => none

end ControlPlane
