import ControlPlane.Keyed
import ControlPlane.Json.Basic
import ControlPlane.Text.Digits

/-!
# Compact JSON text

`Json.render` writes a value without blanks. In a string, quotes, backslashes and the controls below
U+0020 are escaped, five of the controls by a letter and the others by four hexadecimal digits;
every other character stands for itself. A part that stands for no value is written as `null`.

`Json.canonical` sorts the members of every object by name, so that values which differ only in the
order of their members have one text.

* `canonical_canonical`, `isReadable_canonical`: sorting twice is sorting once, and what is sorted can
  be read as well as before.
-/

namespace ControlPlane.Json

/-- A character as it stands between the quotes of a string. -/
def escapeChar (c : Char) : List Char :=
  if c = '"' then ['\\', '"']
  else if c = '\\' then ['\\', '\\']
  else if c = '\x08' then ['\\', 'b']
  else if c = '\t' then ['\\', 't']
  else if c = '\n' then ['\\', 'n']
  else if c = '\x0c' then ['\\', 'f']
  else if c = '\r' then ['\\', 'r']
  else if c.toNat < 32 then
    ['\\', 'u', '0', '0', Text.hexDigit (c.toNat / 16), Text.hexDigit (c.toNat % 16)]
  else [c]

/-- A string with its quotes. -/
def quote (s : String) : List Char :=
  '"' :: s.toList.flatMap escapeChar ++ ['"']

mutual

/-- The text of a value. -/
def chars : Json → List Char
  | .null | .unreadable => ['n', 'u', 'l', 'l']
  | .bool true => ['t', 'r', 'u', 'e']
  | .bool false => ['f', 'a', 'l', 's', 'e']
  | .int n => n.repr.toList
  | .decimal text => text.toList
  | .str s => quote s
  | .arr items => '[' :: itemChars items ++ [']']
  | .obj members => '{' :: memberChars members ++ ['}']

/-- Items with commas between them. -/
def itemChars : List Json → List Char
  | [] => []
  | [j] => chars j
  | j :: rest => chars j ++ ',' :: itemChars rest

/-- Members with commas between them. -/
def memberChars : List (String × Json) → List Char
  | [] => []
  | [(name, v)] => quote name ++ ':' :: chars v
  | (name, v) :: rest => quote name ++ ':' :: chars v ++ ',' :: memberChars rest

end

/-- The compact text of a value. -/
def render (j : Json) : String :=
  String.ofList (chars j)

mutual

/-- The value with the members of every object in ascending order of their names. -/
def canonical : Json → Json
  | .arr items => .arr (canonicalItems items)
  | .obj members => .obj (Keyed.ofList Prod.fst (canonicalMembers members)).toList
  | j => j

def canonicalItems : List Json → List Json
  | [] => []
  | j :: rest => canonical j :: canonicalItems rest

def canonicalMembers : List (String × Json) → List (String × Json)
  | [] => []
  | (name, v) :: rest => (name, canonical v) :: canonicalMembers rest

end

theorem canonical_ne_null {j : Json} (h : j ≠ .null) : j.canonical ≠ .null := by
  cases j <;> first | exact h | nofun

theorem canonicalMembers_eq_map (members : List (String × Json)) :
    canonicalMembers members = members.map fun m => (m.1, m.2.canonical) := by
  induction members with
  | nil => rfl
  | cons m rest ih => rw [canonicalMembers, ih, List.map_cons]

theorem canonicalMembers_eq_self {members : List (String × Json)}
    (h : ∀ m ∈ members, canonical m.2 = m.2) : canonicalMembers members = members := by
  induction members with
  | nil => rfl
  | cons m rest ih =>
    rw [canonicalMembers, h m List.mem_cons_self, ih fun x hx => h x (List.mem_cons_of_mem m hx)]

mutual

/-- A sorted value is not changed by sorting. -/
theorem canonical_canonical (j : Json) : canonical (canonical j) = canonical j := by
  cases j with
  | arr items => rw [canonical, canonical, canonicalItems_canonicalItems]
  | obj members =>
    rw [canonical, canonical, canonicalMembers_eq_self fun m hm =>
      canonical_of_mem members m (Keyed.mem_of_mem_ofList hm), Keyed.ofList_toList]
  | _ => rfl

theorem canonicalItems_canonicalItems (items : List Json) :
    canonicalItems (canonicalItems items) = canonicalItems items := by
  cases items with
  | nil => rfl
  | cons j rest =>
    rw [canonicalItems, canonicalItems, canonical_canonical j, canonicalItems_canonicalItems rest]

theorem canonical_of_mem (members : List (String × Json)) :
    ∀ m ∈ canonicalMembers members, canonical m.2 = m.2 := by
  cases members with
  | nil => simp [canonicalMembers]
  | cons m rest =>
    intro x hx
    rcases List.mem_cons.1 hx with rfl | hx
    · exact canonical_canonical m.2
    · exact canonical_of_mem rest x hx

end

theorem membersReadable_iff {members : List (String × Json)} :
    membersReadable members = true ↔ ∀ m ∈ members, m.2.isReadable = true := by
  induction members with
  | nil => simp [membersReadable]
  | cons m rest ih => simp [membersReadable, ih]

mutual

/-- Sorting loses no part that can be read. -/
theorem isReadable_canonical (j : Json) (h : j.isReadable = true) :
    j.canonical.isReadable = true := by
  cases j with
  | arr items => exact itemsReadable_canonicalItems items h
  | obj members =>
    exact membersReadable_iff.2 fun m hm =>
      isReadable_of_mem members h m (Keyed.mem_of_mem_ofList hm)
  | _ => exact h

theorem itemsReadable_canonicalItems (items : List Json) (h : itemsReadable items = true) :
    itemsReadable (canonicalItems items) = true := by
  cases items with
  | nil => rfl
  | cons j rest =>
    rw [itemsReadable, Bool.and_eq_true] at h
    rw [canonicalItems, itemsReadable, isReadable_canonical j h.1,
      itemsReadable_canonicalItems rest h.2, Bool.and_self]

theorem isReadable_of_mem (members : List (String × Json)) (h : membersReadable members = true) :
    ∀ m ∈ canonicalMembers members, m.2.isReadable = true := by
  cases members with
  | nil => simp [canonicalMembers]
  | cons m rest =>
    rw [membersReadable, Bool.and_eq_true] at h
    intro x hx
    rcases List.mem_cons.1 hx with rfl | hx
    · exact isReadable_canonical m.2 h.1
    · exact isReadable_of_mem rest h.2 x hx

end

end ControlPlane.Json
