/-!
# JSON values

A value as a document spells it. Objects keep their members in the order written, repeated names
included. A number with a fraction or an exponent is kept as text: no field of the data model accepts
one, so it is never computed with.

A document may hold parts that are spelled by the rules and yet stand for no value. They are of no
consequence where nobody looks at them; `Json.isReadable` tells whether there are any.
-/

namespace ControlPlane

/-- A JSON value. -/
inductive Json where
  | null
  | bool (b : Bool)
  | int (n : Int)
  /-- The text of a number with a fraction or an exponent, of a whole one out of the range that is kept
  exactly, or of a negative zero. -/
  | decimal (text : String)
  | str (s : String)
  | arr (items : List Json)
  | obj (members : List (String × Json))
  /-- A part that stands for no value: a string with half a character, an object with such a name, a
  number that is too large, or what is nested too deeply. -/
  | unreadable
deriving Inhabited

namespace Json

/-- The values bound to `name`, in the order written. -/
def valuesOf (name : String) (members : List (String × Json)) : List Json :=
  (members.filter (·.1 == name)).map Prod.snd

/-- The member `name` of an object; the last one counts when the name is repeated. -/
def member? (name : String) : Json → Option Json
  | .obj members => (valuesOf name members).getLast?
  | _ => none

/-- The value at the end of a path of member names. -/
def path? : List String → Json → Option Json
  | [], j => some j
  | name :: rest, j => (j.member? name).bind (path? rest)

/-- Binds `name` to `v`: in place of the value it had, or after the other members. -/
def setMember (name : String) (v : Json) : List (String × Json) → List (String × Json)
  | [] => [(name, v)]
  | m :: rest => if m.1 = name then (name, v) :: rest else m :: setMember name v rest

/-- The object with `name` bound to `v`; a value that is no object is replaced by one. -/
def set (j : Json) (name : String) (v : Json) : Json :=
  match j with
  | .obj members => .obj (setMember name v members)
  | _ => .obj [(name, v)]

/-- The value with `v` at the end of a path, objects being made on the way where there are none. -/
def setPath (j : Json) (path : List String) (v : Json) : Json :=
  match path with
  | [] => v
  | name :: rest => j.set name (setPath ((j.member? name).getD .null) rest v)

/-- The text of a string value. -/
def text? : Json → Option String
  | .str s => some s
  | _ => none

@[simp] theorem valuesOf_nil (name : String) : valuesOf name [] = [] := rfl

@[simp] theorem valuesOf_append (name : String) (xs ys : List (String × Json)) :
    valuesOf name (xs ++ ys) = valuesOf name xs ++ valuesOf name ys := by
  simp [valuesOf]

@[simp] theorem valuesOf_cons (name key : String) (v : Json) (rest : List (String × Json)) :
    valuesOf name ((key, v) :: rest) =
      if key = name then v :: valuesOf name rest else valuesOf name rest := by
  by_cases h : key = name <;> simp [valuesOf, h]

mutual

/-- Whether every part stands for a value. -/
def isReadable : Json → Bool
  | .unreadable => false
  | .arr items => itemsReadable items
  | .obj members => membersReadable members
  | _ => true

def itemsReadable : List Json → Bool
  | [] => true
  | j :: rest => isReadable j && itemsReadable rest

def membersReadable : List (String × Json) → Bool
  | [] => true
  | (_, v) :: rest => isReadable v && membersReadable rest

end

mutual

/-- The value in which every object binds each name once, to the last value written for it. -/
def collapse : Json → Json
  | .arr items => .arr (collapseItems items)
  | .obj members => .obj (collapseMembers members)
  | j => j

def collapseItems : List Json → List Json
  | [] => []
  | j :: rest => collapse j :: collapseItems rest

def collapseMembers : List (String × Json) → List (String × Json)
  | [] => []
  | (name, v) :: rest =>
    let later := collapseMembers rest
    if later.any (·.1 == name) then later else (name, collapse v) :: later

end

mutual

/-- Whether two values are equal, as documents spell them. -/
def decEq (a b : Json) : Decidable (a = b) :=
  match a with
  | .null =>
    match b with
    | .null => isTrue rfl
    | .bool _ | .int _ | .decimal _ | .str _ | .arr _ | .obj _ | .unreadable => isFalse (by simp)
  | .bool x =>
    match b with
    | .bool y => decidable_of_iff (x = y) (by simp)
    | .null | .int _ | .decimal _ | .str _ | .arr _ | .obj _ | .unreadable => isFalse (by simp)
  | .int x =>
    match b with
    | .int y => decidable_of_iff (x = y) (by simp)
    | .null | .bool _ | .decimal _ | .str _ | .arr _ | .obj _ | .unreadable => isFalse (by simp)
  | .decimal x =>
    match b with
    | .decimal y => decidable_of_iff (x = y) (by simp)
    | .null | .bool _ | .int _ | .str _ | .arr _ | .obj _ | .unreadable => isFalse (by simp)
  | .str x =>
    match b with
    | .str y => decidable_of_iff (x = y) (by simp)
    | .null | .bool _ | .int _ | .decimal _ | .arr _ | .obj _ | .unreadable => isFalse (by simp)
  | .arr xs =>
    match b with
    | .arr ys => @decidable_of_iff _ (xs = ys) (by simp) (decEqItems xs ys)
    | .null | .bool _ | .int _ | .decimal _ | .str _ | .obj _ | .unreadable => isFalse (by simp)
  | .obj xs =>
    match b with
    | .obj ys => @decidable_of_iff _ (xs = ys) (by simp) (decEqMembers xs ys)
    | .null | .bool _ | .int _ | .decimal _ | .str _ | .arr _ | .unreadable => isFalse (by simp)
  | .unreadable =>
    match b with
    | .unreadable => isTrue rfl
    | .null | .bool _ | .int _ | .decimal _ | .str _ | .arr _ | .obj _ => isFalse (by simp)

def decEqItems : (xs ys : List Json) → Decidable (xs = ys)
  | [], [] => isTrue rfl
  | [], _ :: _ | _ :: _, [] => isFalse (by simp)
  | x :: xs, y :: ys =>
    match decEq x y, decEqItems xs ys with
    | isTrue h, isTrue hs => isTrue (by rw [h, hs])
    | isFalse h, _ => isFalse (by simp [h])
    | _, isFalse hs => isFalse (by simp [hs])

def decEqMembers : (xs ys : List (String × Json)) → Decidable (xs = ys)
  | [], [] => isTrue rfl
  | [], _ :: _ | _ :: _, [] => isFalse (by simp)
  | (n, x) :: xs, (m, y) :: ys =>
    match decEq x y, decEqMembers xs ys with
    | isTrue h, isTrue hs => decidable_of_iff (n = m) (by simp [h, hs])
    | isFalse h, _ => isFalse (by simp [h])
    | _, isFalse hs => isFalse (by simp [hs])

end

instance : DecidableEq Json := decEq

end Json

end ControlPlane
