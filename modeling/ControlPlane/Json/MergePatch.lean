import ControlPlane.Json.Basic

/-!
# Merge patches

A merge patch describes a change to a value by example (RFC 7386): a member of the patch replaces
the member of that name, `null` removes it, objects are merged member by member, and what the patch
does not name stays as it is (`valuesOf_mergeMembers_of_ne`).
-/

namespace ControlPlane.Json

/-- The members without those named `name`. -/
def dropMember (name : String) (members : List (String × Json)) : List (String × Json) :=
  members.filter (·.1 != name)

/-- The members of an object; any other value has none. -/
def membersOrNone : Json → List (String × Json)
  | .obj members => members
  | _ => []

mutual

/-- `target` changed as `patch` says. -/
def mergePatch (patch target : Json) : Json :=
  match patch with
  | .obj changes => .obj (mergeMembers changes target.membersOrNone)
  | .null => .null
  | .bool b => .bool b
  | .int n => .int n
  | .decimal text => .decimal text
  | .str s => .str s
  | .arr items => .arr items
  | .unreadable => .unreadable

/-- The members of an object changed as the members of a patch say, one after another. -/
def mergeMembers (changes : List (String × Json)) (target : List (String × Json)) :
    List (String × Json) :=
  match changes with
  | [] => target
  | (name, .null) :: rest => mergeMembers rest (dropMember name target)
  | (name, v) :: rest =>
    mergeMembers rest
      (setMember name (mergePatch v (((valuesOf name target).getLast?).getD .null)) target)

end

variable {key name : String}

theorem valuesOf_dropMember_of_ne (h : key ≠ name) (members : List (String × Json)) :
    valuesOf name (dropMember key members) = valuesOf name members := by
  induction members with
  | nil => rfl
  | cons m rest ih =>
    obtain ⟨k, v⟩ := m
    rw [valuesOf_cons, ← ih, dropMember, List.filter_cons]
    by_cases hk : k = key
    · subst hk
      simp [h, dropMember]
    · simp [hk, dropMember]

theorem valuesOf_setMember_of_ne (h : key ≠ name) (v : Json) (members : List (String × Json)) :
    valuesOf name (setMember key v members) = valuesOf name members := by
  induction members with
  | nil => simp [setMember, h]
  | cons m rest ih =>
    obtain ⟨k, u⟩ := m
    rw [setMember]
    split
    · next hk =>
      have hname : k ≠ name := fun e => h (Eq.trans (Eq.symm hk) e)
      simp [h, hname]
    · simp [ih]

/-- A patch leaves the members that it does not name. -/
theorem valuesOf_mergeMembers_of_ne {changes : List (String × Json)}
    (h : ∀ m ∈ changes, m.1 ≠ name) (target : List (String × Json)) :
    valuesOf name (mergeMembers changes target) = valuesOf name target := by
  induction changes generalizing target with
  | nil => rw [mergeMembers]
  | cons m rest ih =>
    obtain ⟨key, v⟩ := m
    have hkey : key ≠ name := h _ List.mem_cons_self
    have hrest := ih fun m hm => h m (List.mem_cons_of_mem _ hm)
    cases v
    case null => rw [mergeMembers, hrest, valuesOf_dropMember_of_ne hkey]
    all_goals
      rw [mergeMembers, hrest, valuesOf_setMember_of_ne hkey]
      simp

end ControlPlane.Json
