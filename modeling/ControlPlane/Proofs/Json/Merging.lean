import ControlPlane.Json.MergePatch
import ControlPlane.Proofs.Json.Rearrangement

/-!
# Members merged into an object

What a merge patch makes of the members of an object, name by name. A name that the patch does not bind
keeps its values (`valuesOf_mergeMembers_of_nil`), and one that it binds to a value has one value, the
one merged into the old one (`valuesOf_mergeMembers_of_singleton`).

The objects are documents as a server keeps them, in which no object binds a name twice.
-/

namespace ControlPlane.Json

variable {name key : String} {v : Json} {members changes : List (String × Json)}

/-! ## Documents that bind each name once -/

theorem bindsOnce_obj_iff : (obj members).bindsOnce = true ↔
    (members.map Prod.fst).Nodup ∧ ∀ m ∈ members, m.2.bindsOnce = true := by
  rw [bindsOnce, Bool.and_eq_true, decide_eq_true_eq, membersBindOnce_iff]

theorem mem_of_mem_valuesOf (h : v ∈ valuesOf name members) : (name, v) ∈ members := by
  obtain ⟨⟨n, w⟩, hm, rfl⟩ := List.mem_map.1 h
  obtain ⟨hm, hn⟩ := List.mem_filter.1 hm
  rwa [← beq_iff_eq.1 hn]

/-- A name has one value at most. -/
theorem length_valuesOf_le_one (h : (members.map Prod.fst).Nodup) :
    (valuesOf name members).length ≤ 1 := by
  induction members with
  | nil => exact Nat.zero_le 1
  | cons m rest ih =>
    obtain ⟨k, v⟩ := m
    obtain ⟨hk, hrest⟩ := List.nodup_cons.1 h
    rw [valuesOf_cons]
    split
    · next heq =>
      have hnone : valuesOf name rest = [] := by
        rw [valuesOf, List.map_eq_nil_iff, List.filter_eq_nil_iff]
        intro m hm hname
        refine hk (List.mem_map.2 ⟨m, hm, ?_⟩)
        rw [beq_iff_eq.1 hname, heq]
      rw [hnone]
      exact Nat.le_refl 1
    · exact ih hrest

/-- What an object holds binds each name once, and so does the `null` that stands for what it does not
hold. -/
theorem bindsOnce_getLast? (h : (obj members).bindsOnce = true) (name : String) :
    ((valuesOf name members).getLast?.getD .null).bindsOnce = true := by
  cases hlast : (valuesOf name members).getLast? with
  | none => rfl
  | some v =>
    have hmem : v ∈ valuesOf name members := List.mem_of_getLast? hlast
    exact (bindsOnce_obj_iff.1 h).2 _ (mem_of_mem_valuesOf hmem)

theorem bindsOnce_of_valuesOf (h : (obj members).bindsOnce = true) (hv : valuesOf name members = [v]) :
    v.bindsOnce = true :=
  (bindsOnce_obj_iff.1 h).2 _ (mem_of_mem_valuesOf (hv ▸ List.mem_singleton_self v))

/-- The members of any value, taken as an object. -/
theorem bindsOnce_membersOrNone {j : Json} (h : j.bindsOnce = true) :
    (obj j.membersOrNone).bindsOnce = true := by
  cases j with
  | obj members => exact h
  | _ => rfl

/-! ## Merging -/

theorem mergePatch_obj (changes : List (String × Json)) (target : Json) :
    mergePatch (.obj changes) target = .obj (mergeMembers changes target.membersOrNone) := by
  rw [mergePatch]

/-- A patch that is no `null` does not make one. -/
theorem mergePatch_ne_null (h : v ≠ .null) (target : Json) : mergePatch v target ≠ .null := by
  cases v with
  | null => exact absurd rfl h
  | obj changes =>
    rw [mergePatch_obj]
    exact nofun
  | _ =>
    rw [mergePatch]
    exact nofun

theorem valuesOf_setMember_self (h : (valuesOf name members).length ≤ 1) (v : Json) :
    valuesOf name (setMember name v members) = [v] := by
  induction members with
  | nil => simp [setMember]
  | cons m rest ih =>
    obtain ⟨k, u⟩ := m
    rw [valuesOf_cons] at h
    rw [setMember]
    split at h
    · next hk =>
      have hnone : valuesOf name rest = [] := by
        rw [List.length_cons] at h
        exact List.length_eq_zero_iff.1 (by omega)
      rw [if_pos hk, valuesOf_cons, if_pos rfl, hnone]
    · next hk =>
      rw [if_neg hk, valuesOf_cons, if_neg hk]
      exact ih h

theorem valuesOf_eq_nil_iff : valuesOf name members = [] ↔ ∀ m ∈ members, m.1 ≠ name := by
  simp [valuesOf]

theorem mergeMembers_cons (hv : v ≠ .null) (changes members : List (String × Json)) :
    mergeMembers ((key, v) :: changes) members = mergeMembers changes
      (setMember key (mergePatch v ((valuesOf key members).getLast?.getD .null)) members) := by
  rw [mergeMembers]
  exact hv

/-- A name that the patch does not bind keeps its values. -/
theorem valuesOf_mergeMembers_of_nil (h : valuesOf name changes = []) :
    valuesOf name (mergeMembers changes members) = valuesOf name members :=
  valuesOf_mergeMembers_of_ne (valuesOf_eq_nil_iff.1 h) members

/-- A name that the patch binds to a value has one value, merged into the old one. -/
theorem valuesOf_mergeMembers_of_singleton (h : valuesOf name changes = [v]) (hv : v ≠ .null)
    (hm : (valuesOf name members).length ≤ 1) :
    valuesOf name (mergeMembers changes members) =
      [mergePatch v ((valuesOf name members).getLast?.getD .null)] := by
  induction changes generalizing members with
  | nil => cases h
  | cons m rest ih =>
    obtain ⟨k, u⟩ := m
    rw [valuesOf_cons] at h
    split at h
    · next hk =>
      obtain ⟨rfl, hrest⟩ := List.cons.inj h
      subst hk
      rw [mergeMembers_cons hv, valuesOf_mergeMembers_of_nil hrest]
      exact valuesOf_setMember_self hm _
    · next hk =>
      -- what becomes of another name does not show under this one
      by_cases hu : u = .null
      · subst hu
        have hold := valuesOf_dropMember_of_ne hk members
        rw [mergeMembers, ih h (hold ▸ hm), hold]
      · have hold (w : Json) := valuesOf_setMember_of_ne hk w members
        rw [mergeMembers_cons hu, ih h (hold _ ▸ hm), hold]

/-- An object that the patch binds to an object is merged member by member. -/
theorem valuesOf_mergeMembers_obj {inner record : List (String × Json)}
    (h : valuesOf name changes = [.obj inner]) (hm : valuesOf name members = [.obj record]) :
    valuesOf name (mergeMembers changes members) = [.obj (mergeMembers inner record)] := by
  rw [valuesOf_mergeMembers_of_singleton h nofun (by rw [hm]; exact Nat.le_refl 1), hm, mergePatch_obj]
  rfl

end ControlPlane.Json
