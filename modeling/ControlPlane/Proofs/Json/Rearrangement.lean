import Mathlib.Data.List.Forall2
import Mathlib.Data.List.Nodup
import Mathlib.Data.List.Perm.Basic
import ControlPlane.Json.Printer

/-!
# Values up to the order of members

`Json.Rearranged` relates values that differ at most in the order in which their objects name their
members, on every level; the order of a list's items counts. Where every object binds each name once,
values are so related exactly when sorting makes them one value (`canonical_eq_iff`).
-/

namespace ControlPlane

/-- Lists that hold each key once make one collection when one is the other in another order. -/
theorem Keyed.ofList_eq_iff_perm {α : Type} {key : α → String} {l m : List α}
    (hl : (l.map key).Nodup) (hm : (m.map key).Nodup) :
    Keyed.ofList key l = Keyed.ofList key m ↔ l.Perm m := by
  have hin {k : List α} (hk : (k.map key).Nodup) (a : α) : a ∈ Keyed.ofList key k ↔ a ∈ k :=
    mem_ofList_iff fun _ ha _ hb => List.inj_on_of_nodup_map hk ha hb
  rw [List.perm_ext_iff_of_nodup (List.Nodup.of_map _ hl) (List.Nodup.of_map _ hm)]
  constructor
  · intro h a
    rw [← hin hl, h, hin hm]
  · intro h
    exact ext_mem fun a => by rw [hin hl, hin hm, h]

namespace Json

mutual

/-- Whether every object binds each of its names once. -/
def bindsOnce : Json → Bool
  | .arr items => itemsBindOnce items
  | .obj members => decide (members.map Prod.fst).Nodup && membersBindOnce members
  | _ => true

def itemsBindOnce : List Json → Bool
  | [] => true
  | j :: rest => bindsOnce j && itemsBindOnce rest

def membersBindOnce : List (String × Json) → Bool
  | [] => true
  | (_, v) :: rest => bindsOnce v && membersBindOnce rest

end

mutual

/-- Two values are one value but for the order of members. -/
inductive Rearranged : Json → Json → Prop
  | null : Rearranged .null .null
  | bool (b : Bool) : Rearranged (.bool b) (.bool b)
  | int (n : Int) : Rearranged (.int n) (.int n)
  | decimal (text : String) : Rearranged (.decimal text) (.decimal text)
  | str (s : String) : Rearranged (.str s) (.str s)
  | unreadable : Rearranged .unreadable .unreadable
  | arr {xs ys : List Json} : ItemsRearranged xs ys → Rearranged (.arr xs) (.arr ys)
  | obj {xs ys zs : List (String × Json)} :
    MembersRearranged xs ys → ys.Perm zs → Rearranged (.obj xs) (.obj zs)

/-- Item by item. -/
inductive ItemsRearranged : List Json → List Json → Prop
  | nil : ItemsRearranged [] []
  | cons {x y : Json} {xs ys : List Json} :
    Rearranged x y → ItemsRearranged xs ys → ItemsRearranged (x :: xs) (y :: ys)

/-- Member by member, under the same names. -/
inductive MembersRearranged : List (String × Json) → List (String × Json) → Prop
  | nil : MembersRearranged [] []
  | cons (name : String) {x y : Json} {xs ys : List (String × Json)} :
    Rearranged x y → MembersRearranged xs ys → MembersRearranged ((name, x) :: xs) ((name, y) :: ys)

end

theorem membersBindOnce_iff {members : List (String × Json)} :
    membersBindOnce members = true ↔ ∀ m ∈ members, m.2.bindsOnce = true := by
  induction members with
  | nil => simp [membersBindOnce]
  | cons m rest ih => simp [membersBindOnce, ih]

theorem map_fst_canonicalMembers (members : List (String × Json)) :
    (canonicalMembers members).map Prod.fst = members.map Prod.fst := by
  rw [canonicalMembers_eq_map, List.map_map]
  rfl

/-- Objects are sorted alike when their members are sorted alike, in any order. -/
theorem canonical_obj_eq_iff {xs ys : List (String × Json)} (hx : (xs.map Prod.fst).Nodup)
    (hy : (ys.map Prod.fst).Nodup) :
    (Json.obj xs).canonical = (Json.obj ys).canonical ↔
      (canonicalMembers xs).Perm (canonicalMembers ys) := by
  rw [← map_fst_canonicalMembers] at hx hy
  rw [← Keyed.ofList_eq_iff_perm hx hy, canonical, canonical, Json.obj.injEq]
  exact ⟨Keyed.ext, congrArg _⟩

/-- Members that are sorted members in another order are the sorted ones of members in that order. -/
theorem exists_perm_canonicalMembers {xs ys : List (String × Json)}
    (h : xs.Perm (canonicalMembers ys)) : ∃ zs, xs = canonicalMembers zs ∧ zs.Perm ys := by
  have hsame : List.Forall₂ (fun a b => a = (b.1, b.2.canonical)) (canonicalMembers ys) ys := by
    rw [canonicalMembers_eq_map, List.forall₂_map_left_iff]
    exact List.forall₂_same.2 fun _ _ => rfl
  obtain ⟨zs, hzs, hperm⟩ := List.perm_comp_forall₂ h hsame
  refine ⟨zs, ?_, hperm⟩
  rw [canonicalMembers_eq_map]
  exact List.forall₂_eq_eq_eq ▸ List.forall₂_map_right_iff.2 hzs

mutual

/-- Values that are sorted alike differ in the order of members only. -/
theorem rearranged_of_canonical_eq {v w : Json} (hv : v.bindsOnce = true) (hw : w.bindsOnce = true)
    (h : v.canonical = w.canonical) : Rearranged v w :=
  match v, w with
  | .null, .null => .null
  | .bool _, .bool _ => by cases h; exact .bool _
  | .int _, .int _ => by cases h; exact .int _
  | .decimal _, .decimal _ => by cases h; exact .decimal _
  | .str _, .str _ => by cases h; exact .str _
  | .unreadable, .unreadable => .unreadable
  | .arr xs, .arr ys => .arr (itemsRearranged_of_canonicalItems_eq hv hw (Json.arr.inj h))
  | .obj xs, .obj ys => by
    rw [bindsOnce, Bool.and_eq_true, decide_eq_true_eq] at hv hw
    obtain ⟨zs, hzs, hperm⟩ := exists_perm_canonicalMembers ((canonical_obj_eq_iff hv.1 hw.1).1 h)
    have hz : membersBindOnce zs = true := membersBindOnce_iff.2 fun m hm =>
      membersBindOnce_iff.1 hw.2 m (hperm.subset hm)
    exact .obj (membersRearranged_of_canonicalMembers_eq hv.2 hz hzs) hperm

theorem itemsRearranged_of_canonicalItems_eq {xs ys : List Json} (hx : itemsBindOnce xs = true)
    (hy : itemsBindOnce ys = true) (h : canonicalItems xs = canonicalItems ys) :
    ItemsRearranged xs ys :=
  match xs, ys with
  | [], [] => .nil
  | x :: xs, y :: ys => by
    rw [itemsBindOnce, Bool.and_eq_true] at hx hy
    obtain ⟨hxy, hrest⟩ := List.cons.inj h
    exact .cons (rearranged_of_canonical_eq hx.1 hy.1 hxy)
      (itemsRearranged_of_canonicalItems_eq hx.2 hy.2 hrest)

theorem membersRearranged_of_canonicalMembers_eq {xs ys : List (String × Json)}
    (hx : membersBindOnce xs = true) (hy : membersBindOnce ys = true)
    (h : canonicalMembers xs = canonicalMembers ys) : MembersRearranged xs ys :=
  match xs, ys with
  | [], [] => .nil
  | (a, x) :: xs, (b, y) :: ys => by
    rw [membersBindOnce, Bool.and_eq_true] at hx hy
    obtain ⟨hmember, hrest⟩ := List.cons.inj h
    obtain ⟨rfl, hxy⟩ := Prod.mk.inj hmember
    exact .cons a (rearranged_of_canonical_eq hx.1 hy.1 hxy)
      (membersRearranged_of_canonicalMembers_eq hx.2 hy.2 hrest)

end

mutual

/-- Values that differ in the order of members only are sorted alike. -/
theorem canonical_eq_of_rearranged {v w : Json} (h : Rearranged v w) (hv : v.bindsOnce = true)
    (hw : w.bindsOnce = true) : v.canonical = w.canonical :=
  match h with
  | .null | .bool _ | .int _ | .decimal _ | .str _ | .unreadable => rfl
  | .arr hxy => congrArg Json.arr (canonicalItems_eq_of_rearranged hxy hv hw)
  | .obj hxy hperm => by
    rw [bindsOnce, Bool.and_eq_true, decide_eq_true_eq] at hv hw
    have hy := membersBindOnce_iff.2 fun m hm => membersBindOnce_iff.1 hw.2 m (hperm.subset hm)
    rw [canonical_obj_eq_iff hv.1 hw.1, canonicalMembers_eq_of_rearranged hxy hv.2 hy,
      canonicalMembers_eq_map, canonicalMembers_eq_map]
    exact hperm.map _

theorem canonicalItems_eq_of_rearranged {xs ys : List Json} (h : ItemsRearranged xs ys)
    (hx : itemsBindOnce xs = true) (hy : itemsBindOnce ys = true) :
    canonicalItems xs = canonicalItems ys :=
  match h with
  | .nil => rfl
  | .cons hxy hrest => by
    rw [itemsBindOnce, Bool.and_eq_true] at hx hy
    rw [canonicalItems, canonicalItems, canonical_eq_of_rearranged hxy hx.1 hy.1,
      canonicalItems_eq_of_rearranged hrest hx.2 hy.2]

theorem canonicalMembers_eq_of_rearranged {xs ys : List (String × Json)}
    (h : MembersRearranged xs ys) (hx : membersBindOnce xs = true) (hy : membersBindOnce ys = true) :
    canonicalMembers xs = canonicalMembers ys :=
  match h with
  | .nil => rfl
  | .cons _ hxy hrest => by
    rw [membersBindOnce, Bool.and_eq_true] at hx hy
    rw [canonicalMembers, canonicalMembers, canonical_eq_of_rearranged hxy hx.1 hy.1,
      canonicalMembers_eq_of_rearranged hrest hx.2 hy.2]

end

/-- Sorting makes one value of two exactly when they differ in the order of members only. -/
theorem canonical_eq_iff {v w : Json} (hv : v.bindsOnce = true) (hw : w.bindsOnce = true) :
    v.canonical = w.canonical ↔ Rearranged v w :=
  ⟨rearranged_of_canonical_eq hv hw, fun h => canonical_eq_of_rearranged h hv hw⟩

end Json

end ControlPlane
