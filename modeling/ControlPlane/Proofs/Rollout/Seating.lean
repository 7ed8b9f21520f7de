import Mathlib.Data.List.Induction
import Mathlib.Data.List.Perm.Basic
import Mathlib.Data.List.Nodup
import ControlPlane.Rollout.Plan
import ControlPlane.Proofs.Rollout.SlotName

/-!
# Who holds a slot

Seating the instances of a deployment one after the other comes to a rule that does not mention the
order of the steps: of the instances whose names end in a slot, the one under the slot's own name
holds it, and the last of them when there is none (`holder_slots`). Nobody is lost on the way: the
holders and the surplus are the instances, in another order (`slots_perm`).

* `slots_map`: seating looks at names only.
* `slots_append_of_vacant`: an instance for a vacant slot takes it and moves nobody.
* `slots_filter_surplus`: without an instance of the surplus the slots are held as before.
-/

namespace ControlPlane

namespace Deployment

/-- The instances whose names end in a slot. -/
def candidates (slot : Nat) (instances : List Instance) : List Instance :=
  instances.filter fun i => slotOf? i.name == some slot

/-- The instance that holds a slot, told from the instances alone. -/
def seated (d : Deployment) (instances : List Instance) (slot : Nat) : Option Instance :=
  if slot < d.slotCount then
    ((candidates slot instances).find? (·.name == d.slotName slot)).or
      (candidates slot instances).getLast?
  else none

theorem mem_candidates {slot : Nat} {l : List Instance} {i : Instance} :
    i ∈ candidates slot l ↔ i ∈ l ∧ slotOf? i.name = some slot := by
  simp [candidates]

/-! ## Seating one instance -/

variable (d : Deployment)

/-- Whether an instance takes the slot `k` when it is seated. -/
def takes (t : SlotTable) (i : Instance) (k : Nat) : Bool :=
  slotOf? i.name == some k && decide (k < d.slotCount) &&
    !(t.holder k).any (·.name == d.slotName k)

/-- The instances that seating `i` sends away: the holder of the slot that it takes, or itself. -/
def displaced (t : SlotTable) (i : Instance) : List Instance :=
  match slotOf? i.name with
  | some k => if d.takes t i k then (t.holder k).toList else [i]
  | none => [i]

theorem seat_holder (t : SlotTable) (i : Instance) (k : Nat) :
    (SlotTable.seat d t i).holder k = if d.takes t i k then some i else t.holder k := by
  unfold SlotTable.seat takes
  cases hs : slotOf? i.name with
  | none => simp [SlotTable.dismiss]
  | some slot =>
    simp only
    by_cases hc : slot < d.slotCount
    · rw [if_pos hc]
      rcases eq_or_ne slot k with rfl | hk
      · cases hh : t.holder slot with
        | none => simp [SlotTable.hold, hc]
        | some held =>
          by_cases hn : held.name = d.slotName slot <;>
            simp [SlotTable.hold, SlotTable.dismiss, hc, hn, hh]
      · cases hh : t.holder slot with
        | none => simp [SlotTable.hold, hk, hk.symm]
        | some held =>
          by_cases hn : held.name = d.slotName slot <;>
            simp [SlotTable.hold, SlotTable.dismiss, hk, hk.symm, hn]
    · rw [if_neg hc]
      have : ¬ (slot = k ∧ k < d.slotCount) := by omega
      simp only [SlotTable.dismiss, Option.some_beq_some, beq_iff_eq, Bool.and_eq_true,
        decide_eq_true_eq, this, false_and, if_false]

theorem seat_surplus (t : SlotTable) (i : Instance) :
    (SlotTable.seat d t i).surplus = t.surplus ++ d.displaced t i := by
  unfold SlotTable.seat displaced takes
  cases hs : slotOf? i.name with
  | none => rfl
  | some slot =>
    by_cases hc : slot < d.slotCount
    · simp only [if_pos hc]
      cases hh : t.holder slot with
      | none => simp [SlotTable.hold, hc]
      | some held =>
        by_cases hn : held.name = d.slotName slot <;>
          simp [SlotTable.hold, SlotTable.dismiss, hc, hn]
    · simp [SlotTable.dismiss, hc]

theorem slots_snoc (l : List Instance) (i : Instance) :
    d.slots (l ++ [i]) = SlotTable.seat d (d.slots l) i := by
  simp [slots, List.foldl_append]

/-! ## All of them -/

/-- The instance under the slot's own name holds it, or the last that its name sends there. -/
theorem holder_slots (l : List Instance) (k : Nat) : (d.slots l).holder k = d.seated l k := by
  induction l using List.reverseRecOn with
  | nil => simp [slots, seated, candidates]
  | append_singleton l i ih =>
    rw [slots_snoc, seat_holder, takes, ih]
    by_cases hk : k < d.slotCount
    · by_cases hi : slotOf? i.name = some k
      · have hc : candidates k (l ++ [i]) = candidates k l ++ [i] := by
          simp [candidates, hi]
        simp only [seated, if_pos hk, hc, List.find?_append, List.getLast?_append,
          List.getLast?_singleton, Option.some_or]
        cases hf : (candidates k l).find? (·.name == d.slotName k) with
        | some h =>
          have hn := List.find?_some hf
          simp [hi, hk, hn]
        | none =>
          -- no candidate so far bears the slot's own name, in particular the last does not
          have hl : ((candidates k l).getLast?).any (·.name == d.slotName k) = false := by
            rw [Option.any_eq_false]
            intro h hh
            have := List.find?_eq_none.1 hf h (List.mem_of_getLast? hh)
            simpa using this
          rw [hi, Option.none_or, Option.none_or, hl, decide_eq_true hk]
          by_cases hn : (i.name == d.slotName k) = true <;> simp [hn]
      · have hc : candidates k (l ++ [i]) = candidates k l := by
          simp [candidates, hi]
        simp [seated, hc, hi]
    · simp [seated, hk]

theorem holder_mem {l : List Instance} {k : Nat} {i : Instance}
    (h : (d.slots l).holder k = some i) :
    k < d.slotCount ∧ i ∈ l ∧ slotOf? i.name = some k := by
  rw [holder_slots, seated] at h
  split at h
  · next hk =>
    refine ⟨hk, mem_candidates.1 ?_⟩
    rcases Option.or_eq_some_iff.1 h with h | ⟨-, h⟩
    · exact List.mem_of_find?_eq_some h
    · exact List.mem_of_getLast? h
  · cases h

theorem holder_eq_none_iff {l : List Instance} {k : Nat} (hk : k < d.slotCount) :
    (d.slots l).holder k = none ↔ ∀ i ∈ l, slotOf? i.name ≠ some k := by
  rw [holder_slots, seated, if_pos hk]
  have hc : candidates k l = [] ↔ ∀ i ∈ l, slotOf? i.name ≠ some k := by
    simp [candidates]
  rw [← hc]
  constructor
  · intro h
    exact List.getLast?_eq_none_iff.1 (Option.or_eq_none_iff.1 h).2
  · intro h
    simp [h]

/-! ## Nobody is lost -/

theorem filterMap_perm_of_mem {α β : Type} [DecidableEq α] (f : α → Option β) {l : List α} {k : α}
    (h : k ∈ l) : (l.filterMap f).Perm ((f k).toList ++ (l.erase k).filterMap f) := by
  refine ((List.perm_cons_erase h).filterMap f).trans ?_
  cases hf : f k <;> simp [hf]

/-- Changing a function at one item changes what it collects by that item's values. -/
theorem filterMap_perm_of_change {α β : Type} [DecidableEq α] {f g : α → Option β} {l : List α}
    {k : α} (h : k ∈ l) (hl : l.Nodup) (hfg : ∀ j, j ≠ k → g j = f j) :
    ((f k).toList ++ l.filterMap g).Perm ((g k).toList ++ l.filterMap f) := by
  have he : (l.erase k).filterMap g = (l.erase k).filterMap f :=
    List.filterMap_congr fun j hj => hfg j (List.Nodup.mem_erase_iff hl |>.1 hj).1
  have hg := filterMap_perm_of_mem g h
  have hf := filterMap_perm_of_mem f h
  rw [he] at hg
  refine (hg.append_left _).trans (List.Perm.trans ?_ (hf.symm.append_left _))
  rw [← List.append_assoc, ← List.append_assoc]
  exact List.perm_append_comm.append_right _

/-- The instances that hold the slots of a table, from the lowest up. -/
def holders (t : SlotTable) : List Instance :=
  (List.range d.slotCount).filterMap t.holder

theorem seat_perm (t : SlotTable) (i : Instance) :
    (d.holders (SlotTable.seat d t i) ++ (SlotTable.seat d t i).surplus).Perm
      (d.holders t ++ t.surplus ++ [i]) := by
  rw [seat_surplus]
  have keeps (h : ∀ k, d.takes t i k = false) :
      d.holders (SlotTable.seat d t i) = d.holders t :=
    List.filterMap_congr fun k _ => by rw [seat_holder, h k]; rfl
  cases hs : slotOf? i.name with
  | none =>
    rw [keeps fun k => by simp [takes, hs], displaced, hs, List.append_assoc]
  | some k =>
    simp only [displaced, hs]
    by_cases ht : d.takes t i k = true
    · -- `i` is among the holders now, and the holder before it among the surplus
      have hk : k ∈ List.range d.slotCount := by
        rw [takes, Bool.and_eq_true, Bool.and_eq_true] at ht
        exact List.mem_range.2 (of_decide_eq_true ht.1.2)
      have hp := filterMap_perm_of_change (f := t.holder) (g := (SlotTable.seat d t i).holder) hk
        List.nodup_range fun j hj => by
          rw [seat_holder, if_neg]
          simp [takes, hs, hj.symm]
      rw [seat_holder, if_pos ht] at hp
      rw [if_pos ht, holders, holders, List.append_assoc]
      rw [List.perm_iff_count] at hp ⊢
      intro x
      have := hp x
      simp only [List.count_append, Option.toList_some] at this ⊢
      omega
    · rw [if_neg ht, keeps fun j => ?_, List.append_assoc]
      by_cases hj : j = k
      · simpa [hj] using ht
      · simp [takes, hs, Ne.symm hj]

/-- The holders and the surplus are the instances, in another order. -/
theorem slots_perm (l : List Instance) :
    (d.holders (d.slots l) ++ (d.slots l).surplus).Perm l := by
  induction l using List.reverseRecOn with
  | nil => simp [slots, holders]
  | append_singleton l i ih =>
    rw [slots_snoc]
    exact (d.seat_perm _ i).trans (ih.append_right [i])

theorem surplus_subset {l : List Instance} {i : Instance} (h : i ∈ (d.slots l).surplus) : i ∈ l :=
  (d.slots_perm l).subset (List.mem_append_right _ h)

/-- With distinct names an instance of the surplus holds no slot. -/
theorem holder_ne_of_mem_surplus {l : List Instance} (hl : (l.map (·.name)).Nodup) {i h : Instance}
    {k : Nat} (hi : i ∈ (d.slots l).surplus) (hh : (d.slots l).holder k = some h) :
    h.name ≠ i.name := by
  have hk := List.mem_range.2 (d.holder_mem hh).1
  have hm : h ∈ d.holders (d.slots l) := List.mem_filterMap.2 ⟨k, hk, hh⟩
  have hn := ((d.slots_perm l).map (·.name)).nodup_iff.2 hl
  rw [List.map_append, List.nodup_append] at hn
  exact hn.2.2 _ (List.mem_map_of_mem hm) _ (List.mem_map_of_mem hi)

/-! ## Changes of the list -/

/-- Seating looks at names only. -/
theorem slots_map {f : Instance → Instance} (hf : ∀ i, (f i).name = i.name) (l : List Instance) :
    (d.slots (l.map f)).surplus = (d.slots l).surplus.map f ∧
      ∀ k, (d.slots (l.map f)).holder k = ((d.slots l).holder k).map f := by
  induction l using List.reverseRecOn with
  | nil => simp [slots]
  | append_singleton l i ih =>
    obtain ⟨hs, hh⟩ := ih
    have ht : ∀ k, d.takes (d.slots (l.map f)) (f i) k = d.takes (d.slots l) i k := by
      intro k
      simp [takes, hf, hh, Option.any_map]
    rw [List.map_append, List.map_singleton, slots_snoc, slots_snoc]
    refine ⟨?_, fun k => ?_⟩
    · rw [seat_surplus, seat_surplus, hs, List.map_append]
      simp only [displaced, hf, ht]
      cases slotOf? i.name with
      | none => rfl
      | some k => by_cases h : d.takes (d.slots l) i k = true <;> simp [h, hh, Option.toList_map]
    · rw [seat_holder, seat_holder, ht, hh]
      split <;> rfl

/-- An instance for a vacant slot takes it, and nobody moves. -/
theorem slots_append_of_vacant {l : List Instance} {i : Instance} {k : Nat}
    (hk : k < d.slotCount) (hi : slotOf? i.name = some k) (hv : (d.slots l).holder k = none) :
    (d.slots (l ++ [i])).surplus = (d.slots l).surplus ∧
      ∀ j, (d.slots (l ++ [i])).holder j = if j = k then some i else (d.slots l).holder j := by
  have ht : d.takes (d.slots l) i k = true := by simp [takes, hi, hk, hv]
  rw [slots_snoc]
  refine ⟨by simp [seat_surplus, displaced, hi, ht, hv], fun j => ?_⟩
  rw [seat_holder]
  rcases eq_or_ne j k with rfl | hj
  · rw [if_pos ht, if_pos rfl]
  · rw [if_neg (by simp [takes, hi, hj.symm]), if_neg hj]

theorem find?_filter_of_eq_some {α : Type} {p q : α → Bool} {l : List α} {a : α}
    (h : l.find? q = some a) (ha : p a = true) : (l.filter p).find? q = some a := by
  obtain ⟨hq, as, bs, rfl, hn⟩ := List.find?_eq_some_iff_append.1 h
  rw [List.filter_append, List.filter_cons_of_pos ha]
  refine List.find?_eq_some_iff_append.2 ⟨hq, as.filter p, bs.filter p, rfl, fun b hb => ?_⟩
  exact hn b (List.mem_of_mem_filter hb)

theorem getLast?_filter_of_eq_some {α : Type} {p : α → Bool} {l : List α} {a : α}
    (h : l.getLast? = some a) (ha : p a = true) : (l.filter p).getLast? = some a := by
  obtain ⟨ys, rfl⟩ := List.getLast?_eq_some_iff.1 h
  rw [List.filter_append, List.filter_cons_of_pos ha, List.filter_nil, List.getLast?_concat]

/-- The holder of a slot stays when instances other than it go. -/
theorem seated_filter {p : Instance → Bool} {l : List Instance} {k : Nat}
    (h : ∀ i, d.seated l k = some i → p i = true) : d.seated (l.filter p) k = d.seated l k := by
  have hc : candidates k (l.filter p) = (candidates k l).filter p := by
    simp [candidates, List.filter_filter, Bool.and_comm]
  unfold seated at h ⊢
  split
  · next hk =>
    rw [if_pos hk] at h
    rw [hc]
    cases hf : (candidates k l).find? (·.name == d.slotName k) with
    | some i =>
      rw [find?_filter_of_eq_some hf (h i (by rw [hf]; rfl))]
      rfl
    | none =>
      have hn : ((candidates k l).filter p).find? (·.name == d.slotName k) = none :=
        List.find?_eq_none.2 fun i hi => List.find?_eq_none.1 hf i (List.mem_of_mem_filter hi)
      rw [hn, Option.none_or, Option.none_or]
      rw [hf, Option.none_or] at h
      cases hg : (candidates k l).getLast? with
      | some i => exact getLast?_filter_of_eq_some hg (h i hg)
      | none => rw [List.getLast?_eq_none_iff.1 hg]; rfl
  · rfl

/-- Without an instance of the surplus the slots are held as before. -/
theorem slots_filter_surplus {l : List Instance} (hl : (l.map (·.name)).Nodup) {x : Instance}
    (hx : x ∈ (d.slots l).surplus) (k : Nat) :
    (d.slots (l.filter (·.name ≠ x.name))).holder k = (d.slots l).holder k := by
  rw [holder_slots, holder_slots]
  refine d.seated_filter fun i hi => ?_
  rw [← holder_slots] at hi
  exact decide_eq_true (d.holder_ne_of_mem_surplus hl hx hi)

end Deployment

end ControlPlane
