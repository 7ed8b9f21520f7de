import ControlPlane.Rollout.Slot

/-!
# Names of slots

The name an instance is created with for a slot is read back as that slot (`slotOf?_slotName`): what
follows its last hyphen are the digits of the slot's number, whatever the name of the deployment.
-/

namespace ControlPlane

theorem hyphen_not_mem_toDigits (n : Nat) : '-' ∉ Nat.toDigits 10 n := by
  intro h
  have := Nat.isDigit_of_mem_toDigits (by decide) (by decide) h
  exact absurd this (by decide)

theorem afterLastHyphen_append (p : List Char) {digits : List Char} (h : '-' ∉ digits) :
    afterLastHyphen (p ++ '-' :: digits) = some digits := by
  have ht : ∀ c ∈ digits.reverse, decide (c ≠ '-') = true := by
    intro c hc
    have hd := List.mem_reverse.1 hc
    exact decide_eq_true fun e => h (e ▸ hd)
  rw [afterLastHyphen, if_pos (by simp), List.reverse_append, List.reverse_cons, List.append_assoc,
    List.takeWhile_append_of_pos ht]
  simp

theorem toList_append_repr (p : String) (n : Nat) :
    (p ++ "-" ++ Nat.repr n).toList = p.toList ++ '-' :: Nat.toDigits 10 n := by
  simp [String.toList_append]

/-- A text and a number that are joined by a hyphen are told by what comes out. -/
theorem append_repr_inj {p q : String} {m n : Nat} :
    p ++ "-" ++ Nat.repr m = q ++ "-" ++ Nat.repr n ↔ p = q ∧ m = n := by
  refine ⟨fun h => ?_, fun ⟨hp, hn⟩ => by rw [hp, hn]⟩
  have hl := congrArg String.toList h
  rw [toList_append_repr, toList_append_repr] at hl
  have hd := congrArg afterLastHyphen hl
  rw [afterLastHyphen_append _ (hyphen_not_mem_toDigits _),
    afterLastHyphen_append _ (hyphen_not_mem_toDigits _), Option.some.injEq] at hd
  rw [hd] at hl
  have hp := String.toList_inj.1 (List.append_cancel_right hl)
  exact ⟨hp, by rw [← Text.decimalValue_toDigits m, hd, Text.decimalValue_toDigits]⟩

/-- A name that ends in a hyphen and the digits of a slot is read as that slot. -/
theorem slotOf?_append_repr (p : String) {n : Nat} (hn : n < slotLimit) :
    slotOf? (p ++ "-" ++ Nat.repr n) = some n := by
  have hd : (Nat.toDigits 10 n).all Char.isDigit = true :=
    List.all_eq_true.2 fun c hc => Nat.isDigit_of_mem_toDigits (by decide) (by decide) hc
  have hv := Text.decimalValue_toDigits n
  rw [slotOf?, toList_append_repr, afterLastHyphen_append _ (hyphen_not_mem_toDigits n)]
  simp only [Option.bind_eq_bind, Option.bind_some, hv]
  exact if_pos ⟨Nat.toDigits_ne_nil, hd, hn⟩

theorem ordinal_eq_natCast {name : String} {n : Nat} (h : slotOf? name = some n) :
    ordinal name = n := by
  rw [ordinal, h]

namespace Deployment

theorem slotCount_lt_slotLimit (d : Deployment) : d.slotCount < slotLimit := by
  have := d.spec.scale.minReplicas.toInt_lt
  simp only [slotCount, slotLimit]
  omega

theorem slotOf?_slotName (d : Deployment) {k : Nat} (hk : k < d.slotCount) :
    slotOf? (d.slotName k) = some k :=
  slotOf?_append_repr d.name (Nat.lt_trans hk d.slotCount_lt_slotLimit)

end Deployment

end ControlPlane
