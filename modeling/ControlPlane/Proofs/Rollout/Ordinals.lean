import Mathlib.Data.Nat.Digits.Defs
import ControlPlane.Proofs.Rollout.Likeness
import ControlPlane.Proofs.Rollout.Partition

/-!
# The numbers that names end in

What follows the last hyphen of a name is a slot's number exactly when it is decimal digits, at least one,
that spell a number below the limit, however many zeros they begin with (`slotOf?_eq_some_iff`). Digits
are no hyphens, so a number that is written behind a hyphen is read back whatever stands before, and a
name tells both (`append_repr_inj`). Hence the instances that two deployments create have different names
(`ordinal_tells_number`).
-/

namespace ControlPlane

namespace Text

/-- Digits spell the number of which they are the digits, the last one being that of the units. -/
theorem decimalValue_eq_ofDigits (digits : List Char) :
    decimalValue digits = Nat.ofDigits 10 (digits.reverse.map digitValue) := by
  induction digits using List.reverseRecOn with
  | nil => rfl
  | append_singleton front c ih =>
    have hlast : decimalValue (front ++ [c]) = decimalValue front * 10 + digitValue c :=
      List.foldl_append ..
    rw [hlast, List.reverse_append, List.reverse_singleton, List.singleton_append, List.map_cons,
      Nat.ofDigits_cons, ← ih, Nat.mul_comm, Nat.add_comm]

end Text

/-! ## What a name ends in -/

/-- The name ends in a hyphen and a number, in decimal digits that may begin with zeros. No digit is a
hyphen, so the hyphen is the last one. -/
def EndsInNumber (name : String) (n : Nat) : Prop :=
  ∃ front digits : String, name = front ++ "-" ++ digits ∧ digits ≠ "" ∧
    (∀ c ∈ digits.toList, '0' ≤ c ∧ c ≤ '9') ∧
    Nat.ofDigits 10 (digits.toList.reverse.map Text.digitValue) = n

theorem isDigit_iff {c : Char} : c.isDigit = true ↔ '0' ≤ c ∧ c ≤ '9' := by
  rw [Char.isDigit, Bool.and_eq_true, decide_eq_true_eq, decide_eq_true_eq]
  exact Iff.rfl

theorem afterLastHyphen_eq_some_iff {cs rest : List Char} :
    afterLastHyphen cs = some rest ↔ ∃ front, cs = front ++ '-' :: rest ∧ '-' ∉ rest := by
  constructor
  · intro h
    have hmem : '-' ∈ cs := by
      by_contra hnot
      rw [afterLastHyphen, if_neg hnot] at h
      cases h
    -- the last hyphen is the first from behind
    obtain ⟨behind, before, hsplit, hnot⟩ := List.eq_append_cons_of_mem (List.mem_reverse.2 hmem)
    have hcs : cs = before.reverse ++ '-' :: behind.reverse := by
      rw [← List.reverse_reverse cs, hsplit]
      simp
    have hnot' : '-' ∉ behind.reverse := mt List.mem_reverse.1 hnot
    rw [hcs, afterLastHyphen_append _ hnot', Option.some.injEq] at h
    subst h
    exact ⟨_, hcs, hnot'⟩
  · rintro ⟨front, rfl, hnot⟩
    exact afterLastHyphen_append front hnot

/-- A name is read as the slot whose number it ends in. -/
theorem slotOf?_eq_some_iff {name : String} {n : Nat} :
    slotOf? name = some n ↔ EndsInNumber name n ∧ n < slotLimit := by
  have hread : slotOf? name = some n ↔ ∃ digits, afterLastHyphen name.toList = some digits ∧
      digits ≠ [] ∧ digits.all Char.isDigit = true ∧ Text.decimalValue digits = n ∧
        n < slotLimit := by
    simp only [slotOf?, Option.bind_eq_bind, Option.bind_eq_some_iff, Option.ite_none_right_eq_some,
      Option.some.injEq]
    refine exists_congr fun digits => and_congr_right fun _ => ?_
    constructor
    · rintro ⟨⟨hne, hall, hlt⟩, rfl⟩
      exact ⟨hne, hall, rfl, hlt⟩
    · rintro ⟨hne, hall, rfl, hlt⟩
      exact ⟨⟨hne, hall, hlt⟩, rfl⟩
  rw [hread]
  constructor
  · rintro ⟨digits, hafter, hne, hall, hvalue, hlt⟩
    obtain ⟨front, hname, -⟩ := afterLastHyphen_eq_some_iff.1 hafter
    refine ⟨⟨String.ofList front, String.ofList digits, ?_, ?_, fun c hc => ?_, ?_⟩, hlt⟩
    · rw [← String.toList_inj, hname]
      simp [String.toList_append]
    · simpa [← String.toList_inj] using hne
    · rw [String.toList_ofList] at hc
      exact isDigit_iff.1 (List.all_eq_true.1 hall c hc)
    · rw [String.toList_ofList, ← Text.decimalValue_eq_ofDigits, hvalue]
  · rintro ⟨⟨front, digits, rfl, hne, hall, hvalue⟩, hlt⟩
    have hnot : '-' ∉ digits.toList := fun h => absurd (hall _ h).1 (by decide)
    refine ⟨digits.toList, afterLastHyphen_eq_some_iff.2 ⟨front.toList, ?_, hnot⟩, ?_, ?_, ?_, hlt⟩
    · rw [String.toList_append, String.toList_append, List.append_assoc]
      rfl
    · exact fun h => hne (String.toList_inj.1 h)
    · exact List.all_eq_true.2 fun c hc => isDigit_iff.2 (hall c hc)
    · rw [Text.decimalValue_eq_ofDigits, hvalue]

theorem ordinal_eq_natCast_iff {name : String} {n : Nat} :
    ordinal name = n ↔ slotOf? name = some n := by
  refine ⟨fun h => ?_, ordinal_eq_natCast⟩
  unfold ordinal at h
  split at h
  · next m hm => rw [hm, Int.natCast_inj.1 h]
  · omega

theorem ordinal_eq_neg_one_iff {name : String} : ordinal name = -1 ↔ ∀ n, slotOf? name ≠ some n := by
  unfold ordinal
  split
  · next m hm => exact iff_of_false (by omega) fun h => h m hm
  · next hnone => simp [hnone]

/-- A number behind a hyphen is read back, whatever stands before and however many zeros it begins
with. -/
theorem endsInNumber_append (front : String) (zeros n : Nat) :
    EndsInNumber (front ++ "-" ++ String.ofList (List.replicate zeros '0' ++ Nat.toDigits 10 n)) n := by
  refine ⟨front, _, rfl, ?_, fun c hc => ?_, ?_⟩
  · simp [← String.toList_inj, Nat.toDigits_ne_nil]
  · rw [String.toList_ofList] at hc
    obtain hc | hc := List.mem_append.1 hc
    · rw [List.eq_of_mem_replicate hc]
      decide
    · exact isDigit_iff.1 (Nat.isDigit_of_mem_toDigits (by decide) (by decide) hc)
  · rw [String.toList_ofList, ← Text.decimalValue_eq_ofDigits, Text.decimalValue_replicate_append,
      Text.decimalValue_toDigits]

/-! ## What is created for a slot -/

namespace Deployment

variable {d : Deployment} {l : List Instance} {k : Nat} {i : Instance}

/-- What a plan creates for a slot is named after the deployment and the slot. -/
theorem name_of_plans_create (h : d.Plans l k (.createInstance i)) : i.name = d.slotName k := by
  obtain ⟨actions, hplan, a, ha, hslot, hcall⟩ := h
  obtain ⟨htype, rfl⟩ : a.type = .create ∧ a.target = i := by
    unfold Action.call? at hcall
    split at hcall <;> cases hcall
    exact ⟨‹_›, rfl⟩
  obtain ⟨owner, hsame, -⟩ := exists_map_step_perm hplan
  have hmem : a.step ∈ (d.inOrder owner l).map Action.step := hsame ▸ List.mem_map_of_mem ha
  obtain ⟨b, hb, hstep⟩ := List.mem_map.1 hmem
  obtain ⟨hbtype, htarget⟩ := Prod.mk.inj hstep
  rw [Action.ordinal, ← htarget] at hslot
  rw [← htarget]
  cases step_of_mem_inOrder hb with
  | @create j hj hv =>
    obtain rfl : j = k := Int.natCast_inj.1 ((ordinal_create owner hj).symm.trans hslot)
    rfl
  | wait => cases hbtype.trans htype
  | update => cases hbtype.trans htype
  | delete => cases hbtype.trans htype

end Deployment

/-- The ordinal of a name is the number that the name ends in, if a slot may have it, and -1 otherwise.
So the name that a slot gives is read as that slot, whatever the deployment is called and with any zeros
before the number. Such a name tells the deployment and the slot: what two deployments of different names
create does not have one name, and neither has what a deployment creates for two slots. -/
theorem ordinal_tells_number :
    (∀ (name : String) (n : Nat), ordinal name = n ↔ EndsInNumber name n ∧ n ≤ 2147483647) ∧
    (∀ name : String, ordinal name = -1 ↔ ∀ n, EndsInNumber name n → 2147483647 < n) ∧
    (∀ (front : String) (zeros n : Nat), n ≤ 2147483647 →
      ordinal (front ++ "-" ++ Nat.repr n) = n ∧
      ordinal (front ++ "-" ++ String.ofList (List.replicate zeros '0' ++ Nat.toDigits 10 n)) = n) ∧
    (∀ (front front' : String) (n n' : Nat),
      front ++ "-" ++ Nat.repr n = front' ++ "-" ++ Nat.repr n' → front = front' ∧ n = n') ∧
    ∀ (d d' : Deployment) (l l' : List Instance) (k k' : Nat) (i i' : Instance),
      d.Plans l k (.createInstance i) → d'.Plans l' k' (.createInstance i') → i.name = i'.name →
        d.name = d'.name ∧ k = k' := by
  have hlimit (n : Nat) : n < slotLimit ↔ n ≤ 2147483647 := Nat.lt_succ_iff
  refine ⟨fun name n => ?_, fun name => ?_, fun front zeros n hn => ⟨?_, ?_⟩,
    fun front front' n n' h => append_repr_inj.1 h,
    fun d d' l l' k k' i i' hi hi' h => ?_⟩
  · rw [ordinal_eq_natCast_iff, slotOf?_eq_some_iff, hlimit]
  · rw [ordinal_eq_neg_one_iff]
    refine forall_congr' fun n => ?_
    rw [ne_eq, slotOf?_eq_some_iff, hlimit, not_and, Nat.not_le]
  · exact ordinal_eq_natCast (slotOf?_append_repr front ((hlimit n).2 hn))
  · exact ordinal_eq_natCast (slotOf?_eq_some_iff.2 ⟨endsInNumber_append front zeros n, (hlimit n).2 hn⟩)
  · rw [Deployment.name_of_plans_create hi, Deployment.name_of_plans_create hi'] at h
    exact append_repr_inj.1 h

/-- A deployment that is called like an instance of another one. -/
def Deployment.numbered : Deployment :=
  { straying with metadata := { straying.metadata with name := some "web-1", uid := some "d2" } }

/-- The first instance of `web-1` is not taken for an instance of `web`. -/
theorem ordinal_tells_number_numbered :
    ∃ i i', Deployment.straying.Plans [] 0 (.createInstance i) ∧
      Deployment.numbered.Plans [] 0 (.createInstance i') ∧ i.name ≠ i'.name ∧
      ordinal i'.name = 0 ∧ ordinal "web-1-007" = 7 ∧ ordinal "web-1-2147483648" = -1 := by
  obtain ⟨-, -, hread, -, hnames⟩ := ordinal_tells_number
  obtain ⟨owner, ho⟩ := Deployment.exists_owner (d := Deployment.straying) rfl rfl
  obtain ⟨owner', ho'⟩ := Deployment.exists_owner (d := Deployment.numbered) rfl rfl
  have hi : Deployment.straying.Plans [] 0 (.createInstance (Deployment.straying.newInstance 0 owner)) :=
    (Deployment.plans_create_iff ho).2 ⟨by decide, rfl, rfl⟩
  have hi' : Deployment.numbered.Plans [] 0
      (.createInstance (Deployment.numbered.newInstance 0 owner')) :=
    (Deployment.plans_create_iff ho').2 ⟨by decide, rfl, rfl⟩
  refine ⟨_, _, hi, hi', fun h => ?_, (hread "web-1" 0 0 (by decide)).1,
    (hread "web-1" 2 7 (by decide)).2, by decide⟩
  exact absurd (hnames _ _ _ _ _ _ _ _ hi hi' h).1 (by decide)

end ControlPlane
