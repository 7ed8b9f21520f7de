import ControlPlane.Proofs.Rest.Observation
import ControlPlane.Proofs.Server.Exchanges
import ControlPlane.Proofs.Server.Server

/-!
# What a pass writes to a store

The writes of a pass are those of its calls that are to change the store. What a pass writes depends
on what it is answered, and of that it is enough to know that the store is `Faithful`: reading changes
nothing, and whoever asks for the objects of a namespace is given objects of that namespace. An API
server is such a store (`Server.faithful`).

* `Pass.writes_bind`, `Pass.atMost_bind`: the writes of two parts, and how many calls of a sort they
  make together.
* `ConditionSet.agreeBut_set`: filing an observation changes the conditions of one type only.
-/

namespace ControlPlane

open Pass (perform)

/-! ## Stores -/

/-- Whether a call leaves the store as it is. -/
def Call.reads (c : Call) : Bool :=
  !c.isWrite

/-- Reading changes nothing, and what is read from a namespace is in that namespace. -/
structure Answer.Faithful {σ : Type} (answer : Answer σ) : Prop where
  reads : ∀ c s, c.reads = true → (answer c s).2 = s
  deployment : ∀ ns name s d, (answer (.getDeployment ns name) s).1 = .ok (some d) →
    d.namespaceName = ns
  deployments : ∀ ns uid s l, (answer (.listDeployments ns uid) s).1 = .ok l →
    ∀ d ∈ l, d.namespaceName = ns
  instances : ∀ ns uid s l, (answer (.listInstances ns uid) s).1 = .ok l →
    ∀ i ∈ l, i.namespaceName = ns

namespace Table

variable {Spec Status : Type} {t : Table Spec Status} {o : Resource Spec Status} {ns name : String}
  {p : Resource Spec Status → Bool}

theorem namespaceName_of_find? (h : t.find? ns name = some o) : o.namespaceName = ns := by
  rw [Resource.namespaceName, (metadata_of_find? h).1]
  rfl

theorem namespaceName_of_mem_list (h : o ∈ t.list ns p) : o.namespaceName = ns := by
  obtain ⟨-, ho⟩ := List.mem_filter.1 h
  rw [Bool.and_eq_true, beq_iff_eq] at ho
  rw [Resource.namespaceName, ho.1]
  rfl

end Table

/-- An API server is a faithful store. -/
theorem Server.faithful (now : Instant) : (Server.answer now).Faithful where
  reads c s h := by cases c <;> first | rfl | cases h
  deployment _ _ _ _ h := Table.namespaceName_of_find? (Except.ok.inj h)
  deployments _ _ _ _ h d hd := by
    rw [← Except.ok.inj h] at hd
    exact Table.namespaceName_of_mem_list hd
  instances _ _ _ _ h i hi := by
    rw [← Except.ok.inj h] at hi
    exact Table.namespaceName_of_mem_list hi

/-! ## Writes -/

namespace Pass

variable {α β σ : Type} {answer : Answer σ} {s : σ} {p : Pass α} {q r : Call → Bool} {m n : Nat}

/-- The writes of a pass over a store. -/
def writes (answer : Answer σ) (p : Pass α) (s : σ) : List Call :=
  (p.calls answer s).filter Call.isWrite

theorem forall_writes {Q : Call → Prop} :
    (∀ c ∈ p.writes answer s, Q c) ↔ ∀ c ∈ p.calls answer s, c.isWrite = true → Q c := by
  simp only [writes, List.mem_filter, and_imp]

@[simp] theorem writes_done (a : α) : (done a).writes answer s = [] := rfl

theorem writes_perform {c : Call} (h : c.isWrite = true) : (perform c).writes answer s = [c] := by
  rw [writes, calls_perform, List.filter_cons_of_pos h, List.filter_nil]

/-- The writes of two parts: those of the first, and if that ends well those of the second. -/
theorem writes_bind (p : Pass α) (f : α → Pass β) : (p.bind f).writes answer s =
    p.writes answer s ++
      match p.run answer s with
      | (.ok a, t) => (f a).writes answer t
      | (.error _, _) => [] := by
  rw [writes, calls_bind, List.filter_append]
  rcases p.run answer s with ⟨e | a, t⟩ <;> rfl

theorem Only.writes_eq_nil (h : p.Only Call.reads) : p.writes answer s = [] :=
  List.filter_eq_nil_iff.2 fun c hc => by simpa [Call.reads] using h.forall_calls c hc

/-- What is only read before is no write. -/
theorem Only.writes_bind (h : p.Only Call.reads) (f : α → Pass β) : (p.bind f).writes answer s =
    match p.run answer s with
    | (.ok a, t) => (f a).writes answer t
    | (.error _, _) => [] := by
  rw [Pass.writes_bind, h.writes_eq_nil, List.nil_append]

/-- Reading leaves a faithful store as it is. -/
theorem Only.run_snd (h : p.Only Call.reads) (hanswer : answer.Faithful) :
    (p.run answer s).2 = s :=
  h.run_related (R := fun s t => t = s) (fun _ => rfl) (fun _ _ _ hst htu => htu.trans hst)
    (fun c s hc => hanswer.reads c s hc) s

/-- A pass that only reads writes what it likes. -/
theorem Only.forall_calls_isWrite {Q : Call → Prop} (h : p.Only Call.reads) :
    ∀ c ∈ p.calls answer s, c.isWrite = true → Q c := fun c hc hwrite => by
  have hread := h.forall_calls c hc
  rw [Call.reads, hwrite] at hread
  cases hread

/-! ## How many calls -/

/-- Over any store the pass makes at most so many calls of a sort. -/
def AtMost (answer : Answer σ) (q : Call → Bool) (n : Nat) (p : Pass α) : Prop :=
  ∀ s, (p.calls answer s).countP q ≤ n

theorem AtMost.countP_writes (h : p.AtMost answer q n) (s : σ) : (p.writes answer s).countP q ≤ n :=
  (List.filter_sublist.countP_le).trans (h s)

theorem AtMost.mono (h : p.AtMost answer q m) (hmn : m ≤ n) : p.AtMost answer q n :=
  fun s => (h s).trans hmn

theorem atMost_done (a : α) : (done a).AtMost answer q n := fun _ => Nat.zero_le n

theorem atMost_abort (e : Error) : (abort e : Pass α).AtMost answer q n := fun _ => Nat.zero_le n

theorem atMost_perform (c : Call) : (perform c).AtMost answer q 1 := fun s => by
  rw [calls_perform]
  exact List.countP_le_length

theorem Only.atMost (h : p.Only r) (hq : ∀ c, r c = true → q c = false) :
    p.AtMost answer q n := fun s => by
  have hnone : (p.calls answer s).countP q = 0 :=
    List.countP_eq_zero.2 fun c hc => by simp [hq c (h.forall_calls c hc)]
  rw [hnone]
  exact Nat.zero_le n

/-- Two parts make as many calls as both of them. -/
theorem AtMost.bind {f : α → Pass β} (hp : p.AtMost answer q m)
    (hf : ∀ s a t, p.run answer s = (.ok a, t) → (f a).AtMost answer q n) :
    (p.bind f).AtMost answer q (m + n) := fun s => by
  rw [calls_bind, List.countP_append]
  refine Nat.add_le_add (hp s) ?_
  rcases hrun : p.run answer s with ⟨e | a, t⟩
  · exact Nat.zero_le n
  · exact hf s a t hrun t

/-- A first part that makes no such call does not count. -/
theorem Only.atMost_bind {f : α → Pass β} (hp : p.Only r) (hq : ∀ c, r c = true → q c = false)
    (hf : ∀ s a t, p.run answer s = (.ok a, t) → (f a).AtMost answer q n) :
    (p.bind f).AtMost answer q n := by
  have h : (p.bind f).AtMost answer q (0 + n) := AtMost.bind (hp.atMost hq) hf
  rwa [Nat.zero_add] at h

end Pass

/-! ## Conditions -/

namespace ConditionSet

/-- Two sets of conditions that say the same of every type but one. -/
def AgreeBut (type : String) (a b : ConditionSet) : Prop :=
  ∀ other, other ≠ type → a.get? other = b.get? other

theorem AgreeBut.refl (type : String) (a : ConditionSet) : AgreeBut type a a := fun _ _ => rfl

/-- Filing an observation changes the conditions of its own type only. -/
theorem agreeBut_set (s : ConditionSet) (c : Condition) : AgreeBut c.type (s.set c).1 s :=
  fun _ hother => get?_set_of_ne hother.symm

end ConditionSet

end ControlPlane
