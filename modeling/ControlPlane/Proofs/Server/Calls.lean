import ControlPlane.Reconcile.Basic

/-!
# The calls that a pass makes

Whatever answers the calls of a pass, they can be listed in their order, the refused one that ends the
pass included.

* `calls_bind`: the calls of two parts are those of the one and then those of the other.
* `forall_calls_bind`: what holds of the calls of two parts holds of all calls.
* `forall_calls_forEach`, `forall_calls_collect`: the same for loops.
* `forEach_eq_collect`: a loop that collects nothing is one that drops what it collects.
-/

namespace ControlPlane

/-- Whether a call creates, replaces or deletes an object. -/
def Call.edits : Call → Bool
  | .createDeployment _ | .replaceDeployment _ | .deleteDeployment _
  | .createInstance _ | .replaceInstance _ | .deleteInstance _
  | .createNetworkBinding _ | .createSubnetClaim _ => true
  | _ => false

namespace Pass

variable {α β γ σ : Type} {answer : Answer σ} {Q : Call → Prop} {s : σ}

/-- The calls that a pass makes over a store. -/
def calls (answer : Answer σ) : Pass α → σ → List Call
  | .done _, _ => []
  | .abort _, _ => []
  | .call c next, s =>
    c :: match answer c s with
      | (.ok r, t) => (next r).calls answer t
      | (.error _, _) => []

@[simp] theorem calls_done (a : α) : (done a).calls answer s = [] := rfl

@[simp] theorem calls_abort (e : Error) : (abort e : Pass α).calls answer s = [] := rfl

theorem calls_call (c : Call) (next : c.Reply → Pass α) :
    (call c next).calls answer s =
      c :: match answer c s with
        | (.ok r, t) => (next r).calls answer t
        | (.error _, _) => [] := by
  rw [calls]

theorem calls_perform (c : Call) : (perform c).calls answer s = [c] := by
  rw [perform, calls_call]
  split <;> rfl

theorem mem_calls_perform {c d : Call} : c ∈ (perform d).calls answer s ↔ c = d := by
  rw [calls_perform, List.mem_singleton]

theorem forall_calls_perform {c : Call} (h : Q c) : ∀ c' ∈ (perform c).calls answer s, Q c' :=
  fun _ hc => mem_calls_perform.1 hc ▸ h

theorem mem_calls_bind {p : Pass α} {f : α → Pass β} {c : Call} :
    c ∈ (p.bind f).calls answer s ↔ c ∈ p.calls answer s ∨
      ∃ a t, p.run answer s = (.ok a, t) ∧ c ∈ (f a).calls answer t := by
  induction p generalizing s with
  | done a => simp [and_assoc]
  | abort e => simp
  | call d next ih =>
    rw [call_bind, calls_call, calls_call, run_call, List.mem_cons, List.mem_cons, or_assoc]
    rcases answer d s with ⟨e | r, t⟩
    · simp
    · rw [ih r]

/-- The calls of two parts: those of the first, and if that ends well those of the second. -/
theorem calls_bind (p : Pass α) (f : α → Pass β) : (p.bind f).calls answer s =
    p.calls answer s ++
      match p.run answer s with
      | (.ok a, t) => (f a).calls answer t
      | (.error _, _) => [] := by
  induction p generalizing s with
  | done a => rfl
  | abort e => rfl
  | call d next ih =>
    rw [call_bind, calls_call, calls_call, run_call, List.cons_append]
    rcases answer d s with ⟨e | r, t⟩
    · rfl
    · exact congrArg _ (ih r)

theorem forall_calls_bind {p : Pass α} {f : α → Pass β} (hp : ∀ c ∈ p.calls answer s, Q c)
    (hf : ∀ a t, p.run answer s = (.ok a, t) → ∀ c ∈ (f a).calls answer t, Q c) :
    ∀ c ∈ (p.bind f).calls answer s, Q c := by
  intro c hc
  obtain hc | ⟨a, t, hrun, hc⟩ := mem_calls_bind.1 hc
  · exact hp c hc
  · exact hf a t hrun c hc

/-- What each call of a pass brings about and what adds up is brought about by the pass. -/
theorem run_related {R : σ → σ → Prop} (hrefl : ∀ s, R s s)
    (htrans : ∀ s t u, R s t → R t u → R s u) {p : Pass α}
    (hcall : ∀ c ∈ p.calls answer s, ∀ t, R t (answer c t).2) : R s (p.run answer s).2 := by
  induction p generalizing s with
  | done a => exact hrefl s
  | abort e => exact hrefl s
  | call d next ih =>
    rw [calls_call] at hcall
    have hd := hcall d List.mem_cons_self s
    rw [run_call]
    rcases ha : answer d s with ⟨e | r, t⟩ <;> rw [ha] at hd hcall
    · exact hd
    · exact htrans _ _ _ hd (ih r fun c hc => hcall c (List.mem_cons_of_mem d hc))

theorem forall_calls_collect {f : γ → Pass α} {l : List γ}
    (h : ∀ a ∈ l, ∀ t, ∀ c ∈ (f a).calls answer t, Q c) :
    ∀ c ∈ (collect f l).calls answer s, Q c := by
  induction l generalizing s with
  | nil => simp [collect]
  | cons a rest ih =>
    refine forall_calls_bind (h a List.mem_cons_self s) fun b t _ => ?_
    refine forall_calls_bind (ih fun a ha => h a (List.mem_cons_of_mem _ ha)) fun bs m _ => ?_
    simp

/-- The same for a loop whose steps leave the store as it is. -/
theorem forall_calls_collect_of_same {f : γ → Pass α} {l : List γ}
    (h : ∀ a ∈ l, (∃ b, (f a).run answer s = (.ok b, s)) ∧ ∀ c ∈ (f a).calls answer s, Q c) :
    ∀ c ∈ (collect f l).calls answer s, Q c := by
  induction l with
  | nil => simp [collect]
  | cons a rest ih =>
    obtain ⟨⟨b, hrun⟩, hcalls⟩ := h a List.mem_cons_self
    refine forall_calls_bind hcalls fun b' t ht => ?_
    rw [hrun] at ht
    cases ht
    refine forall_calls_bind (ih fun a ha => h a (List.mem_cons_of_mem _ ha)) fun bs m _ => ?_
    simp

/-- A loop that collects nothing is one that drops what it collects. -/
theorem forEach_eq_collect (f : α → Pass Unit) (l : List α) :
    forEach f l = (collect f l).bind fun _ => .done () := by
  induction l with
  | nil => rfl
  | cons a rest ih =>
    simp only [forEach, collect, bind_eq, ih, bind_assoc, pure_eq, done_bind]

theorem forall_calls_forEach {f : γ → Pass Unit} {l : List γ}
    (h : ∀ a ∈ l, ∀ t, ∀ c ∈ (f a).calls answer t, Q c) :
    ∀ c ∈ (forEach f l).calls answer s, Q c := by
  rw [forEach_eq_collect]
  exact forall_calls_bind (forall_calls_collect h) fun _ _ _ => by simp

end Pass

end ControlPlane
