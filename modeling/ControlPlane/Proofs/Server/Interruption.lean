import ControlPlane.Proofs.Server.Calls

/-!
# Passes that are cut off

A pass has no way back: when a call fails, what it wrote before is there to stay. So a failing call
leaves one of the stores that the undisturbed pass leads through (`run_failing`), and to know what a
pass may leave behind is to know these stores.

* `Answer.failing`: the store one of whose calls fails and does nothing.
* `Pass.states`: the stores that a pass leads through.
* `forall_states_bind`: what holds of the stores of two parts holds of all.
* `collect_states`: a loop whose steps write at most once each leads through what its first few steps
  make of the store.
-/

namespace ControlPlane

/-- The store whose call number `k`, counted from zero, fails and does nothing. -/
def Answer.failing {σ : Type} (answer : Answer σ) (e : Error) : Answer (Nat × σ)
  | _, (0, s) => (.error e, (0, s))
  | c, (k + 1, s) => ((answer c s).1, (k, (answer c s).2))

namespace Pass

variable {α β γ σ : Type} {answer : Answer σ} {I : σ → Prop} {s : σ}

/-- The stores that a pass leads through, from the first to the one that it ends with. -/
def states (answer : Answer σ) : Pass α → σ → List σ
  | .done _, s => [s]
  | .abort _, s => [s]
  | .call c next, s =>
    s :: match answer c s with
      | (.ok r, t) => (next r).states answer t
      | (.error _, t) => [t]

theorem states_call (c : Call) (next : c.Reply → Pass α) :
    (call c next).states answer s =
      s :: match answer c s with
        | (.ok r, t) => (next r).states answer t
        | (.error _, t) => [t] := by
  rw [states]

theorem run_mem_states (answer : Answer σ) (p : Pass α) (s : σ) :
    (p.run answer s).2 ∈ p.states answer s := by
  induction p generalizing s with
  | done a => exact List.mem_singleton_self s
  | abort e => exact List.mem_singleton_self s
  | call c next ih =>
    rw [run_call, states_call]
    refine List.mem_cons_of_mem _ ?_
    rcases answer c s with ⟨e | r, t⟩
    · exact List.mem_singleton_self t
    · exact ih r t

theorem mem_states_of_run {p : Pass α} {t : σ} {r : Except Error α} (h : p.run answer s = (r, t)) :
    t ∈ p.states answer s := by
  have hm := run_mem_states answer p s
  rwa [h] at hm

theorem mem_states_self (answer : Answer σ) (p : Pass α) (s : σ) : s ∈ p.states answer s := by
  cases p with
  | done a => exact List.mem_singleton_self s
  | abort e => exact List.mem_singleton_self s
  | call c next =>
    rw [states_call]
    exact List.mem_cons_self

/-- A pass with a failing call ends there with its error, and otherwise as it would have; it leaves a
store that it would have led through. -/
theorem run_failing (answer : Answer σ) (p : Pass α) (e : Error) (k : Nat) (s : σ) :
    let cut := p.run (answer.failing e) (k, s)
    cut.1 = (if k < (p.calls answer s).length then .error e else (p.run answer s).1) ∧
      cut.2.2 ∈ p.states answer s := by
  induction p generalizing k s with
  | done a => exact ⟨rfl, List.mem_singleton_self s⟩
  | abort e => exact ⟨rfl, List.mem_singleton_self s⟩
  | call c next ih =>
    cases k with
    | zero =>
      refine ⟨?_, mem_states_self answer _ s⟩
      rw [calls_call, List.length_cons, if_pos (Nat.succ_pos _)]
      rfl
    | succ k =>
      simp only [run_call, Answer.failing, calls_call, states_call, List.length_cons, Nat.add_lt_add_iff_right]
      rcases answer c s with ⟨e' | r, t⟩
      · exact ⟨rfl, List.mem_cons_of_mem _ (List.mem_singleton_self t)⟩
      · exact ⟨(ih r k t).1, List.mem_cons_of_mem _ (ih r k t).2⟩

/-- What no call changes holds of all stores that a pass leads through. -/
theorem forall_states (hI : ∀ c s, I s → I (answer c s).2) (p : Pass α) (h : I s) :
    ∀ m ∈ p.states answer s, I m := by
  induction p generalizing s with
  | done a => simpa [states] using h
  | abort e => simpa [states] using h
  | call c next ih =>
    have ht := hI c s h
    rw [states_call]
    rcases ha : answer c s with ⟨e | r, t⟩ <;> rw [ha] at ht
    · simpa using ⟨h, ht⟩
    · exact List.forall_mem_cons.2 ⟨h, ih r ht⟩

theorem forall_states_perform {c : Call} (h : I s) (hc : I (answer c s).2) :
    ∀ m ∈ (perform c).states answer s, I m := by
  rw [perform, states_call]
  rcases ha : answer c s with ⟨e | r, t⟩ <;> rw [ha] at hc <;> simpa [states] using ⟨h, hc⟩

theorem forall_states_bind {p : Pass α} {f : α → Pass β} (hp : ∀ m ∈ p.states answer s, I m)
    (hf : ∀ a t, p.run answer s = (.ok a, t) → ∀ m ∈ (f a).states answer t, I m) :
    ∀ m ∈ (p.bind f).states answer s, I m := by
  induction p generalizing s with
  | done a => exact hf a s rfl
  | abort e => exact hp
  | call c next ih =>
    rw [states_call] at hp
    rw [call_bind, states_call]
    refine List.forall_mem_cons.2 ⟨hp s List.mem_cons_self, ?_⟩
    rcases ha : answer c s with ⟨e | r, t⟩
    · rw [ha] at hp
      exact fun m hm => hp m (List.mem_cons_of_mem _ hm)
    · rw [ha] at hp
      refine ih r (fun m hm => hp m (List.mem_cons_of_mem _ hm)) fun a m hm => hf a m ?_
      rw [run_call, ha]
      exact hm

/-- What is made of the value at the end leaves no trace. -/
theorem states_bind_done (p : Pass α) (g : α → β) (s : σ) :
    (p.bind fun a => .done (g a)).states answer s = p.states answer s := by
  induction p generalizing s with
  | done a => rfl
  | abort e => rfl
  | call c next ih =>
    rw [call_bind, states_call, states_call]
    rcases answer c s with ⟨e | r, t⟩
    · rfl
    · exact congrArg (s :: ·) (ih r t)

/-! ## Loops -/

variable {δ : Type} {view : σ → δ} {can : γ → δ → Bool} {step : γ → δ → δ} {f : γ → Pass α}
  {l : List γ} {v : δ}

/-- What is seen of the store is changed at one point of the pass at most, and so if it succeeds. -/
structure Attempts (answer : Answer σ) (view : σ → δ) (succeeds : Bool) (after : δ) (p : Pass α)
    (s : σ) : Prop where
  isOk : (p.run answer s).1.isOk = succeeds
  leaves : view (p.run answer s).2 = if succeeds then after else view s
  between : ∀ m ∈ p.states answer s, view m = view s ∨ view m = view (p.run answer s).2

/-- The items that a loop gets through, when `can` tells with which it succeeds and `step` what it
makes of them. -/
def through (can : γ → δ → Bool) (step : γ → δ → δ) : List γ → δ → List γ
  | [], _ => []
  | a :: rest, v => if can a v then a :: through can step rest (step a v) else []

theorem through_eq_self (h : ∀ a v, can a v = true) : through can step l v = l := by
  induction l generalizing v with
  | nil => rfl
  | cons a rest ih => rw [through, if_pos (h a v), ih]

/-- A loop leaves what the items that it gets through make of the store, and leads through what the
first few of them make of it. -/
theorem collect_states (answer : Answer σ) (view : σ → δ) (can : γ → δ → Bool) (step : γ → δ → δ)
    (hf : ∀ a ∈ l, ∀ s, Attempts answer view (can a (view s)) (step a (view s)) (f a) s) (s : σ) :
    let items := through can step l (view s)
    let after := (collect f l).run answer s
    (after.1.isOk = true ↔ items = l) ∧
      view after.2 = items.foldl (fun v a => step a v) (view s) ∧
      ∀ m ∈ (collect f l).states answer s,
        ∃ p, p <+: items ∧ view m = p.foldl (fun v a => step a v) (view s) := by
  induction l generalizing s with
  | nil => exact ⟨iff_of_true rfl rfl, rfl, by simp [collect, states, through]⟩
  | cons a rest ih =>
    have ha := hf a List.mem_cons_self s
    have hfirst : ∀ m ∈ (f a).states answer s, ∃ p, p <+: through can step (a :: rest) (view s) ∧
        view m = p.foldl (fun v a => step a v) (view s) := fun m hm => by
      obtain h | h := ha.between m hm
      · exact ⟨[], List.nil_prefix, h⟩
      · rw [ha.leaves] at h
        cases hc : can a (view s) with
        | false => exact ⟨[], List.nil_prefix, by simpa [hc] using h⟩
        | true =>
          rw [through, if_pos hc]
          exact ⟨[a], by simp, by simpa [hc] using h⟩
    simp only [collect, bind_eq, pure_eq]
    rcases hrun : (f a).run answer s with ⟨e | b, t⟩
    · -- the loop ends here
      have hc : can a (view s) = false := by rw [← ha.isOk, hrun]; rfl
      have hv : view t = view s := by simpa [hrun, hc] using ha.leaves
      rw [run_bind_of_error hrun]
      have hnone : through can step (a :: rest) (view s) = [] := by
        rw [through, hc, if_neg Bool.false_ne_true]
      refine ⟨iff_of_false Bool.false_ne_true ?_, ?_, forall_states_bind hfirst fun b t ht => ?_⟩
      · rw [hnone]
        exact (List.cons_ne_nil a rest).symm
      · rw [hnone]
        exact hv
      · rw [hrun] at ht
        cases ht
    · have hc : can a (view s) = true := by rw [← ha.isOk, hrun]; rfl
      have hv : view t = step a (view s) := by simpa [hrun, hc] using ha.leaves
      have hthrough : through can step (a :: rest) (view s) =
          a :: through can step rest (view t) := by rw [through, if_pos hc, hv]
      obtain ⟨hok, hleft, hstates⟩ := ih (fun a ha => hf a (List.mem_cons_of_mem _ ha)) t
      rw [run_bind_of_ok hrun, run_bind_done, hthrough]
      refine ⟨?_, ?_, forall_states_bind (hthrough ▸ hfirst) fun b' t' ht => ?_⟩
      · rw [List.cons_inj_right, ← hok]
        cases ((collect f rest).run answer t).1 <;> rfl
      · rw [List.foldl_cons, ← hv]
        exact hleft
      · rw [hrun] at ht
        cases ht
        have hrest : ∀ m ∈ (collect f rest).states answer t,
            ∃ p, p <+: a :: through can step rest (view t) ∧
              view m = p.foldl (fun v a => step a v) (view s) := fun m hm => by
          obtain ⟨p, hp, hm⟩ := hstates m hm
          exact ⟨a :: p, List.cons_prefix_cons.2 ⟨rfl, hp⟩, by rw [hm, List.foldl_cons, hv]⟩
        rwa [states_bind_done]

end Pass

end ControlPlane
