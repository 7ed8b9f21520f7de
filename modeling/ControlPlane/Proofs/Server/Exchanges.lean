import ControlPlane.Proofs.Server.Calls

/-!
# What a pass says, whatever it is answered

A pass that runs among others is not alone with its store: what it is answered depends on all of them.
What can be said of it is said for all replies, by recursion on the pass.

* `Pass.Ends`: the exchanges by which a pass comes to its end, and `ends_bind` of its parts.
* `Pass.Meets`: the calls of a pass are in order, each after what was said before it, and so is its
  end. `Meets.bind`, `meets_forEach` and `meets_collect` put it together from that of the parts.
* `Pass.Only`: a pass makes no other calls than these.
-/

namespace ControlPlane

/-- A call and its reply. -/
structure Exchange where
  call : Call
  reply : call.Reply

namespace Pass

variable {α β γ : Type} {ok : List Exchange → Call → Prop} {q : Call → Bool}
  {log : List Exchange} {p : Pass α}

/-- The pass ends in a value when it is answered like this. -/
inductive Ends : Pass α → List Exchange → α → Prop
  | done {a : α} : Ends (.done a) [] a
  | call {c : Call} {next : c.Reply → Pass α} {reply : c.Reply} {rest : List Exchange} {a : α}
    (h : Ends (next reply) rest a) : Ends (.call c next) (⟨c, reply⟩ :: rest) a

/-- A pass in two parts comes to its end by the exchanges of both. -/
theorem ends_bind {f : α → Pass β} {b : β} (h : (p.bind f).Ends log b) :
    ∃ a l l', log = l ++ l' ∧ p.Ends l a ∧ (f a).Ends l' b := by
  induction p generalizing log with
  | done a => exact ⟨a, [], log, rfl, .done, h⟩
  | abort e => cases h
  | call c next ih =>
    cases h with
    | @call _ _ reply rest _ h =>
      obtain ⟨a, l, l', rfl, hp, hf⟩ := ih reply h
      exact ⟨a, _, l', rfl, .call hp, hf⟩

/-- After what has been said, and whatever is answered, each call is in order and so is the end. -/
def Meets (ok : List Exchange → Call → Prop) (post : α → List Exchange → Prop) :
    Pass α → List Exchange → Prop
  | .done a, log => post a log
  | .abort _, _ => True
  | .call c next, log => ok log c ∧ ∀ reply, (next reply).Meets ok post (log ++ [⟨c, reply⟩])

theorem Meets.bind {P : α → List Exchange → Prop} {P' : β → List Exchange → Prop}
    {f : α → Pass β} (hp : p.Meets ok P log)
    (hf : ∀ a l, P a l → (f a).Meets ok P' l) : (p.bind f).Meets ok P' log := by
  induction p generalizing log with
  | done a => exact hf a log hp
  | abort e => trivial
  | call c next ih => exact ⟨hp.1, fun reply => ih reply (hp.2 reply)⟩

theorem Meets.imp {ok' : List Exchange → Call → Prop} {P P' : α → List Exchange → Prop}
    (h : p.Meets ok P log) (hok : ∀ l c, ok l c → ok' l c)
    (hpost : ∀ a l, P a l → P' a l) : p.Meets ok' P' log := by
  induction p generalizing log with
  | done a => exact hpost a log h
  | abort e => trivial
  | call c next ih => exact ⟨hok log c h.1, fun reply => ih reply (h.2 reply)⟩

/-- A pass whose calls are in order comes to its end by some exchanges. -/
theorem Meets.ends (h : p.Meets ok (fun _ _ => True) log) :
    p.Meets ok (fun a l => ∃ rest, l = log ++ rest ∧ p.Ends rest a) log := by
  induction p generalizing log with
  | done a => exact ⟨[], (List.append_nil log).symm, .done⟩
  | abort e => trivial
  | call c next ih =>
    refine ⟨h.1, fun reply => (ih reply (h.2 reply)).imp (fun _ _ hc => hc) ?_⟩
    rintro a l ⟨rest, rfl, hrest⟩
    exact ⟨⟨c, reply⟩ :: rest, List.append_assoc .., .call hrest⟩

theorem meets_perform {c : Call} {P : c.Reply → List Exchange → Prop} (hc : ok log c)
    (hpost : ∀ reply, P reply (log ++ [⟨c, reply⟩])) : (perform c).Meets ok P log :=
  ⟨hc, hpost⟩

theorem meets_ofExcept {r : Except Error α} {P : α → List Exchange → Prop}
    (h : ∀ a, r = .ok a → P a log) : (ofExcept r).Meets ok P log := by
  cases r with
  | ok a => exact h a rfl
  | error e => trivial

/-- A loop keeps what each of its steps keeps. -/
theorem meets_forEach {f : γ → Pass Unit} {l : List γ} {I : List Exchange → Prop}
    (hf : ∀ a ∈ l, ∀ log, I log → (f a).Meets ok (fun _ => I) log) (h : I log) :
    (forEach f l).Meets ok (fun _ => I) log := by
  induction l generalizing log with
  | nil => exact h
  | cons a rest ih =>
    refine (hf a List.mem_cons_self log h).bind fun _ log' h' => ?_
    exact ih (fun a ha => hf a (List.mem_cons_of_mem _ ha)) h'

/-- The same for a loop that collects. -/
theorem meets_collect {f : γ → Pass α} {l : List γ} {I : List Exchange → Prop}
    (hf : ∀ a ∈ l, ∀ log, I log → (f a).Meets ok (fun _ => I) log) (h : I log) :
    (collect f l).Meets ok (fun _ => I) log := by
  induction l generalizing log with
  | nil => exact h
  | cons a rest ih =>
    refine (hf a List.mem_cons_self log h).bind fun _ log' h' => ?_
    exact (ih (fun a ha => hf a (List.mem_cons_of_mem _ ha)) h').bind fun _ _ h => h

/-! ## The calls of a pass -/

/-- Over any store the calls of a pass are such as they are after any replies. -/
theorem Meets.forall_calls {σ : Type} {answer : Answer σ} {s : σ} {Q : Call → Prop}
    {P : α → List Exchange → Prop} (h : p.Meets (fun _ c => Q c) P log) :
    ∀ c ∈ p.calls answer s, Q c := by
  induction p generalizing s log with
  | done a => simp
  | abort e => simp
  | call d next ih =>
    intro c hc
    rw [calls_call] at hc
    rcases List.mem_cons.1 hc with rfl | hc
    · exact h.1
    · rcases ha : answer d s with ⟨e | r, t⟩ <;> rw [ha] at hc
      · cases hc
      · exact ih r (h.2 r) c hc

/-- Whatever is answered, the pass makes only calls of this kind. -/
def Only (q : Call → Bool) (p : Pass α) : Prop :=
  ∀ log, p.Meets (fun _ c => q c = true) (fun _ _ => True) log

@[simp] theorem only_done (a : α) : (done a).Only q := fun _ => trivial

@[simp] theorem only_abort (e : Error) : (abort e : Pass α).Only q := fun _ => trivial

theorem only_perform {c : Call} (h : q c = true) : (perform c).Only q :=
  fun _ => ⟨h, fun _ => trivial⟩

theorem only_ofExcept (r : Except Error α) : (ofExcept r).Only q :=
  fun _ => meets_ofExcept fun _ _ => trivial

theorem Only.meets (h : p.Only q) (hok : ∀ l c, q c = true → ok l c) :
    p.Meets ok (fun _ _ => True) log :=
  (h log).imp hok fun _ _ _ => trivial

theorem Only.imp {q' : Call → Bool} (h : p.Only q) (hq : ∀ c, q c = true → q' c = true) :
    p.Only q' :=
  fun log => (h log).imp (fun _ => hq) fun _ _ h => h

theorem Only.bind {f : α → Pass β} (hp : p.Only q) (hf : ∀ a, (f a).Only q) : (p.bind f).Only q :=
  fun log => (hp log).bind fun a l _ => hf a l

theorem only_forEach {f : γ → Pass Unit} {l : List γ} (hf : ∀ a ∈ l, (f a).Only q) :
    (forEach f l).Only q :=
  fun _ => (meets_forEach (I := fun _ => True) (fun a ha log _ => hf a ha log) trivial)

theorem only_collect {f : γ → Pass α} {l : List γ} (hf : ∀ a ∈ l, (f a).Only q) :
    (collect f l).Only q :=
  fun _ => (meets_collect (I := fun _ => True) (fun a ha log _ => hf a ha log) trivial)

theorem Only.forall_calls {σ : Type} {answer : Answer σ} {s : σ} (h : p.Only q) :
    ∀ c ∈ p.calls answer s, q c = true :=
  (h []).forall_calls

theorem Only.run_related {σ : Type} {answer : Answer σ} {R : σ → σ → Prop} (h : p.Only q) (hrefl : ∀ s, R s s)
    (htrans : ∀ s t u, R s t → R t u → R s u)
    (hcall : ∀ c s, q c = true → R s (answer c s).2) (s : σ) : R s (p.run answer s).2 :=
  Pass.run_related hrefl htrans fun c hc t => hcall c t (h.forall_calls c hc)

end Pass

end ControlPlane
