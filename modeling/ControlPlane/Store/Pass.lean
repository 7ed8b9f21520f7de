import ControlPlane.Store.Call

/-!
# Passes over the store

A pass is a program that ends in a value or an error and otherwise makes a call and goes on with its
reply. What answers the calls is left open: `Pass.run` takes any store, and an error it answers with
ends the pass.

* `run_bind`: a pass followed by another runs as the two, one after the other.
* `run_bind_eq_ok`: what is known of the parts when the whole has ended well.
-/

namespace ControlPlane

/-- A program over the store. -/
inductive Pass (α : Type) where
  | done (a : α)
  | abort (e : Error)
  | call (c : Call) (next : c.Reply → Pass α)

/-- A store: how it answers a call, and what becomes of it. -/
abbrev Answer (σ : Type) := (c : Call) → σ → Except Error c.Reply × σ

namespace Pass

variable {α β σ : Type}

/-- The pass that goes on with `f` where `p` ends. -/
def bind (p : Pass α) (f : α → Pass β) : Pass β :=
  match p with
  | .done a => f a
  | .abort e => .abort e
  | .call c next => .call c fun r => (next r).bind f

instance : Monad Pass where
  pure := .done
  bind := bind

/-- A single call. -/
def perform (c : Call) : Pass c.Reply :=
  .call c .done

/-- Goes on with a value, or ends in an error. -/
def ofExcept : Except Error α → Pass α
  | .ok a => .done a
  | .error e => .abort e

/-- Runs a pass over a store. -/
def run (answer : Answer σ) : Pass α → σ → Except Error α × σ
  | .done a, s => (.ok a, s)
  | .abort e, s => (.error e, s)
  | .call c next, s =>
    match answer c s with
    | (.ok r, s) => (next r).run answer s
    | (.error e, s) => (.error e, s)

/-- Carries out an action for each item in turn. -/
def forEach (f : α → Pass Unit) : List α → Pass Unit
  | [] => .done ()
  | a :: rest => do
    f a
    forEach f rest

@[simp] theorem pure_eq (a : α) : (pure a : Pass α) = .done a := rfl

@[simp] theorem bind_eq (p : Pass α) (f : α → Pass β) : p >>= f = p.bind f := rfl

@[simp] theorem done_bind (a : α) (f : α → Pass β) : (done a).bind f = f a := rfl

@[simp] theorem abort_bind (e : Error) (f : α → Pass β) : (abort e).bind f = .abort e := rfl

@[simp] theorem call_bind (c : Call) (next : c.Reply → Pass α) (f : α → Pass β) :
    (call c next).bind f = .call c fun r => (next r).bind f := rfl

@[simp] theorem bind_done (p : Pass α) : p.bind done = p := by
  induction p with
  | done a => rfl
  | abort e => rfl
  | call c next ih => simp [ih]

theorem bind_assoc {γ : Type} (p : Pass α) (f : α → Pass β) (g : β → Pass γ) :
    (p.bind f).bind g = p.bind fun a => (f a).bind g := by
  induction p with
  | done a => rfl
  | abort e => rfl
  | call c next ih => simp [ih]

instance : LawfulMonad Pass :=
  LawfulMonad.mk' Pass
    (by intro α p; exact bind_done p) (by intros; rfl) (by intros; exact bind_assoc ..)

@[simp] theorem run_done (answer : Answer σ) (a : α) (s : σ) :
    (done a).run answer s = (.ok a, s) := rfl

@[simp] theorem run_abort (answer : Answer σ) (e : Error) (s : σ) :
    (abort e : Pass α).run answer s = (.error e, s) := rfl

theorem run_call (answer : Answer σ) (c : Call) (next : c.Reply → Pass α) (s : σ) :
    (call c next).run answer s =
      match answer c s with
      | (.ok r, s) => (next r).run answer s
      | (.error e, s) => (.error e, s) := by
  rw [run]

theorem run_bind (answer : Answer σ) (p : Pass α) (f : α → Pass β) (s : σ) :
    (p.bind f).run answer s =
      match p.run answer s with
      | (.ok a, s) => (f a).run answer s
      | (.error e, s) => (.error e, s) := by
  induction p generalizing s with
  | done a => rfl
  | abort e => rfl
  | call c next ih =>
    simp only [call_bind, run_call]
    split <;> simp_all

@[simp] theorem run_perform (answer : Answer σ) (c : Call) (s : σ) :
    (perform c).run answer s = answer c s := by
  rw [perform, run_call]
  split <;> simp_all

/-- A result that a pass goes on with is a value. -/
theorem run_ofExcept_eq_ok {answer : Answer σ} {r : Except Error α} {s t : σ} {a : α}
    (h : (ofExcept r).run answer s = (.ok a, t)) : r = .ok a := by
  cases r <;> cases h
  rfl

/-- A pass that ends well ran its first part well. -/
theorem run_bind_eq_ok {answer : Answer σ} {p : Pass α} {f : α → Pass β} {s t : σ} {b : β} :
    (p.bind f).run answer s = (.ok b, t) ↔
      ∃ a m, p.run answer s = (.ok a, m) ∧ (f a).run answer m = (.ok b, t) := by
  rw [run_bind]
  constructor
  · intro h
    split at h
    · next a m hp => exact ⟨a, m, hp, h⟩
    · cases h
  · rintro ⟨a, m, hp, h⟩
    rw [hp]
    exact h

/-- Goes on after a first part that ends well. -/
theorem run_bind_of_ok {answer : Answer σ} {p : Pass α} {s t : σ} {a : α}
    (h : p.run answer s = (.ok a, t)) (f : α → Pass β) :
    (p.bind f).run answer s = (f a).run answer t := by
  rw [run_bind, h]

/-- Ends with a first part that fails. -/
theorem run_bind_of_error {answer : Answer σ} {p : Pass α} {s t : σ} {e : Error}
    (h : p.run answer s = (.error e, t)) (f : α → Pass β) :
    (p.bind f).run answer s = (.error e, t) := by
  rw [run_bind, h]

/-- What is made of the value at the end leaves the store alone. -/
theorem run_bind_done (answer : Answer σ) (p : Pass α) (g : α → β) (s : σ) :
    (p.bind fun a => .done (g a)).run answer s =
      ((p.run answer s).1.map g, (p.run answer s).2) := by
  rw [run_bind]
  rcases p.run answer s with ⟨_ | a, t⟩ <;> rfl

end Pass

end ControlPlane
