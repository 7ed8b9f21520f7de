import Mathlib.Logic.Function.Basic
import ControlPlane.Proofs.Server.Exchanges
import ControlPlane.Proofs.Server.Snapshots
import ControlPlane.Reconcile.Deployment
import ControlPlane.Reconcile.Instance
import ControlPlane.Reconcile.Schedule
import ControlPlane.Reconcile.Workload

/-!
# Passes that run among others

Any number of passes of the controllers are under way over one server. They make their calls one at
a time and in any order, each pass on an object as its controller once read it; a call may fail, a
reply may get lost, and a pass may be left where it is. In between others change what is stored.

* `System.Step`: what can happen next, and `System.Performs` the part of the passes in it.
* `System.Run`: a whole run, from a server on which no pass is under way.
* `Step.preserves`, `Step.related`, `Run.related`: what calls and others keep is kept by runs.
* `System.after`: runs by turns.
-/

namespace ControlPlane

/-- A pass to be made on an object, as it was read at whatever time. -/
inductive Task where
  | workload (w : Workload)
  | scheduling (d : Deployment)
  | deployment (d : Deployment)
  | inst (i : Instance)

/-- The pass that a task asks for. -/
def Task.pass (now : Instant) : Task → Pass Requeue
  | .workload w => w.reconcile now
  | .scheduling d => d.schedule now
  | .deployment d => d.reconcile now
  | .inst i => i.reconcile now

/-- A pass that is under way. -/
structure Job where
  task : Task
  /-- What it has asked and was told. -/
  log : List Exchange := []
  /-- How it goes on. -/
  rest : Pass Requeue

/-- A server and the passes under way, each in a slot of its own. -/
structure System where
  server : Server
  jobs : Nat → Option Job

/-- The instances in a reply. -/
def Exchange.instances : Exchange → List Instance
  | ⟨.listInstances _ _, reply⟩ => reply
  | _ => []

/-- The instances that were listed. -/
def listedIn (log : List Exchange) : List Instance :=
  log.flatMap Exchange.instances

theorem listedIn_append (log rest : List Exchange) :
    listedIn (log ++ rest) = listedIn log ++ listedIn rest :=
  List.flatMap_append ..

theorem listedIn_singleton (e : Exchange) : listedIn [e] = e.instances :=
  List.flatMap_singleton ..

namespace System

variable {outside : Server → Server → Prop} {s t : System} {j : Job} {c : Call}

/-- A pass makes a call. -/
inductive Performs (s : System) (j : Job) (c : Call) : System → Prop
  /-- The server answers, and the pass goes on. -/
  | answered {i : Nat} {next : c.Reply → Pass Requeue} {now : Instant} {reply : c.Reply}
    {server : Server} (is : s.jobs i = some j) (rest : j.rest = .call c next)
    (answer : Server.answer now c s.server = (.ok reply, server)) :
    Performs s j c ⟨server, Function.update s.jobs i
      (some { j with log := j.log ++ [⟨c, reply⟩], rest := next reply })⟩
  /-- The call fails, though it may have been carried out, and the pass ends. -/
  | failed {i : Nat} {next : c.Reply → Pass Requeue} {now : Instant} {server : Server}
    (is : s.jobs i = some j) (rest : j.rest = .call c next)
    (may : server = s.server ∨ server = (Server.answer now c s.server).2) :
    Performs s j c ⟨server, Function.update s.jobs i none⟩

/-- What happens next, where others may turn the server into another as `outside` says. -/
inductive Step (outside : Server → Server → Prop) : System → System → Prop
  /-- A controller begins a pass. -/
  | begins {s : System} {i : Nat} {task : Task} {now : Instant} (free : s.jobs i = none) :
    Step outside s ⟨s.server, Function.update s.jobs i (some { task, rest := task.pass now })⟩
  | performs {s t : System} {j : Job} {c : Call} (h : s.Performs j c t) : Step outside s t
  | others {s : System} {server : Server} (h : outside s.server server) :
    Step outside s ⟨server, s.jobs⟩

/-- A run in which no pass is under way at first. One that has come to rest goes on by changes of
others that change nothing. -/
structure Run (outside : Server → Server → Prop) (w : Nat → System) : Prop where
  idle : ∀ i, (w 0).jobs i = none
  step : ∀ n, Step outside (w n) (w (n + 1))

theorem update_slot {i k : Nat} {o : Option Job} (h : Function.update s.jobs k o i = some j) :
    (i = k ∧ o = some j) ∨ s.jobs i = some j := by
  by_cases hk : i = k
  · subst hk
    rw [Function.update_self] at h
    exact .inl ⟨rfl, h⟩
  · rw [Function.update_of_ne hk] at h
    exact .inr h

/-- A call is carried out or leaves the server alone. -/
theorem Performs.server_cases (hp : s.Performs j c t) : t.server = s.server ∨
    ∃ now, t.server = (Server.answer now c s.server).2 := by
  cases hp with
  | @answered _ _ now _ _ _ _ answer => exact .inr ⟨now, by rw [answer]⟩
  | @failed _ _ now _ _ _ may => exact may.imp_right fun h => ⟨now, h⟩

/-- What holds of a server goes on to hold when every call and all that others do keep it. -/
theorem Step.preserves {P : Server → Prop} (h : Step outside s t)
    (houtside : ∀ a b, outside a b → P a → P b)
    (hcall : ∀ j c t now, s.Performs j c t → P s.server → P (Server.answer now c s.server).2)
    (hs : P s.server) : P t.server := by
  cases h with
  | begins free => exact hs
  | performs hp =>
    obtain h | ⟨now, h⟩ := hp.server_cases <;> rw [h]
    · exact hs
    · exact hcall _ _ _ now hp hs
  | others h => exact houtside _ _ h hs

/-- What every call and all that others do brings about is brought about by every step. -/
theorem Step.related {R : Server → Server → Prop} (hrefl : ∀ a, R a a)
    (hanswer : ∀ a now c, R a (Server.answer now c a).2) (houtside : ∀ a b, outside a b → R a b)
    (h : Step outside s t) : R s.server t.server := by
  cases h with
  | begins free => exact hrefl _
  | performs h =>
    obtain h | ⟨now, h⟩ := h.server_cases <;> rw [h]
    · exact hrefl _
    · exact hanswer _ now _
  | others h => exact houtside _ _ h

theorem Step.advances (houtside : ∀ a b, outside a b → a.instances.Advances b.instances)
    (h : Step outside s t) : s.server.instances.Advances t.server.instances :=
  h.related (R := fun a b => a.instances.Advances b.instances) (fun _ => .refl _)
    Server.advances_answer houtside

/-- What every step brings about and what adds up is brought about by a whole run. -/
theorem Run.related {R : Server → Server → Prop} {w : Nat → System} (h : Run outside w)
    (hrefl : ∀ a, R a a) (htrans : ∀ a b c, R a b → R b c → R a c)
    (hstep : ∀ s t, Step outside s t → R s.server t.server) {m n : Nat} (hmn : m ≤ n) :
    R (w m).server (w n).server := by
  induction hmn with
  | refl => exact hrefl _
  | @step n _ ih => exact htrans _ _ _ ih (hstep _ _ (h.step n))

/-! ## Runs by turns -/

/-- A pass begins in a slot, or makes its next call, or others change the server. -/
inductive Turn where
  | begin (slot : Nat) (task : Task) (now : Instant)
  | call (slot : Nat) (now : Instant)
  | others (change : Server → Server)

/-- The system after a turn; one that cannot be taken changes nothing. -/
def take (s : System) : Turn → System
  | .begin i task now =>
    match s.jobs i with
    | none => ⟨s.server, Function.update s.jobs i (some { task, rest := task.pass now })⟩
    | some _ => s
  | .call i now =>
    match s.jobs i with
    | some ⟨task, log, .call c next⟩ =>
      match Server.answer now c s.server with
      | (.ok reply, server) =>
        ⟨server, Function.update s.jobs i (some ⟨task, log ++ [⟨c, reply⟩], next reply⟩)⟩
      | (.error _, server) => ⟨server, Function.update s.jobs i none⟩
    | _ => s
  | .others change => ⟨change s.server, s.jobs⟩

theorem step_take (hrefl : ∀ a, outside a a) {turn : Turn}
    (hothers : ∀ change, turn = .others change → outside s.server (change s.server)) :
    Step outside s (s.take turn) := by
  have stays : Step outside s s := .others (hrefl s.server)
  cases turn with
  | begin i task now =>
    rw [take]
    split
    · next free => exact .begins free
    · exact stays
  | call i now =>
    rw [take]
    split
    · next task log c next is =>
      split
      · next reply server answer => exact .performs (.answered is rfl answer)
      · next e server answer => exact .performs (.failed is rfl (.inr (by rw [answer])))
    · exact stays
  | others change => exact .others (hothers change rfl)

/-- The systems that some turns lead through, the last of them for ever after. -/
def after (s : System) (turns : List Turn) (n : Nat) : System :=
  (turns.take n).foldl take s

theorem run_after (hrefl : ∀ a, outside a a) (hidle : ∀ i, s.jobs i = none) {turns : List Turn}
    (hothers : ∀ change, .others change ∈ turns → ∀ a, outside a (change a)) :
    Run outside (s.after turns) := by
  refine ⟨hidle, fun n => ?_⟩
  rw [after, after, List.take_add_one, List.foldl_append]
  cases hturn : turns[n]? with
  | none => exact .others (hrefl _)
  | some turn =>
    refine step_take hrefl fun change h => ?_
    exact hothers change (h ▸ List.mem_of_getElem? hturn) _

end System

end ControlPlane
