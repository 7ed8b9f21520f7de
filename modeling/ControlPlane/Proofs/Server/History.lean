import ControlPlane.Proofs.Server.Interleaving

/-!
# How a pass came to be where it is

A pass that is under way was begun some time before and has been under way ever since. Each reply in
its log was given by the server at a step in between, and the pass is what is left of it after these
replies, so that what is said of passes for all replies holds of it.

* `Pass.Leads`, `Meets.leads`: what is left of a pass after some exchanges.
* `System.Under`: the pass of a task has been under way in a slot for some time.
* `Run.begun`, `Run.answered`: when a pass was begun, and when the server gave it a reply.
* `System.Orderly`: every pass keeps to what holds of its calls for all replies, and what it was told
  of instances was stored once. `Run.orderly` has it of every system in a run.
* `after_eq_last`, `exists_turn_of_job`: the same for runs by turns.
-/

namespace ControlPlane

namespace Pass

variable {α : Type} {ok : List Exchange → Call → Prop} {post : α → List Exchange → Prop}
  {log rest : List Exchange} {p q : Pass α}

/-- What is left of a pass after these exchanges. -/
inductive Leads (p : Pass α) : List Exchange → Pass α → Prop
  | refl : Leads p [] p
  | step {c : Call} {next : c.Reply → Pass α} {log : List Exchange}
    (h : Leads p log (.call c next)) (reply : c.Reply) : Leads p (log ++ [⟨c, reply⟩]) (next reply)

/-- What is said of a pass for all replies is said of what is left of it. -/
theorem Meets.leads (h : p.Meets ok post log) (hp : p.Leads rest q) :
    q.Meets ok post (log ++ rest) := by
  induction hp with
  | refl => rwa [List.append_nil]
  | step _ reply ih =>
    rw [← List.append_assoc]
    exact ih.2 reply

end Pass

/-- The pass has a call to make. -/
def Job.Active (j : Job) : Prop :=
  ∃ c next, j.rest = .call c next

namespace System

variable {outside : Server → Server → Prop} {s t : System} {w : Nat → System} {n i : Nat} {j : Job}
  {c : Call}

/-- How a pass comes to be in a slot after a step. -/
inductive Came (s t : System) (i : Nat) (j : Job) : Prop
  /-- It was there, and nothing was asked by it. -/
  | stayed (is : s.jobs i = some j)
  /-- It was begun. -/
  | begun {task : Task} {now : Instant} (free : s.jobs i = none) (server : t.server = s.server)
    (eq : j = { task, rest := task.pass now })
  /-- It was there, and was given a reply. -/
  | answered {before : Job} {c : Call} {next : c.Reply → Pass Requeue} {now : Instant}
    {reply : c.Reply} (is : s.jobs i = some before) (rest : before.rest = .call c next)
    (answer : Server.answer now c s.server = (.ok reply, t.server))
    (eq : j = { before with log := before.log ++ [⟨c, reply⟩], rest := next reply })

theorem Step.came (h : Step outside s t) (hj : t.jobs i = some j) : Came s t i j := by
  cases h with
  | others _ => exact .stayed hj
  | begins free =>
    obtain ⟨rfl, eq⟩ | hj := update_slot hj
    · exact .begun free rfl (Option.some.inj eq).symm
    · exact .stayed hj
  | performs hp =>
    cases hp with
    | answered is rest answer =>
      obtain ⟨rfl, eq⟩ | hj := update_slot hj
      · exact .answered is rest answer (Option.some.inj eq).symm
      · exact .stayed hj
    | failed is rest may =>
      obtain ⟨-, eq⟩ | hj := update_slot hj
      · cases eq
      · exact .stayed hj

/-- A pass that makes a call is in some slot. -/
theorem Performs.exists_slot (h : s.Performs j c t) :
    ∃ i next, s.jobs i = some j ∧ j.rest = .call c next := by
  cases h with
  | answered is rest _ => exact ⟨_, _, is, rest⟩
  | failed is rest _ => exact ⟨_, _, is, rest⟩

/-- What a pass calls is in order if that is said of what is left of it. -/
theorem Performs.ok_of_meets {ok : Task → List Exchange → Call → Prop} (h : s.Performs j c t)
    (hmeets : ∀ i j, s.jobs i = some j → j.rest.Meets (ok j.task) (fun _ _ => True) j.log) :
    ok j.task j.log c := by
  obtain ⟨i, next, hj, hrest⟩ := h.exists_slot
  have hm := hmeets i j hj
  rw [hrest] at hm
  exact hm.1

theorem Performs.active (h : s.Performs j c t) : j.Active :=
  have ⟨_, next, _, hrest⟩ := h.exists_slot
  ⟨c, next, hrest⟩

/-! ## Passes under way -/

/-- A pass of this task is under way in the slot at all these times. -/
def Under (w : Nat → System) (i : Nat) (task : Task) (m n : Nat) : Prop :=
  ∀ k, m ≤ k → k ≤ n → ∃ j, (w k).jobs i = some j ∧ j.task = task ∧ j.Active

theorem under_self (hj : (w n).jobs i = some j) (ha : j.Active) : Under w i j.task n n := by
  intro k hk hk'
  obtain rfl := Nat.le_antisymm hk' hk
  exact ⟨j, hj, rfl, ha⟩

theorem Under.succ {task : Task} {m : Nat} (h : Under w i task m n)
    (hj : (w (n + 1)).jobs i = some j) (ht : j.task = task) (ha : j.Active) :
    Under w i task m (n + 1) := by
  intro k hk hk'
  obtain hk' | rfl := Nat.le_succ_iff.1 hk'
  · exact h k hk hk'
  · exact ⟨j, hj, ht, ha⟩

/-- What is left of a pass is what its exchanges lead to. -/
theorem Run.leads (h : Run outside w) (hj : (w n).jobs i = some j) :
    ∃ now, (j.task.pass now).Leads j.log j.rest := by
  induction n generalizing j with
  | zero =>
    rw [h.idle i] at hj
    cases hj
  | succ n ih =>
    cases (h.step n).came hj with
    | stayed is => exact ih is
    | begun _ _ eq =>
      subst eq
      exact ⟨_, .refl⟩
    | answered is rest _ eq =>
      obtain ⟨now, hl⟩ := ih is
      subst eq
      rw [rest] at hl
      exact ⟨now, hl.step _⟩

/-- What is said of passes for all replies holds of those under way. -/
theorem Run.meets {ok : Task → List Exchange → Call → Prop} (h : Run outside w)
    (hok : ∀ (task : Task) (now : Instant), (task.pass now).Meets (ok task) (fun _ _ => True) [])
    (hj : (w n).jobs i = some j) : j.rest.Meets (ok j.task) (fun _ _ => True) j.log := by
  obtain ⟨now, hl⟩ := h.leads hj
  exact (hok j.task now).leads hl

/-- The call that a pass makes is in order. -/
theorem Run.ok_of_performs {ok : Task → List Exchange → Call → Prop} (h : Run outside w)
    (hok : ∀ (task : Task) (now : Instant), (task.pass now).Meets (ok task) (fun _ _ => True) [])
    (hp : (w n).Performs j c t) : ok j.task j.log c :=
  hp.ok_of_meets fun _ _ => h.meets hok

/-- A pass was begun once, and has been under way since if it is still. -/
theorem Run.begun (h : Run outside w) (hj : (w n).jobs i = some j) :
    ∃ b < n, (w b).jobs i = none ∧ (w (b + 1)).server = (w b).server ∧
      (∃ j', (w (b + 1)).jobs i = some j' ∧ j'.task = j.task) ∧
        (j.Active → Under w i j.task (b + 1) n) := by
  induction n generalizing j with
  | zero =>
    rw [h.idle i] at hj
    cases hj
  | succ n ih =>
    cases (h.step n).came hj with
    | stayed is =>
      obtain ⟨b, hb, hfree, hserver, hfirst, hunder⟩ := ih is
      exact ⟨b, Nat.lt_succ_of_lt hb, hfree, hserver, hfirst, fun ha => (hunder ha).succ hj rfl ha⟩
    | begun free server eq =>
      exact ⟨n, Nat.lt_succ_self n, free, server, ⟨j, hj, rfl⟩, under_self hj⟩
    | answered is rest _ eq =>
      have ht : j.task = _ := congrArg Job.task eq
      obtain ⟨b, hb, hfree, hserver, hfirst, hunder⟩ := ih is
      rw [ht]
      exact ⟨b, Nat.lt_succ_of_lt hb, hfree, hserver, hfirst, (hunder ⟨_, _, rest⟩).succ hj ht⟩

/-- A reply that a pass was given was given by the server at some step. A pass that is still under
way has been so since. -/
theorem Run.answered (h : Run outside w) (hj : (w n).jobs i = some j) {e : Exchange}
    (he : e ∈ j.log) : ∃ m < n, (∃ now, Server.answer now e.call (w m).server =
        (.ok e.reply, (w (m + 1)).server)) ∧ (j.Active → Under w i j.task m n) := by
  induction n generalizing j with
  | zero =>
    rw [h.idle i] at hj
    cases hj
  | succ n ih =>
    cases (h.step n).came hj with
    | stayed is =>
      obtain ⟨m, hm, hanswer, hunder⟩ := ih is he
      exact ⟨m, Nat.lt_succ_of_lt hm, hanswer, fun ha => (hunder ha).succ hj rfl ha⟩
    | begun _ _ eq =>
      subst eq
      cases he
    | answered is rest answer eq =>
      have ht : j.task = _ := congrArg Job.task eq
      have hbefore := (⟨_, _, rest⟩ : Job.Active _)
      rw [eq, List.mem_append, List.mem_singleton] at he
      rw [ht]
      obtain he | rfl := he
      · obtain ⟨m, hm, hanswer, hunder⟩ := ih is he
        exact ⟨m, Nat.lt_succ_of_lt hm, hanswer, (hunder hbefore).succ hj ht⟩
      · exact ⟨n, Nat.lt_succ_self n, ⟨_, answer⟩, (under_self is hbefore).succ hj ht⟩

/-! ## What passes have read -/

theorem Run.instances_advance (houtside : ∀ a b, outside a b → a.instances.Advances b.instances)
    (h : Run outside w) {m n : Nat} (hmn : m ≤ n) :
    (w m).server.instances.Advances (w n).server.instances :=
  h.related (R := fun a b => a.instances.Advances b.instances) (fun _ => .refl _)
    (fun _ _ _ => .trans) (fun _ _ hs => hs.advances houtside) hmn

theorem Run.deployments_advance
    (houtside : ∀ a b, outside a b → a.deployments.Advances b.deployments) (h : Run outside w)
    {m n : Nat} (hmn : m ≤ n) : (w m).server.deployments.Advances (w n).server.deployments :=
  h.related (R := fun a b => a.deployments.Advances b.deployments) (fun _ => .refl _)
    (fun _ _ _ => .trans)
    (fun _ _ hs => hs.related (R := fun a b => a.deployments.Advances b.deployments)
      (fun _ => .refl _) Server.deployments_advance houtside) hmn

/-- A deployment that a pass was given was stored before. -/
theorem Run.stored_of_read (h : Run outside w) {ns name : String} {o : Deployment}
    (hj : (w n).jobs i = some j) (he : ⟨.getDeployment ns name, some o⟩ ∈ j.log) :
    ∃ m < n, (w m).server.deployments.find? ns name = some o := by
  obtain ⟨m, hm, ⟨now, hanswer⟩, -⟩ := h.answered hj he
  injection hanswer with hreply _
  exact ⟨m, hm, Except.ok.inj hreply⟩

theorem Run.known_of_read (houtside : ∀ a b, outside a b → a.deployments.Advances b.deployments)
    (h : Run outside w) {ns name : String} {o : Deployment} (hj : (w n).jobs i = some j)
    (he : ⟨.getDeployment ns name, some o⟩ ∈ j.log) : (w n).server.deployments.Known o := by
  obtain ⟨m, hm, hfind⟩ := h.stored_of_read hj he
  exact (Table.known_of_mem (Table.find?_eq_some_iff.1 hfind).1).advances
    (h.deployments_advance houtside (Nat.le_of_lt hm))

/-- An instance that a pass was told of was stored once. -/
theorem Run.known_of_listed (houtside : ∀ a b, outside a b → a.instances.Advances b.instances)
    (h : Run outside w) (hj : (w n).jobs i = some j) {x : Instance} (hx : x ∈ listedIn j.log) :
    (w n).server.instances.Known x := by
  obtain ⟨⟨c, reply⟩, he, hx⟩ := List.mem_flatMap.1 hx
  obtain ⟨m, hm, ⟨now, hanswer⟩, -⟩ := h.answered hj he
  cases c with
  | listInstances ns uid =>
    injection hanswer with hreply _
    obtain rfl : _ = reply := Except.ok.inj hreply
    exact (Table.known_of_mem (List.mem_filter.1 hx).1).advances
      (h.instances_advance houtside (Nat.le_of_lt hm))
  | _ => cases hx

/-- Every pass keeps its calls in order, and what it was told of instances was stored once. -/
structure Orderly (ok : Task → List Exchange → Call → Prop) (s : System) : Prop where
  conforms : ∀ i j, s.jobs i = some j → j.rest.Meets (ok j.task) (fun _ _ => True) j.log
  known : ∀ i j, s.jobs i = some j → ∀ x ∈ listedIn j.log, s.server.instances.Known x

theorem Orderly.ok_of_performs {ok : Task → List Exchange → Call → Prop} (h : s.Orderly ok)
    (hp : s.Performs j c t) : ok j.task j.log c :=
  hp.ok_of_meets h.conforms

theorem Orderly.known_of_performs {ok : Task → List Exchange → Call → Prop} (h : s.Orderly ok)
    (hp : s.Performs j c t) {x : Instance} (hx : x ∈ listedIn j.log) :
    s.server.instances.Known x :=
  have ⟨i, _, hj, _⟩ := hp.exists_slot
  h.known i j hj x hx

theorem Run.orderly {ok : Task → List Exchange → Call → Prop} (h : Run outside w)
    (houtside : ∀ a b, outside a b → a.instances.Advances b.instances)
    (hok : ∀ (task : Task) (now : Instant), (task.pass now).Meets (ok task) (fun _ _ => True) [])
    (n : Nat) : (w n).Orderly ok :=
  ⟨fun _ _ => h.meets hok, fun _ _ hj _ => h.known_of_listed houtside hj⟩

/-! ## Runs by turns -/

variable {turns : List Turn}

/-- After the last turn nothing happens. -/
theorem after_eq_last (h : turns.length ≤ n) : s.after turns n = s.after turns turns.length := by
  rw [after, after, List.take_of_length_le h, List.take_length]

theorem after_succ {turn : Turn} (h : turns[n]? = some turn) :
    s.after turns (n + 1) = (s.after turns n).take turn := by
  rw [after, after, List.take_add_one, h, Option.toList_some, List.foldl_append]
  rfl

theorem jobs_take {turn : Turn} (hj : (s.take turn).jobs i = some j) :
    (∃ now, turn = .begin i j.task now) ∨
      ∃ j', s.jobs i = some j' ∧ j'.task = j.task ∧ (j.Active → j'.Active) := by
  cases turn with
  | begin k task now =>
    rw [take] at hj
    split at hj
    · obtain ⟨rfl, eq⟩ | hj := update_slot hj
      · cases eq
        exact .inl ⟨now, rfl⟩
      · exact .inr ⟨j, hj, rfl, id⟩
    · exact .inr ⟨j, hj, rfl, id⟩
  | call k now =>
    rw [take] at hj
    split at hj
    · next is =>
      split at hj
      · obtain ⟨rfl, eq⟩ | hj := update_slot hj
        · cases eq
          exact .inr ⟨_, is, rfl, fun _ => ⟨_, _, rfl⟩⟩
        · exact .inr ⟨j, hj, rfl, id⟩
      · obtain ⟨-, eq⟩ | hj := update_slot hj
        · cases eq
        · exact .inr ⟨j, hj, rfl, id⟩
    · exact .inr ⟨j, hj, rfl, id⟩
  | others change => exact .inr ⟨j, hj, rfl, id⟩

/-- A pass that is in its slot after a step was begun by the turn, or was there before. -/
theorem turn_or_job (hj : (s.after turns (n + 1)).jobs i = some j) :
    (∃ now, turns[n]? = some (.begin i j.task now)) ∨
      ∃ j', (s.after turns n).jobs i = some j' ∧ j'.task = j.task := by
  cases hturn : turns[n]? with
  | none =>
    have hlen : turns.length ≤ n := List.getElem?_eq_none_iff.1 hturn
    rw [after_eq_last (Nat.le_succ_of_le hlen), ← after_eq_last hlen] at hj
    exact .inr ⟨j, hj, rfl⟩
  | some turn =>
    rw [after_succ hturn] at hj
    obtain ⟨now, rfl⟩ | ⟨j', hj', ht, -⟩ := jobs_take hj
    · exact .inl ⟨now, rfl⟩
    · exact .inr ⟨j', hj', ht⟩

/-- A pass in a run by turns is of a task that was begun by a turn. -/
theorem exists_turn_of_job (hidle : ∀ i, s.jobs i = none) (hj : (s.after turns n).jobs i = some j) :
    ∃ k < n, ∃ now, turns[k]? = some (.begin i j.task now) := by
  induction n generalizing j with
  | zero =>
    have hnone : (s.after turns 0).jobs i = none := hidle i
    rw [hnone] at hj
    cases hj
  | succ n ih =>
    obtain hbegin | ⟨j', hj', ht⟩ := turn_or_job hj
    · exact ⟨n, Nat.lt_succ_self n, hbegin⟩
    · obtain ⟨k, hk, hbegin⟩ := ih hj'
      exact ⟨k, Nat.lt_succ_of_lt hk, ht ▸ hbegin⟩

end System

end ControlPlane
