import ControlPlane.Proofs.Deployment.Gates
import ControlPlane.Proofs.Rollout.SlotName
import ControlPlane.Proofs.Staging.Chain

/-!
# Which network an interface is bound to

The binding of an interface is found by the deployment's name and the position of the interface. It is
made for the interface that was there then, at the location that the deployment had, and no pass ever
changes it. A pass that finds it ready takes it for the interface that is there now.

* `Deployment.placeFor?`: where an interface is to be bound.
* `stageNetworks_ends_true`: the bindings that staging relies on.
* `System.Bound`: where the place of a stored binding comes from. `Run.bound` has it of all of them.
* `System.Unmoved`: the interface is to be bound to one place all along, and only passes bind it.
* `staged_bindings`: where the binding that staging relied on comes from, and that it is to the place
  that the interface is to be bound to if the interface was not moved.
-/

namespace ControlPlane

open Pass (perform)

/-! ## Names and places -/

/-- The name of a binding tells the deployment and the interface. -/
theorem NetworkBinding.nameFor_inj {name name' : String} {index index' : Nat} :
    nameFor name index = nameFor name' index' ↔ name = name' ∧ index = index' := by
  have hjoin (name : String) (index : Nat) :
      nameFor name index = name ++ "-net" ++ "-" ++ Nat.repr index := by
    simp [nameFor, ← String.toList_inj, String.toList_append]
  rw [hjoin, hjoin, append_repr_inj, String.append_left_inj]

namespace Deployment

variable {d : Deployment} {now : Instant} {log : List Exchange} {ns : String}
  {location : LocationReference} {index : Nat}

/-- Where the interface at a position is to be bound: its network at the deployment's location. -/
def placeFor? (d : Deployment) (index : Nat) : Option NetworkPlace := do
  return { network := (← d.interfaces[index]?).network, location := ← d.location }

/-- Where the binding of the interface at a position is stored. -/
def bindingAddress (d : Deployment) (index : Nat) : Option String × Option String :=
  (d.metadata.ns, some (NetworkBinding.nameFor d.name index))

theorem bindingAddress_inj {d' : Deployment} {index' : Nat} :
    d.bindingAddress index = d'.bindingAddress index' ↔
      d.destination = d'.destination ∧ index = index' := by
  simp only [bindingAddress, Resource.destination, Prod.mk.injEq, Option.some.injEq,
    NetworkBinding.nameFor_inj, and_assoc]

/-! ## What staging relies on and makes -/

/-- Staging found a binding of this name, or made it. -/
def ReliedOn (log : List Exchange) (ns name : String) (b : NetworkBinding) : Prop :=
  ⟨.getNetworkBinding ns name, some b⟩ ∈ log ∨ ∃ r, ⟨.createNetworkBinding r, b⟩ ∈ log

theorem ReliedOn.append {log rest : List Exchange} {name : String} {b : NetworkBinding}
    (h : ReliedOn log ns name b ∨ ReliedOn rest ns name b) : ReliedOn (log ++ rest) ns name b := by
  simp only [ReliedOn, List.mem_append, exists_or] at *
  tauto

theorem stageBinding_ends {i : NetworkInterface} {b : NetworkBinding}
    (h : (d.stageBinding ns location index i).Ends log b) :
    ReliedOn log ns (NetworkBinding.nameFor d.name index) b := by
  cases h with
  | @call _ _ found _ _ h =>
    cases found with
    | some found =>
      cases h
      exact .inl List.mem_cons_self
    | none =>
      simp only [Pass.done_bind] at h
      split at h
      · cases h with
        | call h =>
          cases h
          exact .inr ⟨_, List.mem_cons_of_mem _ List.mem_cons_self⟩
      · cases h

theorem stageBindings_ends {l : List NetworkInterface} {bs : List NetworkBinding}
    (h : (d.stageBindings ns location index l).Ends log bs) {k : Nat} (hk : k < l.length) :
    ∃ b ∈ bs, ReliedOn log ns (NetworkBinding.nameFor d.name (index + k)) b := by
  induction l generalizing index log bs k with
  | nil => exact absurd hk (Nat.not_lt_zero k)
  | cons i rest ih =>
    obtain ⟨b, l₁, l₂, rfl, hb, h⟩ := Pass.ends_bind h
    obtain ⟨bs', l₃, l₄, rfl, hbs, h⟩ := Pass.ends_bind h
    cases h
    cases k with
    | zero => exact ⟨b, List.mem_cons_self, .append (.inl (stageBinding_ends hb))⟩
    | succ k =>
      obtain ⟨b', hb', hr⟩ := ih hbs (Nat.lt_of_succ_lt_succ hk)
      rw [Nat.add_assoc, Nat.add_comm 1] at hr
      exact ⟨b', List.mem_cons_of_mem _ hb', .append (.inr (.append (.inl hr)))⟩

/-- Staging that answers that the networks are ready relies on a ready binding for each interface. -/
theorem stageNetworks_ends_true (h : d.stageNetworks.Ends log true) :
    ∃ ns, d.metadata.ns = some ns ∧ ∀ index < d.interfaces.length, ∃ b,
      NetworkBinding.isReady b = true ∧
        ReliedOn log ns (NetworkBinding.nameFor d.name index) b := by
  unfold stageNetworks at h
  split at h
  · cases h
  split at h
  · cases h
  next ns hns =>
  obtain ⟨bs, l, l', rfl, hbs, h⟩ := Pass.ends_bind h
  split at h
  · next hready =>
    refine ⟨ns, hns, fun index hi => ?_⟩
    obtain ⟨b, hb, hr⟩ := stageBindings_ends hbs hi
    rw [Nat.zero_add] at hr
    exact ⟨b, List.all_eq_true.1 hready b hb, .append (.inl hr)⟩
  · cases h

/-- The binding is one for an interface of the deployment. -/
def Places (d : Deployment) (b : NetworkBinding) : Prop :=
  ∃ index, b.address = d.bindingAddress index ∧ d.placeFor? index = some b.spec

theorem meets_stageBindings {ok : List Exchange → Call → Prop} {l : List NetworkInterface}
    (hget : ∀ log ns name, ok log (.getNetworkBinding ns name))
    (hcreate : ∀ log b, d.Places b → ok log (.createNetworkBinding b))
    (hns : d.metadata.ns = some ns) (hloc : d.location = some location)
    (hl : d.interfaces.drop index = l) :
    (d.stageBindings ns location index l).Meets ok (fun _ _ => True) log := by
  induction l generalizing index log with
  | nil => trivial
  | cons i rest ih =>
    have hi : d.interfaces[index]? = some i := by
      rw [← List.head?_drop, hl, List.head?_cons]
    have hrest : d.interfaces.drop (index + 1) = rest := by
      rw [← List.drop_drop, hl, List.drop_one, List.tail_cons]
    refine Pass.Meets.bind (P := fun _ _ => True) ?_ fun _ log _ =>
      (ih hrest).bind fun _ _ _ => trivial
    refine ⟨hget _ _ _, fun found => ?_⟩
    cases found with
    | some found => trivial
    | none =>
      simp only [Pass.done_bind]
      split
      · refine Pass.meets_perform (hcreate _ _ ⟨index, ?_, ?_⟩) fun _ => trivial
        · rw [bindingAddress, hns]
          rfl
        · rw [placeFor?, hi, hloc]
          rfl
      · trivial

theorem meets_stageNetworks_of {ok : List Exchange → Call → Prop}
    (hget : ∀ log ns name, ok log (.getNetworkBinding ns name))
    (hcreate : ∀ log b, d.Places b → ok log (.createNetworkBinding b))
    (hsubnets : ∀ log c, c.bySubnets = true → ok log c) :
    d.stageNetworks.Meets ok (fun _ _ => True) log := by
  rw [stageNetworks]
  split
  · trivial
  next location hloc =>
  split
  · trivial
  next ns hns =>
  refine (meets_stageBindings hget hcreate hns hloc rfl).bind fun bindings log _ => ?_
  split
  · exact (only_stageSubnets _ _).meets hsubnets
  · trivial

end Deployment

/-- Bindings are made for the interfaces of the deployment that a pass is on, as it has it. -/
def PlacingSafe (task : Task) : Call → Prop
  | .createNetworkBinding b => ∃ d, task = .deployment d ∧ d.Places b
  | _ => True

theorem Task.meets_placingSafe (task : Task) (now : Instant) :
    (task.pass now).Meets (fun _ => PlacingSafe task) (fun _ _ => True) [] := by
  cases task with
  | workload w => exact (w.only_reconcile now).meets fun _ c hc => by cases c <;> trivial
  | scheduling d => exact (d.only_schedule now).meets fun _ c hc => by cases c <;> trivial
  | inst i => exact (i.only_reconcile now).meets fun _ c hc => by cases c <;> trivial
  | deployment d =>
    refine d.meets_reconcile_of now
      (fun _ => d.only_tearDown.meets fun _ c hc => by cases c <;> trivial)
      (fun _ _ _ => trivial) fun _ _ => ?_
    refine d.meets_rollOut_of now (fun log => ?_) (fun _ _ _ => trivial) (fun _ _ _ _ _ _ _ => ?_)
      (fun _ _ _ => trivial) fun _ _ _ => trivial
    · exact Deployment.meets_stageNetworks_of (fun _ _ _ => trivial) (fun _ b hb => ⟨d, rfl, hb⟩)
        fun _ c hc => by cases c <;> trivial
    · exact (Pass.only_forEach fun a _ => a.only_execute).meets fun _ c hc => by cases c <;> trivial

/-! ## Bindings step by step -/

/-- A binding of this place is stored at this address. -/
def Server.Holds (s : Server) (address : Option String × Option String) (place : NetworkPlace) :
    Prop :=
  ∃ b ∈ s.bindings.objects, b.address = address ∧ b.spec = place

/-- What was not bound before is not bound now. -/
def Server.BindsNothing (a b : Server) : Prop :=
  ∀ address place, b.Holds address place → a.Holds address place

theorem Server.BindsNothing.refl (a : Server) : a.BindsNothing a :=
  fun _ _ h => h

/-- Only the creation of a binding changes the bindings. -/
theorem Server.bindings_answer (now : Instant) (c : Call) (s : Server) :
    (answer now c s).2.bindings = s.bindings ∨ ∃ b, c = .createNetworkBinding b ∧
      (answer now c s).2.bindings = (s.bindings.create now b).2 := by
  cases c with
  | createNetworkBinding b => exact .inr ⟨b, rfl, rfl⟩
  | _ => exact .inl rfl

/-- What the server answers when a binding is created is not ready yet. -/
theorem Server.not_isReady_of_created {now : Instant} {s t : Server} {r b : NetworkBinding}
    (h : answer now (.createNetworkBinding r) s = (.ok b, t)) : NetworkBinding.isReady b = false := by
  have hb : (s.bindings.create now r).1 = .ok b := congrArg Prod.fst h
  rcases s.bindings.create_cases now r with ⟨e, he⟩ | ⟨ns, name, hv, -, -, hk⟩
  · rw [he] at hb
    cases hb
  · rw [hk] at hb
    cases hb
    rfl

namespace System

variable {outside : Server → Server → Prop} {s t : System} {w : Nat → System} {n slot : Nat}
  {j : Job} {d : Deployment} {index : Nat} {place : NetworkPlace}

/-- A pass on a deployment makes the binding of an interface of it, where none is stored. -/
def Makes (s t : System) (d : Deployment) (index : Nat) (place : NetworkPlace) : Prop :=
  ∃ j b, s.Performs j (.createNetworkBinding b) t ∧ j.task = .deployment d ∧
    b.address = d.bindingAddress index ∧ b.spec = place ∧ d.placeFor? index = some place ∧
    ∀ o ∈ s.server.bindings.objects, o.address ≠ d.bindingAddress index

/-- Where the place of a binding comes from that is stored after `n` steps of a run for an interface
of a deployment. -/
inductive Bound (outside : Server → Server → Prop) (w : Nat → System) (d : Deployment)
    (index : Nat) (place : NetworkPlace) (n : Nat) : Prop
  /-- The binding was stored from the start. -/
  | first (holds : (w 0).server.Holds (d.bindingAddress index) place)
  /-- Others stored it, or changed its place. -/
  | others {m : Nat} (before : m < n) (step : outside (w m).server (w (m + 1)).server)
    (new : ¬ (w m).server.Holds (d.bindingAddress index) place)
    (holds : (w (m + 1)).server.Holds (d.bindingAddress index) place)
  /-- A pass on the deployment made it, for the interface as it was then. -/
  | made {m : Nat} {d₀ : Deployment} (before : m < n) (same : d₀.destination = d.destination)
    (makes : (w m).Makes (w (m + 1)) d₀ index place)

theorem Bound.later {m : Nat} (h : Bound outside w d index place m) (hmn : m ≤ n) :
    Bound outside w d index place n := by
  cases h with
  | first holds => exact .first holds
  | others before step new holds => exact .others (Nat.lt_of_lt_of_le before hmn) step new holds
  | made before same makes => exact .made (Nat.lt_of_lt_of_le before hmn) same makes

/-- For `n` steps of a run the interface is to be bound to one place, and only passes bind it: no binding
of it is there at first or comes from others, and each pass on the deployment has it at that place. -/
structure Unmoved (outside : Server → Server → Prop) (w : Nat → System) (d : Deployment)
    (index n : Nat) : Prop where
  first : ∀ place, ¬ (w 0).server.Holds (d.bindingAddress index) place
  others : ∀ m < n, outside (w m).server (w (m + 1)).server → ∀ place,
    (w (m + 1)).server.Holds (d.bindingAddress index) place →
      (w m).server.Holds (d.bindingAddress index) place
  passes : ∀ m < n, ∀ i j d₀, (w m).jobs i = some j → j.task = .deployment d₀ →
    d₀.destination = d.destination → d₀.placeFor? index = d.placeFor? index

/-- A binding of an interface that was not moved is to the place that the interface is to be bound to. -/
theorem Bound.place_eq (h : Bound outside w d index place n) (hu : Unmoved outside w d index n) :
    d.placeFor? index = some place := by
  cases h with
  | first holds => exact absurd holds (hu.first place)
  | others before step new holds => exact absurd (hu.others _ before step place holds) new
  | made before same makes =>
    obtain ⟨j, b, hp, ht, -, -, hplace, -⟩ := makes
    obtain ⟨i, next, hj, -⟩ := hp.exists_slot
    rw [← hu.passes _ before i j _ hj ht same, hplace]

theorem holds_of_performs {c : Call} {address : Option String × Option String}
    (hsafe : PlacingSafe j.task c) (hp : s.Performs j c t) (h : t.server.Holds address place) :
    s.server.Holds address place ∨
      ∃ d index, d.bindingAddress index = address ∧ s.Makes t d index place := by
  obtain ⟨b, hb, ha, hplace⟩ := h
  have stays (hb : b ∈ s.server.bindings.objects) : s.server.Holds address place ∨
      ∃ d index, d.bindingAddress index = address ∧ s.Makes t d index place :=
    .inl ⟨b, hb, ha, hplace⟩
  obtain ht | ⟨now, ht⟩ := hp.server_cases
  · exact stays (ht ▸ hb)
  rw [ht] at hb
  obtain hsame | ⟨r, rfl, hcreate⟩ := s.server.bindings_answer now c
  · exact stays (hsame ▸ hb)
  rw [hcreate] at hb
  obtain ⟨d, hd, index, hr, hspec⟩ := hsafe
  rcases Table.mem_create now hb with hb | ⟨hfree, ns, name, hns, hname, rfl⟩
  · exact stays hb
  · have haddress : (some ns, some name) = d.bindingAddress index := by
      rw [← hr, Resource.address, hns, hname]
    subst hplace
    exact .inr ⟨d, index, haddress.symm.trans ha, j, r, hp, hd, hr, rfl, hspec,
      haddress ▸ hfree⟩

/-- In every run the place of a binding that is stored for an interface was there at the start, or
comes from others, or is the one that the interface was to be bound to when a pass made it. -/
theorem Run.bound (h : Run outside w)
    (hb : (w n).server.Holds (d.bindingAddress index) place) : Bound outside w d index place n := by
  induction n with
  | zero => exact .first hb
  | succ n ih =>
    by_cases hold : (w n).server.Holds (d.bindingAddress index) place
    · exact (ih hold).later n.le_succ
    have hstep := h.step n
    generalize hu : w (n + 1) = u at hstep hb
    cases hstep with
    | begins free => exact absurd hb hold
    | others ho => exact .others n.lt_succ_self (hu ▸ ho) hold (hu ▸ hb)
    | performs hp =>
      have hsafe := h.ok_of_performs Task.meets_placingSafe hp
      obtain hb | ⟨d₀, index₀, ha, hm⟩ := holds_of_performs hsafe hp hb
      · exact absurd hb hold
      · obtain ⟨same, rfl⟩ := Deployment.bindingAddress_inj.1 ha
        exact .made n.lt_succ_self same (hu ▸ hm)

/-- In every run, a pass that has staged the networks of its deployment with success has found a ready
binding for each interface. Nothing has compared the place of the binding with the interface: it is
where the binding comes from that tells. It is to the place that the interface is to be bound to if
only passes bind the interface and none of them had it at another place. -/
theorem staged_bindings (h : Run outside w) (hj : (w n).jobs slot = some j)
    (hs : d.StagedIn j.log) (hi : index < d.interfaces.length) :
    ∃ ns b, d.metadata.ns = some ns ∧
      ⟨.getNetworkBinding ns (NetworkBinding.nameFor d.name index), some b⟩ ∈ j.log ∧
      NetworkBinding.isReady b = true ∧ Bound outside w d index b.spec n ∧
      (Unmoved outside w d index n → d.placeFor? index = some b.spec) := by
  obtain ⟨before, staging, rest, hlog, hends⟩ := hs
  obtain ⟨ns, hns, hready⟩ := Deployment.stageNetworks_ends_true hends
  obtain ⟨b, hb, hrelied⟩ := hready index hi
  have hmem {e : Exchange} (he : e ∈ staging) : e ∈ j.log := by
    rw [hlog]
    exact List.mem_append_left _ (List.mem_append_right _ he)
  obtain hget | ⟨r, hcreate⟩ := hrelied
  · obtain ⟨m, hm, ⟨now, hanswer⟩, -⟩ := h.answered hj (hmem hget)
    injection hanswer with hreply _
    obtain ⟨hstored, haddress⟩ := Table.find?_eq_some_iff.1 (Except.ok.inj hreply)
    have hholds : (w m).server.Holds (d.bindingAddress index) b.spec :=
      ⟨b, hstored, by rw [haddress, Deployment.bindingAddress, hns], rfl⟩
    have hbound := (h.bound hholds).later (Nat.le_of_lt hm)
    exact ⟨ns, b, hns, hmem hget, hb, hbound, hbound.place_eq⟩
  -- a binding that was made on the way has no status yet
  · obtain ⟨m, -, ⟨now, hanswer⟩, -⟩ := h.answered hj (hmem hcreate)
    rw [Server.not_isReady_of_created hanswer] at hb
    cases hb

/-- The pass is about to lift a gate. -/
def aboutToLift (j : Job) : Bool :=
  match j.rest with
  | .call (.setSchedulingGates ..) _ => true
  | _ => false

/-- A pass that is about to lift a gate has staged the networks of its deployment. -/
theorem Run.stagedIn_of_aboutToLift (h : Run outside w)
    (hl : ((w n).jobs slot).any aboutToLift = true) : ∃ j d, (w n).jobs slot = some j ∧
      j.task = .deployment d ∧ d.StagedIn j.log := by
  obtain ⟨j, hj, hl⟩ := (Option.any_eq_true _ _).1 hl
  have hmeets := h.meets Task.meets_gateSafe hj
  rw [aboutToLift] at hl
  split at hl
  · next hrest =>
    rw [hrest] at hmeets
    obtain ⟨d, hd, hs⟩ := hmeets.1.1
    exact ⟨j, d, hj, hd, hs⟩
  · cases hl

/-- A deployment of one instance with one interface. -/
def attached (network : String) : Deployment where
  metadata := {
    name := some "web"
    ns := some "stand"
    uid := some "d5"
    finalizers := some [Deployment.finalizer] }
  spec := {
    workload := ⟨"web", "w5"⟩
    placement := "us"
    cityCode := "DFW"
    template := { spec := { networkInterfaces := [⟨⟨network, none⟩, none⟩] } }
    scale := { minReplicas := 1 } }
  status := some { location := some ⟨"dfw", "infra"⟩ }

/-- What is stored once the networks of the deployment were staged, its binding was led to a context
and there is a subnet in the context. -/
def linked (network : String) : Server :=
  let s := ((attached network).stageNetworks.run (Server.answer ⟨0, 0⟩) .empty).2
  let place : NetworkPlace := ⟨⟨network, none⟩, ⟨"dfw", "infra"⟩⟩
  let claim : SubnetClaimSpec :=
    { subnetClass := "private", ipFamily := .ipv4, context := ⟨"c"⟩, location := place.location }
  let subnet : SubnetSpec :=
    { claim with startAddress := "10.0.0.0", prefixLength := 24 }
  { s with
    bindings := (s.bindings.update (s.bindings.objects.head?.getD ⟨{}, place, none⟩) fun b =>
      { b with status := some ⟨some ⟨"c", "lan"⟩, Deployment.readyLink⟩ }).2
    contexts := Table.empty.add "lan" "c" ⟨{}, place, some ⟨Deployment.readyLink⟩⟩ rfl
    claims := Table.empty.add "lan" "c-0"
      ⟨{}, claim, some { subnet := some ⟨"c-0"⟩, conditions := Deployment.readyLink }⟩ rfl
    subnets := Table.empty.add "lan" "c-0"
      ⟨{}, subnet, some { conditions := Deployment.readyLink }⟩ rfl }

/-- The binding is led to the context, and is ready from now on. -/
def leadBinding (s : Server) : Server :=
  { s with
    bindings := s.bindings.change "stand" "web-net-0" fun b => some
      { b with status := some ⟨some ⟨"c", "lan"⟩, Deployment.readyLink⟩ } }

theorem bindsNothing_leadBinding (s : Server) : s.BindsNothing (leadBinding s) := by
  rintro address place ⟨b, hb, ha, hp⟩
  obtain ⟨hb, -⟩ | ⟨o, _, ho, hf, rfl⟩ := Table.mem_change.1 hb
  · exact ⟨b, hb, ha, hp⟩
  · obtain ⟨ho, hoa⟩ := Table.find?_eq_some_iff.1 ho
    cases hf
    exact ⟨o, ho, hoa.trans ha, hp⟩

/-- A pass on the deployment creates its instance and its binding. Once the binding was led to the
context, another stages the networks. -/
def greenTurns : List Turn :=
  [.begin 0 (.deployment (attached "green")) ⟨5, 0⟩, .call 0 ⟨5, 0⟩, .call 0 ⟨5, 0⟩, .call 0 ⟨5, 0⟩,
    .call 0 ⟨5, 0⟩, .others leadBinding, .begin 1 (.deployment (attached "green")) ⟨7, 0⟩,
    .call 1 ⟨7, 0⟩, .call 1 ⟨7, 0⟩, .call 1 ⟨7, 0⟩, .call 1 ⟨7, 0⟩, .call 1 ⟨7, 0⟩]

/-- A pass stages the networks of the deployment after its template was changed to another network. -/
def blueTurns : List Turn :=
  [.begin 2 (.deployment (attached "blue")) ⟨9, 0⟩, .call 2 ⟨9, 0⟩, .call 2 ⟨9, 0⟩, .call 2 ⟨9, 0⟩,
    .call 2 ⟨9, 0⟩, .call 2 ⟨9, 0⟩]

/-- The run by these turns, from a server without bindings. -/
def reattached : Nat → System :=
  after ⟨{ linked "green" with bindings := .empty }, fun _ => none⟩ (greenTurns ++ blueTurns)

theorem run_reattached : Run Server.BindsNothing reattached := by
  refine run_after .refl (fun _ => rfl) fun change h => ?_
  obtain rfl : change = leadBinding := by simpa [greenTurns, blueTurns] using h
  exact bindsNothing_leadBinding

/-- The last pass is begun on the changed template, and the others on the one before. -/
theorem task_reattached (hj : (reattached n).jobs slot = some j) :
    slot ≠ 2 ∧ j.task = .deployment (attached "green") ∨
      12 < n ∧ slot = 2 ∧ j.task = .deployment (attached "blue") := by
  obtain ⟨k, hk, now, hbegin⟩ := exists_turn_of_job (fun _ => rfl) hj
  obtain hlt | hle := Nat.lt_or_ge k greenTurns.length
  · rw [List.getElem?_append_left hlt] at hbegin
    have hmem := List.mem_of_getElem? hbegin
    simp only [greenTurns, List.mem_cons, Turn.begin.injEq, List.not_mem_nil, reduceCtorEq,
      false_or, or_false] at hmem
    obtain ⟨rfl, ht, -⟩ | ⟨rfl, ht, -⟩ := hmem
    · exact .inl ⟨by decide, ht⟩
    · exact .inl ⟨by decide, ht⟩
  · rw [List.getElem?_append_right hle] at hbegin
    have hmem := List.mem_of_getElem? hbegin
    simp only [blueTurns, List.mem_cons, Turn.begin.injEq, List.not_mem_nil, reduceCtorEq,
      or_false] at hmem
    exact .inr ⟨Nat.lt_of_le_of_lt hle hk, hmem.1, hmem.2.1⟩

/-- Up to the change of the template the interface was not moved. -/
theorem unmoved_reattached :
    Unmoved Server.BindsNothing reattached (attached "green") 0 12 where
  first place := by
    rintro ⟨b, hb, -⟩
    cases hb
  others m _ ho place := ho _ place
  passes m hm i j d₀ hj ht _ := by
    obtain ⟨-, ht'⟩ | ⟨hlate, -⟩ := task_reattached hj
    · cases ht.symm.trans ht'
      rfl
    · omega

/-- The second pass relies on the binding that was made for its interface. So does the third, whose
interface is on another network. -/
theorem staged_bindings_reattached : Run Server.BindsNothing reattached ∧
    (∃ j b, (reattached 12).jobs 1 = some j ∧ (attached "green").StagedIn j.log ∧
      ⟨.getNetworkBinding "stand" "web-net-0", some b⟩ ∈ j.log ∧
      (attached "green").placeFor? 0 = some b.spec) ∧
    ∃ j b, (reattached 18).jobs 2 = some j ∧ (attached "blue").StagedIn j.log ∧
      ⟨.getNetworkBinding "stand" "web-net-0", some b⟩ ∈ j.log ∧
      NetworkBinding.isReady b = true ∧
      Bound Server.BindsNothing reattached (attached "blue") 0 b.spec 18 := by
  have hi (network : String) : 0 < (attached network).interfaces.length := Nat.one_pos
  refine ⟨run_reattached, ?_, ?_⟩
  · have hlifts : ((reattached 12).jobs 1).any aboutToLift = true := by decide +kernel
    obtain ⟨j, d, hj, hd, hs⟩ := run_reattached.stagedIn_of_aboutToLift hlifts
    obtain ⟨-, ht⟩ | ⟨hlate, -⟩ := task_reattached hj
    · cases hd.symm.trans ht
      obtain ⟨ns, b, hns, hlog, -, -, hplace⟩ := staged_bindings run_reattached hj hs (hi "green")
      cases hns
      exact ⟨j, b, hj, hs, hlog, hplace unmoved_reattached⟩
    · omega
  · have hlifts : ((reattached 18).jobs 2).any aboutToLift = true := by decide +kernel
    obtain ⟨j, d, hj, hd, hs⟩ := run_reattached.stagedIn_of_aboutToLift hlifts
    obtain ⟨hne, -⟩ | ⟨-, -, ht⟩ := task_reattached hj
    · exact absurd rfl hne
    · cases hd.symm.trans ht
      obtain ⟨ns, b, hns, hlog, hready, hbound, -⟩ := staged_bindings run_reattached hj hs (hi "blue")
      cases hns
      exact ⟨j, b, hj, hs, hlog, hready, hbound⟩

/-- The networks of the deployment count as ready while its interface is bound to another network. -/
theorem staged_to_another_network :
    ((attached "blue").stageNetworks.run (Server.answer ⟨9, 0⟩) (linked "green")).1 = .ok true ∧
      ∃ b, (linked "green").bindings.find? "stand" "web-net-0" = some b ∧
        b.spec.network.name = "green" ∧
        (attached "blue").placeFor? 0 = some ⟨⟨"blue", none⟩, b.spec.location⟩ :=
  ⟨rfl, _, rfl, rfl, rfl⟩

end System

end ControlPlane
