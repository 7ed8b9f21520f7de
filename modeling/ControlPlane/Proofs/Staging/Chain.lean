import ControlPlane.Meta.Observation
import ControlPlane.Proofs.Server.Server
import ControlPlane.Staging.Networks

/-!
# When the networks of a deployment count as ready

Staging answers that the networks are ready exactly when it finds every interface bound and every
context that a binding leads to served (`stageNetworks_run_true_iff`), and then it has written
nothing. A binding that leads to no context is passed over, so the chain of an interface need not be
complete: it is, exactly when its binding names a context (`stageNetworks_true`).
-/

namespace ControlPlane

open Pass (perform run_bind_eq_ok)

namespace Server

/-- The first claim on a private IPv4 subnet of a context at a location. -/
def firstClaim? (s : Server) (location : LocationReference) (c : ContextReference) :
    Option SubnetClaim :=
  (s.claims.list c.ns fun _ => true).find? (SubnetClaim.serves · c.name location)

/-- The context is ready, and so are the first claim on a subnet for it and the subnet that this
claim got. -/
def Serves (s : Server) (location : LocationReference) (c : ContextReference) : Prop :=
  ∃ context claim reference subnet,
    s.contexts.find? c.ns c.name = some context ∧ NetworkContext.isReady context = true ∧
    s.firstClaim? location c = some claim ∧ SubnetClaim.isReady claim = true ∧
    SubnetClaim.subnet? claim = some reference ∧
    s.subnets.find? c.ns reference.name = some subnet ∧ Subnet.isReady subnet = true

/-- The binding of that name is ready, and the context it leads to, if any, passes. -/
def Binds (s : Server) (ns name : String) (passes : ContextReference → Prop) : Prop :=
  ∃ b, s.bindings.find? ns name = some b ∧ NetworkBinding.isReady b = true ∧
    ∀ c, NetworkBinding.context? b = some c → passes c

/-- Every interface of the deployment is bound at its location. -/
def NetworksReady (s : Server) (d : Deployment) : Prop :=
  ∃ ns location, d.metadata.ns = some ns ∧ d.location = some location ∧
    ∀ i < d.interfaces.length,
      s.Binds ns (NetworkBinding.nameFor d.name i) (s.Serves location)

/-- A context with a subnet at a location: all three of the context, a claim on a private IPv4 subnet
for it and the subnet that the claim got are ready. -/
def HasSubnet (s : Server) (location : LocationReference) (c : ContextReference) : Prop :=
  ∃ context ∈ s.contexts.objects, ∃ claim ∈ s.claims.objects, ∃ subnet ∈ s.subnets.objects,
    ∃ reference,
      context.address = (some c.ns, some c.name) ∧ NetworkContext.isReady context = true ∧
      claim.metadata.ns = some c.ns ∧ claim.spec.subnetClass = SubnetClaim.privateClass ∧
      claim.spec.ipFamily = .ipv4 ∧ claim.spec.context.name = c.name ∧
      claim.spec.location = location ∧ SubnetClaim.isReady claim = true ∧
      SubnetClaim.subnet? claim = some reference ∧
      subnet.address = (some c.ns, some reference.name) ∧ Subnet.isReady subnet = true

/-- The chain from the binding of that name to a subnet, every link of it ready. -/
def HasChain (s : Server) (ns name : String) (location : LocationReference) : Prop :=
  ∃ b ∈ s.bindings.objects, ∃ c, b.address = (some ns, some name) ∧
    NetworkBinding.isReady b = true ∧ NetworkBinding.context? b = some c ∧ s.HasSubnet location c

theorem Serves.hasSubnet {s : Server} {location : LocationReference} {c : ContextReference}
    (h : s.Serves location c) : s.HasSubnet location c := by
  obtain ⟨context, claim, reference, subnet, hc, hcr, hf, hr, hs, hg, hgr⟩ := h
  obtain ⟨hcm, hca⟩ := Table.find?_eq_some_iff.1 hc
  obtain ⟨hgm, hga⟩ := Table.find?_eq_some_iff.1 hg
  have hserves := List.find?_some hf
  have hm := List.mem_filter.1 (List.mem_of_find?_eq_some hf)
  simp only [SubnetClaim.serves, Bool.and_eq_true, beq_iff_eq] at hserves
  obtain ⟨⟨⟨hclass, hfamily⟩, hcontext⟩, hlocation⟩ := hserves
  refine ⟨context, hcm, claim, hm.1, subnet, hgm, reference, hca, hcr, ?_, hclass, hfamily,
    hcontext, hlocation, hr, hs, hga, hgr⟩
  simpa using hm.2

end Server

namespace Deployment

variable {d : Deployment} {s t : Server} {now : Instant} {location : LocationReference}

/-! ## What staging answers -/

theorem stageSubnet_run_true_iff {c : ContextReference} :
    (stageSubnet location c).run (Server.answer now) s = (.ok true, t) ↔
      t = s ∧ s.Serves location c := by
  unfold stageSubnet Server.Serves
  simp only [perform, Pass.bind_eq, Pass.call_bind, Pass.done_bind, Pass.run, Server.answer]
  -- at every link but the last the answer can only be `false`
  cases hc : s.contexts.find? c.ns c.name with
  | none => simp
  | some context =>
    cases hr : NetworkContext.isReady context with
    | false => simp [hr]
    | true =>
      simp only [hr, Bool.not_true, Bool.false_eq_true, if_false, Pass.run, Server.answer]
      rw [← Server.firstClaim?]
      cases hf : s.firstClaim? location c with
      | none =>
        rw [Pass.run_bind]
        split <;> simp
      | some claim =>
        cases hq : SubnetClaim.isReady claim with
        | false => simp [hq]
        | true =>
          cases hs : SubnetClaim.subnet? claim with
          | none => simp [hq, hs]
          | some reference =>
            cases hg : s.subnets.find? c.ns reference.name with
            | none => simp [hq, hs, hg, Pass.run, Server.answer]
            | some subnet =>
              simp [hq, hs, hg, hr, Pass.run, Server.answer, and_comm, eq_comm (a := t)]

theorem stageSubnets_run_true_iff {cs : List ContextReference} :
    (stageSubnets location cs).run (Server.answer now) s = (.ok true, t) ↔
      t = s ∧ ∀ c ∈ cs, s.Serves location c := by
  induction cs with
  | nil => simp [stageSubnets, eq_comm (a := t)]
  | cons c rest ih =>
    rw [stageSubnets, Pass.bind_eq, run_bind_eq_ok]
    constructor
    · rintro ⟨ready, m, hc, h⟩
      cases ready with
      | false => simp at h
      | true =>
        obtain ⟨rfl, hc⟩ := stageSubnet_run_true_iff.1 hc
        obtain ⟨rfl, hr⟩ := ih.1 h
        exact ⟨rfl, List.forall_mem_cons.2 ⟨hc, hr⟩⟩
    · rintro ⟨rfl, h⟩
      obtain ⟨hc, hr⟩ := List.forall_mem_cons.1 h
      exact ⟨true, t, stageSubnet_run_true_iff.2 ⟨rfl, hc⟩, ih.2 ⟨rfl, hr⟩⟩

/-- A ready binding was there before: one that is made has no status yet. -/
theorem stageBinding_run_ready_iff {ns : String} {index : Nat} {i : NetworkInterface}
    {b : NetworkBinding} :
    ((d.stageBinding ns location index i).run (Server.answer now) s = (.ok b, t) ∧
        NetworkBinding.isReady b = true) ↔
      t = s ∧ s.bindings.find? ns (NetworkBinding.nameFor d.name index) = some b ∧
        NetworkBinding.isReady b = true := by
  unfold stageBinding
  simp only [perform, Pass.bind_eq, Pass.call_bind, Pass.done_bind, Pass.run, Server.answer]
  cases hf : s.bindings.find? ns (NetworkBinding.nameFor d.name index) with
  | some found =>
    simp only [Pass.pure_eq, Pass.run, Prod.mk.injEq, Except.ok.injEq, Option.some.injEq]
    constructor
    · rintro ⟨⟨rfl, rfl⟩, hr⟩
      exact ⟨rfl, rfl, hr⟩
    · rintro ⟨rfl, rfl, hr⟩
      exact ⟨⟨rfl, rfl⟩, hr⟩
  | none =>
    refine iff_of_false ?_ (by simp)
    rintro ⟨h, hr⟩
    cases ho : d.controllerReference? with
    | none => simp [ho] at h
    | some owner =>
      rw [ho] at h
      rcases s.bindings.create_cases now (d.newBinding ns location owner index i) with
        ⟨e, he⟩ | ⟨ns', name, hv, -, -, hk⟩
      · simp [Pass.run, Server.answer, Server.onBindings, he] at h
      · simp only [Pass.run, Server.answer, Server.onBindings, hk, Prod.mk.injEq,
          Except.ok.injEq] at h
        obtain ⟨rfl, -⟩ := h
        simp [NetworkBinding.isReady, Resource.stamp, Resource.created, linkReady] at hr

/-- Bindings are staged from `index` on, all of them before any context. -/
theorem stageBindings_run_ready_iff {ns : String} {index : Nat} {l : List NetworkInterface}
    {passes : ContextReference → Prop} :
    (∃ bs, (d.stageBindings ns location index l).run (Server.answer now) s = (.ok bs, t) ∧
        bs.all NetworkBinding.isReady = true ∧
        ∀ c ∈ bs.filterMap NetworkBinding.context?, passes c) ↔
      t = s ∧ ∀ j < l.length, s.Binds ns (NetworkBinding.nameFor d.name (index + j)) passes := by
  induction l generalizing index with
  | nil => simp [stageBindings, eq_comm (a := t)]
  | cons i rest ih =>
    have split : (∀ j < (i :: rest).length,
          s.Binds ns (NetworkBinding.nameFor d.name (index + j)) passes) ↔
        s.Binds ns (NetworkBinding.nameFor d.name index) passes ∧
          ∀ j < rest.length, s.Binds ns (NetworkBinding.nameFor d.name (index + 1 + j)) passes := by
      rw [List.length_cons, Nat.forall_lt_succ_left', Nat.add_zero]
      simp only [Nat.add_assoc, Nat.add_comm 1]
    rw [split]
    simp only [stageBindings, Pass.bind_eq, run_bind_eq_ok]
    constructor
    · rintro ⟨bs, ⟨b, m, hb, bs', m', hbs, h⟩, hr, hc⟩
      simp only [Pass.pure_eq, Pass.run_done, Prod.mk.injEq, Except.ok.injEq] at h
      obtain ⟨rfl, rfl⟩ := h
      rw [List.all_cons, Bool.and_eq_true] at hr
      obtain ⟨rfl, hf, hr'⟩ := stageBinding_run_ready_iff.1 ⟨hb, hr.1⟩
      obtain ⟨rfl, h'⟩ := ih.1 ⟨bs', hbs, hr.2, fun c h => hc c (by
        rw [List.filterMap_cons]
        split
        · exact h
        · exact List.mem_cons_of_mem _ h)⟩
      refine ⟨rfl, ⟨b, hf, hr', fun c h => hc c ?_⟩, h'⟩
      rw [List.filterMap_cons_some h]
      exact List.mem_cons_self
    · rintro ⟨rfl, ⟨b, hf, hr, hb⟩, hrest⟩
      obtain ⟨bs, hbs, hrs, hcs⟩ := ih.2 ⟨rfl, hrest⟩
      have hrun : (d.stageBinding ns location index i).run (Server.answer now) t = (.ok b, t) :=
        (stageBinding_run_ready_iff.2 ⟨rfl, hf, hr⟩).1
      refine ⟨b :: bs, ⟨b, t, hrun, bs, t, hbs, rfl⟩, ?_, fun c hc => ?_⟩
      · rw [List.all_cons, hr, hrs]
        rfl
      · rw [List.filterMap_cons] at hc
        cases hx : NetworkBinding.context? b with
        | none => exact hcs c (by simpa [hx] using hc)
        | some x =>
          rw [hx] at hc
          rcases List.mem_cons.1 hc with rfl | hc
          · exact hb _ hx
          · exact hcs c hc

/-- Staging answers that the networks are ready exactly when they are, and writes nothing then. -/
theorem stageNetworks_run_true_iff :
    d.stageNetworks.run (Server.answer now) s = (.ok true, t) ↔ t = s ∧ s.NetworksReady d := by
  unfold stageNetworks Server.NetworksReady
  cases hl : d.location with
  | none => simp
  | some location =>
    cases hn : d.metadata.ns with
    | none => simp
    | some ns =>
      simp only [Pass.bind_eq, run_bind_eq_ok, Option.some.injEq]
      constructor
      · rintro ⟨bs, m, hbs, h⟩
        cases hr : bs.all NetworkBinding.isReady with
        | false => simp [hr] at h
        | true =>
          rw [hr, if_pos rfl] at h
          obtain ⟨rfl, hc⟩ := stageSubnets_run_true_iff.1 h
          obtain ⟨rfl, hb⟩ := stageBindings_run_ready_iff.1 ⟨bs, hbs, hr, hc⟩
          simp only [Nat.zero_add] at hb
          exact ⟨rfl, ns, location, rfl, rfl, hb⟩
      · rintro ⟨rfl, ns', location', rfl, rfl, h⟩
        have hb : ∀ j < d.interfaces.length,
            t.Binds ns (NetworkBinding.nameFor d.name (0 + j)) (t.Serves location) := by
          simpa only [Nat.zero_add] using h
        obtain ⟨bs, hbs, hr, hc⟩ := stageBindings_run_ready_iff.2 ⟨rfl, hb⟩
        refine ⟨bs, t, hbs, ?_⟩
        rw [hr, if_pos rfl]
        exact stageSubnets_run_true_iff.2 ⟨rfl, hc⟩

/-! ## What the answer is worth -/

/-- When staging answers that the networks are ready, it has written nothing, and every interface has
its binding, which is ready. The chain is complete exactly when the binding names a context: an
interface whose binding names none is passed over. -/
theorem stageNetworks_true (h : (d.stageNetworks.run (Server.answer now) s).1 = .ok true) :
    (d.stageNetworks.run (Server.answer now) s).2 = s ∧
      ∃ ns location, d.metadata.ns = some ns ∧ d.location = some location ∧
        ∀ i < d.interfaces.length, ∃ b ∈ s.bindings.objects,
          b.address = (some ns, some (NetworkBinding.nameFor d.name i)) ∧
          NetworkBinding.isReady b = true ∧
          (s.HasChain ns (NetworkBinding.nameFor d.name i) location ↔
            ∃ c, NetworkBinding.context? b = some c) := by
  obtain ⟨ht, ns, location, hns, hl, hb⟩ :=
    stageNetworks_run_true_iff.1 (Prod.ext h rfl : _ = (Except.ok true, _))
  refine ⟨ht, ns, location, hns, hl, fun i hi => ?_⟩
  obtain ⟨b, hf, hr, hc⟩ := hb i hi
  obtain ⟨hm, ha⟩ := Table.find?_eq_some_iff.1 hf
  refine ⟨b, hm, ha, hr, ?_, ?_⟩
  · rintro ⟨b', hm', c, ha', -, hc', -⟩
    rw [Table.eq_of_address_eq hm' hm (ha'.trans ha.symm)] at hc'
    exact ⟨c, hc'⟩
  · rintro ⟨c, hbc⟩
    exact ⟨b, hm, c, ha, hr, hbc, (hc c hbc).hasSubnet⟩

/-- The conditions of a link of which only its readiness is known. -/
def readyLink : ConditionSet :=
  Keyed.empty.insert (.at ⟨0, 0⟩ Condition.ready Condition.holds "" "")

/-- A deployment with one interface, scheduled to a location. -/
def withInterface (location : LocationReference) : Deployment where
  metadata := { name := some "web", ns := some "shop" }
  spec := {
    workload := ⟨"web", "w1"⟩
    placement := "us"
    cityCode := "DFW"
    template := { spec := { networkInterfaces := [⟨⟨"lan", none⟩, none⟩] } }
    scale := { minReplicas := 1 } }
  status := some { location := some location }

/-- The binding of the interface leads to a subnet. -/
theorem stageNetworks_true_of_chain :
    let location : LocationReference := ⟨"dfw", "infra"⟩
    let place : NetworkPlace := ⟨⟨"lan", none⟩, location⟩
    let claim : SubnetClaim :=
      { metadata := {}
        spec := { subnetClass := "private", ipFamily := .ipv4, context := ⟨"c"⟩, location }
        status := some { subnet := some ⟨"c-0"⟩, conditions := readyLink } }
    let subnet : Subnet :=
      { metadata := {}
        spec := { subnetClass := "private", ipFamily := .ipv4, context := ⟨"c"⟩, location,
                  startAddress := "10.0.0.0", prefixLength := 24 }
        status := some { conditions := readyLink } }
    let s : Server :=
      { Server.empty with
        bindings := Table.empty.add "shop" "web-net-0"
          { metadata := {}, spec := place, status := some ⟨some ⟨"c", "net"⟩, readyLink⟩ } rfl
        contexts := Table.empty.add "net" "c"
          { metadata := {}, spec := place, status := some ⟨readyLink⟩ } rfl
        claims := Table.empty.add "net" "c-0" claim rfl
        subnets := Table.empty.add "net" "c-0" subnet rfl }
    ((withInterface location).stageNetworks.run (Server.answer ⟨0, 0⟩) s).1 = .ok true ∧
      s.HasChain "shop" "web-net-0" location := by
  intro location place claim subnet s
  have h : ((withInterface location).stageNetworks.run (Server.answer ⟨0, 0⟩) s).1 = .ok true := by
    rfl
  obtain ⟨-, ns, l, hns, hl, hb⟩ := stageNetworks_true h
  cases hns
  cases hl
  obtain ⟨b, hm, -, -, hc⟩ := hb 0 (by decide)
  refine ⟨h, hc.2 ?_⟩
  rw [List.mem_singleton.1 hm]
  exact ⟨_, rfl⟩

/-- The binding of the interface is ready and names no context: the networks count as ready, although
there is no subnet. -/
theorem stageNetworks_true_without_chain :
    let location : LocationReference := ⟨"dfw", "infra"⟩
    let s : Server :=
      { Server.empty with
        bindings := Table.empty.add "shop" "web-net-0"
          { metadata := {}, spec := ⟨⟨"lan", none⟩, location⟩, status := some ⟨none, readyLink⟩ }
          rfl }
    ((withInterface location).stageNetworks.run (Server.answer ⟨0, 0⟩) s).1 = .ok true ∧
      ¬ s.HasChain "shop" "web-net-0" location := by
  intro location s
  refine ⟨by rfl, ?_⟩
  rintro ⟨b, -, c, -, -, -, context, hc, -⟩
  exact List.not_mem_nil hc

end Deployment

end ControlPlane
