import ControlPlane.Proofs.Staging.Links

/-!
# Each link is made once

A pass makes all bindings that are missing, whether or not the others are ready, and at most one claim,
for which all bindings must be ready. What it made is found by the next pass, which has nothing left to
make and answers the same (`stageNetworks_once`).

* `Unclaimed.found`: the claim that is made for a context is the one that is found for it.
* `Staging.again`: what a pass comes to on what it left.
-/

namespace ControlPlane

namespace Server

variable {s : Server} {ns name : String} {location : LocationReference} {c : ContextReference}
  {context : NetworkContext} {claim : SubnetClaim}

/-- A claim that is made is looked at after all others of its namespace. -/
theorem firstClaim?_add (hfree : s.claims.find? ns name = none) :
    { s with claims := s.claims.add ns name claim hfree }.firstClaim? location c =
      (s.firstClaim? location c).or
        (([claim.stamp ns name (s.claims.revision + 1)].filter (·.metadata.ns == some c.ns)).find?
          (SubnetClaim.serves · c.name location)) := by
  simp only [firstClaim?, Table.list, Table.add, List.filter_append, List.find?_append, Bool.and_true]

/-- The claim that is made for a context is the one that is found for it. -/
theorem Unclaimed.found {uid : String} {now : Instant} {owner : OwnerReference}
    (h : s.Unclaimed location c context) (hfree : s.claims.find? c.ns name = none) :
    let claim := (SubnetClaim.forContext context location owner).created uid now
    { s with claims := s.claims.add c.ns name claim hfree }.firstClaim? location c =
      some (claim.stamp c.ns name (s.claims.revision + 1)) := by
  intro claim
  rw [firstClaim?_add, h.2.2, Option.none_or, List.filter_cons_of_pos (by simp [Resource.stamp])]
  exact List.find?_cons_of_pos (h.claim owner).2.2

/-- A claim that is made takes no subnet from a context. -/
theorem Serves.add_claim (h : s.Serves location c) (hfree : s.claims.find? ns name = none) :
    { s with claims := s.claims.add ns name claim hfree }.Serves location c := by
  obtain ⟨context, first, reference, subnet, hc, hcr, hf, hrest⟩ := h
  refine ⟨context, first, reference, subnet, hc, hcr, ?_, hrest⟩
  rw [firstClaim?_add, hf, Option.some_or]

end Server

namespace Deployment

open Pass (Yields)

variable {d : Deployment} {s t : Server} {now : Instant} {ns name uid : String}
  {location : LocationReference} {owner : OwnerReference} {ws : List Call}
  {result : Except Error Bool} {c : ContextReference}

/-- What a pass over `s` that answers `ready` has made, and what it left. -/
structure MadeOnce (d : Deployment) (s : Server) (ns : String) (location : LocationReference)
    (owner : OwnerReference) (ready : Bool) (ws : List Call) (t : Server) : Prop where
  writes : ∃ claims : List SubnetClaim,
    ws = (d.missing s ns location owner).map .createNetworkBinding ++
      claims.map .createSubnetClaim ∧ claims.length ≤ 1 ∧ (claims ≠ [] → d.IsBound s ns)
  nothing : ready = true → ws = []
  /-- The bindings that were missing are found now. -/
  bindings : ∀ b ∈ d.missing s ns location owner, ∃ stored,
    t.bindings.find? ns b.name = some stored ∧ stored.spec = b.spec
  /-- A claim is made for the context that staging came to, which had none, and is found for it now. -/
  claims : ∀ claim, .createSubnetClaim claim ∈ ws → ∃ c stored, d.Reaches s ns location c ∧
    s.firstClaim? location c = none ∧ claim.metadata.ns = some c.ns ∧
    t.firstClaim? location c = some stored ∧ stored.name = claim.name ∧ stored.spec = claim.spec
  again : ∀ later, d.stageNetworks.Yields (Server.answer later) t [] (.ok ready) t

theorem Bound.found {l : List NetworkInterface} {index : Nat} (h : Bound d ns location index l s t)
    (p : NetworkInterface × Nat) (hp : p ∈ l.zipIdx index) :
    t.bindings.find? ns (NetworkBinding.nameFor d.name p.2) ≠ none := by
  cases hfound : s.bindings.find? ns (NetworkBinding.nameFor d.name p.2) with
  | none =>
    obtain ⟨b, hb, -⟩ := h.made p hp hfound
    simp [hb]
  | some b => simp [h.keeps _ _ hfound]

/-- A pass over what a pass has left answers the same, and makes nothing. -/
theorem Staging.again (hns : d.metadata.ns = some ns) (hl : d.location = some location) {ready : Bool}
    (h : Staging d now s ns location owner ws (.ok ready) t) (later : Instant) :
    d.stageNetworks.Yields (Server.answer later) t [] (.ok ready) t := by
  cases h with
  | binds hbound h => exact stageNetworks_of_not_ready hns hl (stageBindings_found _ _ hbound.found) h
  | ready hbound h => exact hbound.yields hns hl (stageSubnets_serve h)
  | @stops c _ _ _ hreaches hstop =>
    cases hstop with
    | waits h hclaimed => exact hreaches.yields hns hl (.waits h hclaimed)
    | @claims _ owner h howner hfree =>
      -- the claim is found now, and waits for its subnet
      obtain ⟨hbound, before, after, hcontexts, hbefore⟩ := hreaches
      refine Reaches.yields ⟨hbound, before, after, hcontexts, fun x hx => ?_⟩ hns hl
        (.waits ?_ ?_)
      · exact (hbefore x hx).add_claim hfree
      · rintro ⟨_, claim, _, _, -, -, hclaim, hready, -⟩
        cases (h.found hfree).symm.trans hclaim
        cases hready
      · rintro context ⟨-, -, hnone⟩
        cases (h.found hfree).symm.trans hnone

/-- A pass that comes to an answer has made once what was missing. -/
theorem Staging.madeOnce (hns : d.metadata.ns = some ns) (hl : d.location = some location)
    {ready : Bool} (h : Staging d now s ns location owner ws (.ok ready) t) :
    MadeOnce d s ns location owner ready ws t where
  writes := by
    cases h with
    | binds => exact ⟨[], by simp, by simp, by simp⟩
    | ready hbound => exact ⟨[], by simp [hbound.missing_eq_nil], by simp, by simp⟩
    | stops hreaches hstop =>
      cases hstop with
      | waits => exact ⟨[], by simp [hreaches.1.missing_eq_nil], by simp, by simp⟩
      | claims => exact ⟨[_], by simp [hreaches.1.missing_eq_nil]; rfl, by simp, fun _ => hreaches.1⟩
  nothing := by
    rintro rfl
    cases h with
    | ready => rfl
    | stops _ hstop => exact absurd rfl hstop.result_ne
  bindings b hb := by
    have hmade : d.IsBound s ns → False := fun hbound => by
      rw [hbound.missing_eq_nil] at hb
      cases hb
    cases h with
    | binds hbound =>
      obtain ⟨p, hp, hnone, rfl⟩ := mem_missingFrom.1 hb
      obtain ⟨stored, hstored, hspec, -⟩ := hbound.made p hp hnone
      exact ⟨stored, hstored, hspec⟩
    | ready hbound => exact (hmade hbound).elim
    | stops hreaches => exact (hmade hreaches.1).elim
  claims claim hclaim := by
    cases h with
    | binds =>
      obtain ⟨_, -, hcall⟩ := List.mem_map.1 hclaim
      cases hcall
    | ready => cases hclaim
    | @stops c _ _ _ hreaches hstop =>
      cases hstop with
      | waits => cases hclaim
      | @claims _ owner h howner hfree =>
        cases List.mem_singleton.1 hclaim
        obtain ⟨hns, hname, -⟩ := h.claim owner
        refine ⟨c, _, hreaches, h.2.2, hns, h.found hfree, ?_, rfl⟩
        rw [Resource.name, Resource.name, hname]
        rfl
  again := h.again hns hl

/-- Staging makes each link once: whatever it answers, what was missing was made, and a second pass finds
it and answers the same. Where every interface is bound to a context with a ready subnet, it answers that
the networks are ready. -/
theorem stageNetworks_once (hns : d.metadata.ns = some ns) (hl : d.location = some location)
    (hname : d.metadata.name = some name) (huid : d.metadata.uid = some uid) (now : Instant)
    (s : Server) : ∃ owner, d.controllerReference? = some owner ∧
      (∀ ready t, d.stageNetworks.run (Server.answer now) s = (.ok ready, t) →
        MadeOnce d s ns location owner ready (d.stageNetworks.writes (Server.answer now) s) t) ∧
      ((∀ index < d.interfaces.length, ∃ b c,
          s.bindings.find? ns (NetworkBinding.nameFor d.name index) = some b ∧
            NetworkBinding.isReady b = true ∧ NetworkBinding.context? b = some c ∧
            s.Serves location c) →
        d.stageNetworks.run (Server.answer now) s = (.ok true, s)) := by
  obtain ⟨owner, howner⟩ := exists_controller hname huid
  refine ⟨owner, howner, fun ready t hrun => ?_, fun hall => ?_⟩
  · obtain ⟨ws, result, t', hyields, hstaging⟩ := stageNetworks_yields hns hl howner now s
    cases hrun.symm.trans hyields.run
    rw [hyields.writes]
    exact hstaging.madeOnce hns hl
  · refine stageNetworks_run_true_iff.2 ⟨rfl, ns, location, hns, hl, fun index hindex => ?_⟩
    obtain ⟨b, c, hb, hready, hc, hserves⟩ := hall index hindex
    refine ⟨b, hb, hready, fun c' hc' => ?_⟩
    cases hc.symm.trans hc'
    exact hserves

/-- The context has no subnet yet: the first pass makes the claim on one, the second nothing. -/
theorem stageNetworks_once_claim :
    let location : LocationReference := ⟨"dfw", "infra"⟩
    let d := storedWithInterface location
    let s := ledToContext location
    ∃ t, d.stageNetworks.run (Server.answer ⟨0, 0⟩) s = (.ok false, t) ∧
      (d.stageNetworks.writes (Server.answer ⟨0, 0⟩) s).length = 1 ∧
      d.stageNetworks.writes (Server.answer ⟨60, 0⟩) t = [] := by
  intro location d s
  obtain ⟨owner, -, honce, -⟩ := stageNetworks_once (d := d) rfl rfl rfl rfl ⟨0, 0⟩ s
  have hrun : d.stageNetworks.run (Server.answer ⟨0, 0⟩) s = (.ok false, _) := rfl
  exact ⟨_, hrun, rfl, ((honce false _ hrun).again ⟨60, 0⟩).writes⟩

end Deployment

end ControlPlane
