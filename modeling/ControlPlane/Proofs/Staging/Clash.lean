import ControlPlane.Proofs.Staging.Links

/-!
# When staging trips over a claim

The claim on a subnet for a context is looked for by what it asks for, and made under a name that is the
context's alone. A claim that has the name and asks for something else, as one for another location does,
is passed over by the search (`Clashes.passed_over`) and refuses its place to the new one. Staging fails
then, and fails again for as long as that claim is there; it fails over nothing else
(`stageNetworks_succeeds_iff`). A binding is looked for by the name that it is made under, and never
clashes.
-/

namespace ControlPlane

/-- A context that is stored with a uid can own its claims. -/
theorem Server.Unclaimed.exists_owner {s : Server} {location : LocationReference}
    {c : ContextReference} {context : NetworkContext} (h : s.Unclaimed location c context)
    (hcontexts : ∀ x ∈ s.contexts.objects, x.metadata.uid.isSome = true) :
    ∃ owner, context.ownerReference? = some owner := by
  obtain ⟨uid, huid⟩ := Option.isSome_iff_exists.1 (hcontexts _ (Table.find?_eq_some_iff.1 h.1).1)
  simp [Resource.ownerReference?, (Table.metadata_of_find? h.1).2, huid]

namespace Deployment

variable {d : Deployment} {s : Server} {ns name uid : String} {location : LocationReference}
  {c : ContextReference}

/-- Staging comes to a context for which it is to make a claim, and the name of that claim is taken. -/
structure Clashes (d : Deployment) (s : Server) (ns : String) (location : LocationReference)
    (c : ContextReference) : Prop where
  reaches : d.Reaches s ns location c
  unclaimed : ∃ context, s.Unclaimed location c context
  taken : s.claims.find? c.ns (c.name ++ "-0") ≠ none

/-- The claim in the way is not for a private IPv4 subnet of the context at the location. -/
theorem Clashes.passed_over (h : d.Clashes s ns location c) : ∃ claim,
    s.claims.find? c.ns (c.name ++ "-0") = some claim ∧
      SubnetClaim.serves claim c.name location = false := by
  obtain ⟨claim, hclaim⟩ := Option.ne_none_iff_exists'.1 h.taken
  obtain ⟨_, -, -, hfirst⟩ := h.unclaimed
  have hlisted : claim ∈ s.claims.list c.ns fun _ => true := by
    simp [Table.list, (Table.find?_eq_some_iff.1 hclaim).1, (Table.metadata_of_find? hclaim).1]
  exact ⟨claim, hclaim, by simpa using List.find?_eq_none.1 hfirst claim hlisted⟩

theorem Clashes.run (h : d.Clashes s ns location c) (hns : d.metadata.ns = some ns)
    (hl : d.location = some location)
    (hcontexts : ∀ x ∈ s.contexts.objects, x.metadata.uid.isSome = true) (now : Instant) :
    d.stageNetworks.run (Server.answer now) s =
      (.error (.conflict (describe .subnetClaim c.ns (c.name ++ "-0") ++ " already exists")), s) := by
  obtain ⟨context, hunclaimed⟩ := h.unclaimed
  obtain ⟨owner, howner⟩ := hunclaimed.exists_owner hcontexts
  exact (h.reaches.yields hns hl (.refused hunclaimed howner h.taken)).run

/-- Staging comes to an answer unless it clashes. When it does, it fails and leaves everything as it
is, so that it does the same the next time. -/
theorem stageNetworks_succeeds_iff (hns : d.metadata.ns = some ns) (hl : d.location = some location)
    (hname : d.metadata.name = some name) (huid : d.metadata.uid = some uid)
    (hcontexts : ∀ x ∈ s.contexts.objects, x.metadata.uid.isSome = true) (now : Instant) :
    ((∃ ready, (d.stageNetworks.run (Server.answer now) s).1 = .ok ready) ↔
        ∀ c, ¬ d.Clashes s ns location c) ∧
      ∀ c, d.Clashes s ns location c → d.stageNetworks.run (Server.answer now) s =
        (.error (.conflict (describe .subnetClaim c.ns (c.name ++ "-0") ++ " already exists")), s) := by
  refine ⟨⟨?_, fun hclear => ?_⟩, fun c hclash => hclash.run hns hl hcontexts now⟩
  · rintro ⟨ready, hready⟩ c hclash
    rw [hclash.run hns hl hcontexts now] at hready
    cases hready
  · obtain ⟨owner, howner⟩ := exists_controller hname huid
    obtain ⟨ws, result, t, hyields, hstaging⟩ := stageNetworks_yields hns hl howner now s
    rw [hyields.run]
    cases hstaging with
    | binds | ready => exact ⟨_, rfl⟩
    | @stops c _ _ _ hreaches hstop =>
      cases hstop with
      | waits | claims => exact ⟨_, rfl⟩
      | refused hunclaimed _ htaken =>
        exact absurd ⟨hreaches, ⟨_, hunclaimed⟩, htaken⟩ (hclear c)
      | unowned hunclaimed hunowned =>
        obtain ⟨owner, howner⟩ := hunclaimed.exists_owner hcontexts
        cases hunowned.symm.trans howner

/-- Nothing is in the way of the claim for the context. -/
theorem stageNetworks_succeeds_iff_unclaimed :
    let location : LocationReference := ⟨"dfw", "infra"⟩
    ∃ ready, ((storedWithInterface location).stageNetworks.run (Server.answer ⟨0, 0⟩)
      (ledToContext location)).1 = .ok ready := by
  intro location
  refine (stageNetworks_succeeds_iff rfl rfl rfl rfl (fun x hx => ?_) ⟨0, 0⟩).1.2
    fun c hclash => hclash.taken rfl
  rw [List.mem_singleton.1 hx]
  rfl

/-- The claim of the context's name is for another location. -/
theorem stageNetworks_clashes :
    let location : LocationReference := ⟨"dfw", "infra"⟩
    let claim : SubnetClaim :=
      { metadata := {}
        spec := { subnetClass := "private", ipFamily := .ipv4, context := ⟨"c"⟩,
                  location := ⟨"lax", "infra"⟩ } }
    let s : Server := { ledToContext location with claims := Table.empty.add "net" "c-0" claim rfl }
    let d := storedWithInterface location
    (d.metadata.ns = some "shop" ∧ d.location = some location ∧ d.metadata.name = some "web" ∧
      d.metadata.uid = some "d1" ∧ ∀ x ∈ s.contexts.objects, x.metadata.uid.isSome = true) ∧
    (d.stageNetworks.run (Server.answer ⟨0, 0⟩) s).1 =
      .error (.conflict "SubnetClaim net/c-0 already exists") := by
  intro location claim s d
  refine ⟨⟨rfl, rfl, rfl, rfl, fun x hx => ?_⟩, by rfl⟩
  rw [List.mem_singleton.1 hx]
  rfl

end Deployment

end ControlPlane
