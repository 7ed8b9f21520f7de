import ControlPlane.Proofs.Deployment.Bindings
import ControlPlane.Proofs.Writes.Outcomes

/-!
# The links that staging makes

Staging first makes the bindings that are missing, all of them, and goes on to the contexts only if it
made none and all are ready. It then comes to the first context that has no ready subnet, and does
nothing about those after it (`stageSubnets_stop`). A context that is ready and that nothing claims a
subnet for gets a claim, under a name that is made of its own, unless that name is taken.

* `stageBindings_yields`: the bindings that are made, and what is found of them then.
* `Stop`, `Stop.yields`: what becomes of a context that has no ready subnet.
* `Staging`, `stageNetworks_yields`: all that can become of staging.
-/

namespace ControlPlane

open Pass (perform Yields yields_done yields_abort yields_perform onlyReads_done onlyReads_bind_read)

namespace Server

/-- The context that a binding leads to is ready, and nothing claims a subnet for it at the location. -/
def Unclaimed (s : Server) (location : LocationReference) (c : ContextReference)
    (context : NetworkContext) : Prop :=
  s.contexts.find? c.ns c.name = some context ∧ NetworkContext.isReady context = true ∧
    s.firstClaim? location c = none

variable {s : Server} {location : LocationReference} {c : ContextReference}
  {context : NetworkContext}

theorem Unclaimed.not_serves (h : s.Unclaimed location c context) : ¬ s.Serves location c := by
  rintro ⟨_, claim, _, _, -, -, hclaim, -⟩
  rw [h.2.2] at hclaim
  cases hclaim

/-- The claim made for a context is named after it, and serves it. -/
theorem Unclaimed.claim (h : s.Unclaimed location c context) (owner : OwnerReference) :
    let claim := SubnetClaim.forContext context location owner
    claim.metadata.ns = some c.ns ∧ claim.metadata.name = some (c.name ++ "-0") ∧
      claim.serves c.name location = true := by
  have hname : context.name = c.name := Table.name_of_find? h.1
  refine ⟨(Table.metadata_of_find? h.1).1, ?_, ?_⟩
  · simp only [SubnetClaim.forContext, hname]
  · simp only [SubnetClaim.serves, SubnetClaim.forContext, hname, beq_self_eq_true, Bool.and_self]

end Server

namespace Deployment

/-! ## Bindings -/

section Bindings

variable (d : Deployment) (s : Server) (ns : String) (location : LocationReference)
  (owner : OwnerReference) (index : Nat) (l : List NetworkInterface)

/-- The bindings to be made for the interfaces from `index` on: one for each that has none. -/
def missingFrom : List NetworkBinding :=
  (l.zipIdx index).filterMap fun (i, index) =>
    if (s.bindings.find? ns (NetworkBinding.nameFor d.name index)).isNone then
      some (d.newBinding ns location owner index i)
    else none

/-- The bindings that are stored for the interfaces from `index` on. -/
def boundFrom : List NetworkBinding :=
  (l.zipIdx index).filterMap fun (_, index) =>
    s.bindings.find? ns (NetworkBinding.nameFor d.name index)

end Bindings

variable {d : Deployment} {s t : Server} {now : Instant} {ns : String} {location : LocationReference}
  {owner : OwnerReference} {index : Nat} {l : List NetworkInterface} {i : NetworkInterface}

/-- What staging has changed when it comes to the contexts: each interface has a binding, and the ones
that were made have no status. -/
structure Bound (d : Deployment) (ns : String) (location : LocationReference) (index : Nat)
    (l : List NetworkInterface) (s t : Server) : Prop where
  same : t = { s with bindings := t.bindings }
  keeps : ∀ name b, s.bindings.find? ns name = some b → t.bindings.find? ns name = some b
  made : ∀ p ∈ l.zipIdx index,
    s.bindings.find? ns (NetworkBinding.nameFor d.name p.2) = none →
      ∃ b, t.bindings.find? ns (NetworkBinding.nameFor d.name p.2) = some b ∧
        b.spec = ⟨p.1.network, location⟩ ∧ b.status = none

theorem stageBinding_found {b : NetworkBinding}
    (h : s.bindings.find? ns (NetworkBinding.nameFor d.name index) = some b) :
    (d.stageBinding ns location index i).Yields (Server.answer now) s [] (.ok b) s := by
  refine Yields.bind_read (r := some b) rfl ?_ yields_done
  rw [Server.answer, h]

theorem stageBinding_missing (howner : d.controllerReference? = some owner)
    (h : s.bindings.find? ns (NetworkBinding.nameFor d.name index) = none) :
    ∃ b t, (d.stageBinding ns location index i).Yields (Server.answer now) s
        [.createNetworkBinding (d.newBinding ns location owner index i)] (.ok b) t ∧
      t = { s with bindings := t.bindings } ∧
      t.bindings.find? ns (NetworkBinding.nameFor d.name index) = some b ∧
      b.spec = ⟨i.network, location⟩ ∧ b.status = none ∧
      ∀ name, name ≠ NetworkBinding.nameFor d.name index →
        t.bindings.find? ns name = s.bindings.find? ns name := by
  let wanted := d.newBinding ns location owner index i
  have hcreate := Table.create_of_free (r := wanted) now rfl rfl h
  refine ⟨(wanted.created s.bindings.nextUid now).stamp ns _ (s.bindings.revision + 1),
    { s with bindings := s.bindings.add ns _ (wanted.created s.bindings.nextUid now) h },
    Yields.bind_read (r := none) rfl ?_ ?_, rfl, Table.find?_add_self h, rfl, rfl, fun name hne => ?_⟩
  · rw [Server.answer, h]
  · rw [howner]
    refine yields_perform rfl ?_
    rw [Server.answer, hcreate]
    rfl
  · exact Table.find?_add_of_ne h fun he => hne (Prod.mk.inj he).2

theorem mem_missingFrom {b : NetworkBinding} :
    b ∈ d.missingFrom s ns location owner index l ↔ ∃ p ∈ l.zipIdx index,
      s.bindings.find? ns (NetworkBinding.nameFor d.name p.2) = none ∧
        d.newBinding ns location owner p.2 p.1 = b := by
  simp [missingFrom]

theorem missingFrom_congr
    (h : ∀ p ∈ l.zipIdx index, t.bindings.find? ns (NetworkBinding.nameFor d.name p.2) =
      s.bindings.find? ns (NetworkBinding.nameFor d.name p.2)) :
    d.missingFrom t ns location owner index l = d.missingFrom s ns location owner index l :=
  List.filterMap_congr fun p hp => by simp only [h p hp]

variable (ns location) in
/-- A binding is found, or made where there is none. -/
theorem stageBinding_yields (howner : d.controllerReference? = some owner) (now : Instant)
    (index : Nat) (i : NetworkInterface) (s : Server) : ∃ b t,
    (d.stageBinding ns location index i).Yields (Server.answer now) s
      ((d.missingFrom s ns location owner index [i]).map .createNetworkBinding) (.ok b) t ∧
    t = { s with bindings := t.bindings } ∧
    t.bindings.find? ns (NetworkBinding.nameFor d.name index) = some b ∧
    (s.bindings.find? ns (NetworkBinding.nameFor d.name index) = none →
      b.spec = ⟨i.network, location⟩ ∧ b.status = none) ∧
    ∀ name, name ≠ NetworkBinding.nameFor d.name index ∨ s.bindings.find? ns name ≠ none →
      t.bindings.find? ns name = s.bindings.find? ns name := by
  cases hfound : s.bindings.find? ns (NetworkBinding.nameFor d.name index) with
  | some b =>
    have hnone : d.missingFrom s ns location owner index [i] = [] := by simp [missingFrom, hfound]
    rw [hnone]
    exact ⟨b, s, stageBinding_found hfound, rfl, hfound, nofun, fun _ _ => rfl⟩
  | none =>
    have hone : d.missingFrom s ns location owner index [i] =
        [d.newBinding ns location owner index i] := by
      simp [missingFrom, hfound]
    obtain ⟨b, t, hyields, hsame, hb, hspec, hstatus, hother⟩ := stageBinding_missing howner hfound
    rw [hone]
    refine ⟨b, t, hyields, hsame, hb, fun _ => ⟨hspec, hstatus⟩, fun name hname => hother name ?_⟩
    exact hname.elim id fun hsome he => hsome (he ▸ hfound)

/-- Each interface has its binding once the bindings are staged. Those that are missing are made, whether
or not the others are ready. -/
theorem stageBindings_yields (howner : d.controllerReference? = some owner) (now : Instant)
    (index : Nat) (l : List NetworkInterface) (s : Server) : ∃ t,
    (d.stageBindings ns location index l).Yields (Server.answer now) s
      ((d.missingFrom s ns location owner index l).map .createNetworkBinding)
      (.ok (d.boundFrom t ns index l)) t ∧
    Bound d ns location index l s t := by
  induction l generalizing index s with
  | nil => exact ⟨s, yields_done, rfl, fun _ _ h => h, nofun⟩
  | cons i rest ih =>
    obtain ⟨b, m, hfirst, hsame, hb, hmade, hother⟩ :=
      stageBinding_yields ns location howner now index i s
    obtain ⟨t, hrest, hbound⟩ := ih (index + 1) m
    -- the names of the others are not that of the first
    have hnames : ∀ p ∈ rest.zipIdx (index + 1),
        m.bindings.find? ns (NetworkBinding.nameFor d.name p.2) =
          s.bindings.find? ns (NetworkBinding.nameFor d.name p.2) := fun p hp => by
      have hlater := List.le_snd_of_mem_zipIdx hp
      refine hother _ (.inl fun he => ?_)
      have := (NetworkBinding.nameFor_inj.1 he).2
      omega
    have hmissing : d.missingFrom s ns location owner index (i :: rest) =
        d.missingFrom s ns location owner index [i] ++
          d.missingFrom m ns location owner (index + 1) rest := by
      rw [missingFrom_congr hnames]
      exact List.filterMap_append (l := [(i, index)])
    have hboundFrom : d.boundFrom t ns index (i :: rest) =
        b :: d.boundFrom t ns (index + 1) rest := by
      simp [boundFrom, hbound.keeps _ _ hb]
    refine ⟨t, ?_, ?_⟩
    · rw [hmissing, hboundFrom, List.map_append]
      exact hfirst.bind (hrest.bind_nil yields_done)
    · refine ⟨?_, fun name b' h => ?_, fun p hp hnone => ?_⟩
      · rw [hbound.same, hsame]
      · exact hbound.keeps _ _ ((hother name (.inr (by simp [h]))).trans h)
      · obtain rfl | hp := List.mem_cons.1 hp
        · exact ⟨b, hbound.keeps _ _ hb, hmade hnone⟩
        · exact hbound.made p hp ((hnames p hp).trans hnone)

/-! ## Subnets -/

section Subnets

variable {c : ContextReference} {context : NetworkContext} {ws : List Call}
  {result : Except Error Bool}

theorem claimSubnet_yields {made : Except Error SubnetClaim}
    {claims : Table SubnetClaimSpec SubnetClaimStatus} (howner : context.ownerReference? = some owner)
    (h : s.claims.create now (SubnetClaim.forContext context location owner) = (made, claims)) :
    (claimSubnet context location).Yields (Server.answer now) s
      [.createSubnetClaim (.forContext context location owner)] made { s with claims } := by
  rw [claimSubnet, howner]
  exact yields_perform rfl (by rw [Server.answer, Server.onClaims, h])

/-- A context that is ready and that nothing claims a subnet for is claimed one for. -/
theorem stageSubnet_unclaimed {made : Except Error SubnetClaim} (h : s.Unclaimed location c context)
    (hclaim : (claimSubnet context location).Yields (Server.answer now) s ws made t) :
    (stageSubnet location c).Yields (Server.answer now) s ws (made.map fun _ => false) t := by
  obtain ⟨hc, hr, hf⟩ := h
  refine Yields.bind_read (r := some context) rfl (by rw [Server.answer, hc]) ?_
  simp only [hr, Bool.not_true, Bool.false_eq_true, if_false]
  refine Yields.bind_read rfl rfl ?_
  rw [Server.firstClaim?] at hf
  simp only [hf]
  cases made with
  | error e => exact hclaim.bind_error
  | ok claim => exact hclaim.bind_nil yields_done

/-- Otherwise nothing is written for a context. -/
theorem onlyReads_stageSubnet (h : ∀ context, ¬ s.Unclaimed location c context) :
    (stageSubnet location c).OnlyReads (Server.answer now) s := by
  refine onlyReads_bind_read (r := s.contexts.find? c.ns c.name) rfl rfl ?_
  cases hc : s.contexts.find? c.ns c.name with
  | none => exact onlyReads_done
  | some context =>
    cases hr : NetworkContext.isReady context with
    | false => simpa [hr] using onlyReads_done
    | true =>
      simp only [hr, Bool.not_true, Bool.false_eq_true, if_false]
      refine onlyReads_bind_read rfl rfl ?_
      rw [← Server.firstClaim?]
      cases hf : s.firstClaim? location c with
      | none => exact absurd ⟨hc, hr, hf⟩ (h context)
      | some claim =>
        cases hq : SubnetClaim.isReady claim with
        | false => simpa [hq] using onlyReads_done
        | true =>
          simp only [hq, Bool.not_true, Bool.false_eq_true, if_false]
          cases hs : SubnetClaim.subnet? claim with
          | none => exact onlyReads_done
          | some reference =>
            refine onlyReads_bind_read (r := s.subnets.find? c.ns reference.name) rfl rfl ?_
            cases s.subnets.find? c.ns reference.name <;> exact onlyReads_done

theorem stageSubnet_serves (h : s.Serves location c) :
    (stageSubnet location c).Yields (Server.answer now) s [] (.ok true) s := by
  obtain ⟨ready, hyields⟩ : (stageSubnet location c).OnlyReads (Server.answer now) s :=
    onlyReads_stageSubnet fun _ hunclaimed => hunclaimed.not_serves h
  cases hyields.run.symm.trans (stageSubnet_run_true_iff.2 ⟨rfl, h⟩)
  exact hyields

theorem stageSubnet_waits (h : ¬ s.Serves location c)
    (hclaimed : ∀ context, ¬ s.Unclaimed location c context) :
    (stageSubnet location c).Yields (Server.answer now) s [] (.ok false) s := by
  obtain ⟨ready, hyields⟩ : (stageSubnet location c).OnlyReads (Server.answer now) s :=
    onlyReads_stageSubnet hclaimed
  cases ready with
  | true => exact absurd (stageSubnet_run_true_iff.1 hyields.run).2 h
  | false => exact hyields

/-- What becomes of a context that has no ready subnet. -/
inductive Stop (now : Instant) (s : Server) (location : LocationReference) (c : ContextReference) :
    List Call → Except Error Bool → Server → Prop
  | waits (h : ¬ s.Serves location c) (hclaimed : ∀ context, ¬ s.Unclaimed location c context) :
      Stop now s location c [] (.ok false) s
  | claims {context : NetworkContext} {owner : OwnerReference}
      (h : s.Unclaimed location c context) (howner : context.ownerReference? = some owner)
      (hfree : s.claims.find? c.ns (c.name ++ "-0") = none) :
      Stop now s location c [.createSubnetClaim (.forContext context location owner)] (.ok false)
        { s with
          claims := s.claims.add c.ns (c.name ++ "-0")
            ((SubnetClaim.forContext context location owner).created s.claims.nextUid now) hfree }
  | refused {context : NetworkContext} {owner : OwnerReference}
      (h : s.Unclaimed location c context) (howner : context.ownerReference? = some owner)
      (htaken : s.claims.find? c.ns (c.name ++ "-0") ≠ none) :
      Stop now s location c [.createSubnetClaim (.forContext context location owner)]
        (.error (.conflict (describe .subnetClaim c.ns (c.name ++ "-0") ++ " already exists"))) s
  | unowned {context : NetworkContext} (h : s.Unclaimed location c context)
      (howner : context.ownerReference? = none) :
      Stop now s location c [] (.error (.cannotOwn "network context" c.name)) s

theorem Stop.result_ne (h : Stop now s location c ws result t) : result ≠ .ok true := by
  cases h <;> exact nofun

theorem Stop.yields (h : Stop now s location c ws result t) :
    (stageSubnet location c).Yields (Server.answer now) s ws result t := by
  cases h with
  | waits h hclaimed => exact stageSubnet_waits h hclaimed
  | @claims _ owner h howner hfree =>
    obtain ⟨hns, hname, -⟩ := h.claim owner
    exact stageSubnet_unclaimed h <|
      claimSubnet_yields howner (Table.create_of_free now hns hname hfree)
  | @refused _ owner h howner htaken =>
    obtain ⟨hns, hname, -⟩ := h.claim owner
    exact stageSubnet_unclaimed h <|
      claimSubnet_yields howner (Table.create_of_taken now hns hname htaken)
  | @unowned context h howner =>
    have hmade : (claimSubnet context location).Yields (Server.answer now) s []
        (.error (.cannotOwn "network context" c.name)) s := by
      rw [claimSubnet, howner, Table.name_of_find? h.1]
      exact yields_abort
    exact stageSubnet_unclaimed h hmade

theorem exists_stop (now : Instant) (h : ¬ s.Serves location c) :
    ∃ ws result t, Stop now s location c ws result t := by
  by_cases hclaimed : ∃ context, s.Unclaimed location c context
  · obtain ⟨context, hunclaimed⟩ := hclaimed
    cases howner : context.ownerReference? with
    | none => exact ⟨_, _, _, .unowned hunclaimed howner⟩
    | some owner =>
      by_cases hfree : s.claims.find? c.ns (c.name ++ "-0") = none
      · exact ⟨_, _, _, .claims hunclaimed howner hfree⟩
      · exact ⟨_, _, _, .refused hunclaimed howner hfree⟩
  · exact ⟨_, _, _, .waits h (not_exists.1 hclaimed)⟩

theorem stageSubnets_serve {cs : List ContextReference} (h : ∀ c ∈ cs, s.Serves location c) :
    (stageSubnets location cs).Yields (Server.answer now) s [] (.ok true) s := by
  induction cs with
  | nil => exact yields_done
  | cons c rest ih =>
    obtain ⟨hc, hrest⟩ := List.forall_mem_cons.1 h
    exact (stageSubnet_serves hc).bind (ih hrest)

/-- The subnets are staged up to the first context that has none that is ready. -/
theorem stageSubnets_stop {before after : List ContextReference}
    (hbefore : ∀ x ∈ before, s.Serves location x) (h : Stop now s location c ws result t) :
    (stageSubnets location (before ++ c :: after)).Yields (Server.answer now) s ws result t := by
  induction before with
  | nil =>
    cases result with
    | error e => exact h.yields.bind_error
    | ok ready =>
      cases ready with
      | true => exact absurd rfl h.result_ne
      | false => exact h.yields.bind_nil yields_done
  | cons x rest ih =>
    obtain ⟨hx, hrest⟩ := List.forall_mem_cons.1 hbefore
    exact (stageSubnet_serves hx).bind (ih hrest)

end Subnets

/-! ## Networks -/

/-- Each interface has its binding, and it is ready. -/
def IsBound (d : Deployment) (s : Server) (ns : String) : Prop :=
  ∀ index < d.interfaces.length, ∃ b,
    s.bindings.find? ns (NetworkBinding.nameFor d.name index) = some b ∧
      NetworkBinding.isReady b = true

/-- The contexts that the bindings of the interfaces lead to, in the order of the interfaces. -/
def contexts (d : Deployment) (s : Server) (ns : String) : List ContextReference :=
  (d.boundFrom s ns 0 d.interfaces).filterMap NetworkBinding.context?

/-- The bindings to be made for the interfaces. -/
def missing (d : Deployment) (s : Server) (ns : String) (location : LocationReference)
    (owner : OwnerReference) : List NetworkBinding :=
  d.missingFrom s ns location owner 0 d.interfaces

/-- Staging comes as far as this context: the bindings are ready, and so is a subnet for each of the
contexts before it. -/
def Reaches (d : Deployment) (s : Server) (ns : String) (location : LocationReference)
    (c : ContextReference) : Prop :=
  d.IsBound s ns ∧ ∃ before after, d.contexts s ns = before ++ c :: after ∧
    ∀ x ∈ before, s.Serves location x

/-- All that can become of staging. -/
inductive Staging (d : Deployment) (now : Instant) (s : Server) (ns : String)
    (location : LocationReference) (owner : OwnerReference) :
    List Call → Except Error Bool → Server → Prop
  | binds {t : Server} (hbound : Bound d ns location 0 d.interfaces s t)
      (h : (d.boundFrom t ns 0 d.interfaces).all NetworkBinding.isReady = false) :
      Staging d now s ns location owner
        ((d.missing s ns location owner).map .createNetworkBinding) (.ok false) t
  | ready (hbound : d.IsBound s ns) (h : ∀ c ∈ d.contexts s ns, s.Serves location c) :
      Staging d now s ns location owner [] (.ok true) s
  | stops {c : ContextReference} {ws : List Call} {result : Except Error Bool} {t : Server}
      (hreaches : d.Reaches s ns location c) (h : Stop now s location c ws result t) :
      Staging d now s ns location owner ws result t

theorem mem_zipIdx_interfaces {p : NetworkInterface × Nat} (hp : p ∈ d.interfaces.zipIdx) :
    p.2 < d.interfaces.length := by
  have := List.mem_zipIdx hp
  omega

theorem IsBound.missing_eq_nil (h : d.IsBound s ns) : d.missing s ns location owner = [] := by
  refine List.filterMap_eq_nil_iff.2 fun p hp => ?_
  obtain ⟨b, hb, -⟩ := h p.2 (mem_zipIdx_interfaces hp)
  simp [hb]

section Run

variable {ws ws' : List Call} {result : Except Error Bool} {bs : List NetworkBinding}
  {c : ContextReference} {m : Server}

theorem stageNetworks_of_ready (hns : d.metadata.ns = some ns) (hl : d.location = some location)
    (hbindings : (d.stageBindings ns location 0 d.interfaces).Yields (Server.answer now) s ws (.ok bs) m)
    (hready : bs.all NetworkBinding.isReady = true)
    (h : (stageSubnets location (bs.filterMap NetworkBinding.context?)).Yields (Server.answer now) m
      ws' result t) :
    d.stageNetworks.Yields (Server.answer now) s (ws ++ ws') result t := by
  rw [stageNetworks, hns, hl]
  exact hbindings.bind (by rwa [if_pos hready])

theorem stageNetworks_of_not_ready (hns : d.metadata.ns = some ns) (hl : d.location = some location)
    (hbindings : (d.stageBindings ns location 0 d.interfaces).Yields (Server.answer now) s ws (.ok bs) t)
    (hready : bs.all NetworkBinding.isReady = false) :
    d.stageNetworks.Yields (Server.answer now) s ws (.ok false) t := by
  rw [stageNetworks, hns, hl]
  exact hbindings.bind_nil (by rw [hready]; exact yields_done)

/-- Bindings that are there are found, and nothing is written. -/
theorem stageBindings_found (index : Nat) (l : List NetworkInterface)
    (h : ∀ p ∈ l.zipIdx index, s.bindings.find? ns (NetworkBinding.nameFor d.name p.2) ≠ none) :
    (d.stageBindings ns location index l).Yields (Server.answer now) s []
      (.ok (d.boundFrom s ns index l)) s := by
  induction l generalizing index with
  | nil => exact yields_done
  | cons i rest ih =>
    obtain ⟨hfirst, hrest⟩ := List.forall_mem_cons.1 h
    obtain ⟨b, hb⟩ := Option.ne_none_iff_exists'.1 hfirst
    have hbs : d.boundFrom s ns index (i :: rest) = b :: d.boundFrom s ns (index + 1) rest := by
      simp [boundFrom, hb]
    rw [hbs]
    exact (stageBinding_found hb).bind ((ih (index + 1) hrest).bind yields_done)

theorem IsBound.all_isReady (h : d.IsBound s ns) :
    (d.boundFrom s ns 0 d.interfaces).all NetworkBinding.isReady = true := by
  refine List.all_eq_true.2 fun b hb => ?_
  obtain ⟨p, hp, hfound⟩ := List.mem_filterMap.1 hb
  obtain ⟨b', hb', hready⟩ := h p.2 (mem_zipIdx_interfaces hp)
  cases hb'.symm.trans hfound
  exact hready

theorem IsBound.yields (h : d.IsBound s ns) (hns : d.metadata.ns = some ns)
    (hl : d.location = some location)
    (hsubnets : (stageSubnets location (d.contexts s ns)).Yields (Server.answer now) s ws result t) :
    d.stageNetworks.Yields (Server.answer now) s ws result t := by
  refine stageNetworks_of_ready hns hl (stageBindings_found 0 d.interfaces fun p hp => ?_)
    h.all_isReady hsubnets
  obtain ⟨b, hb, -⟩ := h p.2 (mem_zipIdx_interfaces hp)
  simp [hb]

theorem Reaches.yields (h : d.Reaches s ns location c) (hns : d.metadata.ns = some ns)
    (hl : d.location = some location) (hstop : Stop now s location c ws result t) :
    d.stageNetworks.Yields (Server.answer now) s ws result t := by
  obtain ⟨hbound, before, after, hcontexts, hbefore⟩ := h
  exact hbound.yields hns hl (hcontexts ▸ stageSubnets_stop hbefore hstop)

/-- Unless a subnet is ready for each context, staging comes to a first one that has none. -/
theorem exists_reaches (hbound : d.IsBound s ns) (h : ¬ ∀ c ∈ d.contexts s ns, s.Serves location c) :
    ∃ c, d.Reaches s ns location c ∧ ¬ s.Serves location c := by
  classical
  obtain ⟨x, hx⟩ : ∃ x, (d.contexts s ns).find? (¬ s.Serves location ·) = some x := by
    rw [← Option.isSome_iff_exists, List.find?_isSome]
    simpa using h
  obtain ⟨hc, before, after, hcontexts, hbefore⟩ := List.find?_eq_some_iff_append.1 hx
  exact ⟨x, ⟨hbound, before, after, hcontexts, fun y hy => by simpa using hbefore y hy⟩,
    by simpa using hc⟩

/-- A deployment that is stored can own what is made for it. -/
theorem exists_controller {name uid : String} (hname : d.metadata.name = some name)
    (huid : d.metadata.uid = some uid) : ∃ owner, d.controllerReference? = some owner := by
  simp [Resource.controllerReference?, Resource.ownerReference?, hname, huid]

/-- What becomes of staging, for a deployment that can own what is made for it. -/
theorem stageNetworks_yields (hns : d.metadata.ns = some ns) (hl : d.location = some location)
    (howner : d.controllerReference? = some owner) (now : Instant) (s : Server) : ∃ ws result t,
    d.stageNetworks.Yields (Server.answer now) s ws result t ∧
      Staging d now s ns location owner ws result t := by
  obtain ⟨t, hbindings, hbound⟩ := stageBindings_yields howner now 0 d.interfaces s
  cases hready : (d.boundFrom t ns 0 d.interfaces).all NetworkBinding.isReady with
  | false => exact ⟨_, _, t, stageNetworks_of_not_ready hns hl hbindings hready, .binds hbound hready⟩
  | true =>
    -- a binding that was just made is not ready, so all of them were there
    obtain ⟨rfl, hbinds⟩ : t = s ∧ ∀ index < d.interfaces.length,
        s.Binds ns (NetworkBinding.nameFor d.name (0 + index)) fun _ => True :=
      stageBindings_run_ready_iff.1 ⟨_, hbindings.run, hready, fun _ _ => trivial⟩
    have hisBound : d.IsBound t ns := fun index hi => by
      obtain ⟨b, hb, hb', -⟩ := hbinds index hi
      exact ⟨b, by rwa [Nat.zero_add] at hb, hb'⟩
    by_cases hserved : ∀ c ∈ d.contexts t ns, t.Serves location c
    · exact ⟨_, _, _, hisBound.yields hns hl (stageSubnets_serve hserved), .ready hisBound hserved⟩
    · obtain ⟨c, hreaches, hc⟩ := exists_reaches hisBound hserved
      obtain ⟨ws, result, t, hstop⟩ := exists_stop now hc
      exact ⟨ws, result, t, hreaches.yields hns hl hstop, .stops hreaches hstop⟩

end Run

/-- A deployment with one interface, scheduled to a location and stored under a uid. -/
def storedWithInterface (location : LocationReference) : Deployment :=
  let d := withInterface location
  { d with metadata := { d.metadata with uid := some "d1" } }

/-- The server that holds a ready binding of the interface and the ready context it leads to. -/
def ledToContext (location : LocationReference) : Server :=
  let place : NetworkPlace := ⟨⟨"lan", none⟩, location⟩
  { Server.empty with
    bindings := Table.empty.add "shop" "web-net-0"
      { metadata := {}, spec := place, status := some ⟨some ⟨"c", "net"⟩, readyLink⟩ } rfl
    contexts := Table.empty.add "net" "c"
      { metadata := { uid := some "c1" }, spec := place, status := some ⟨readyLink⟩ } rfl }

end Deployment

end ControlPlane
