import ControlPlane.Proofs.Staging.Chain
import ControlPlane.Proofs.Watch.Cache
import ControlPlane.Reconcile.Deployment

/-!
# What wakes a deployment that waits for its networks

Staging that finds a link of the chain missing or not ready leaves the deployment to wait for a change
(`networksReady_iff`), and the pass does not ask to be run again by itself (`requeue_reconcile`). A
binding leads back to the deployment as its owner, a claim and a subnet through their location. A
context leads back to nothing: `wakes_iff` tells the links that wake the deployment from those that do
not.
-/

namespace ControlPlane

/-- A link of the chain from an interface of a deployment to a subnet. -/
inductive Link where
  | binding (name : String)
  /-- The context that a binding leads to. -/
  | context (c : ContextReference)
  /-- The claim on a subnet of that context. -/
  | claim (c : ContextReference)
  | subnet (ns name : String)

namespace Link

/-- The resource is that link of the deployment's chain. A binding belongs to the deployment, and a
claim and a subnet are for the location of the deployment. -/
def Is (d : Deployment) (location : LocationReference) : Link → AnyResource → Prop
  | .binding name, .networkBinding b => b.metadata.name = some name ∧ b.metadata.BelongsTo d
  | .context c, .networkContext x => x.address = (some c.ns, some c.name)
  | .claim c, .subnetClaim x => x.metadata.ns = some c.ns ∧ x.serves c.name location = true
  | .subnet ns name, .subnet x => x.address = (some ns, some name) ∧ x.spec.location = location
  | _, _ => False

end Link

namespace Server

/-- A ready binding of the deployment leads to the context. -/
def LeadsTo (s : Server) (d : Deployment) (ns : String) (c : ContextReference) : Prop :=
  ∃ i < d.interfaces.length, ∃ b, s.bindings.find? ns (NetworkBinding.nameFor d.name i) = some b ∧
    NetworkBinding.isReady b = true ∧ NetworkBinding.context? b = some c

/-- The subnet that the claim for a context got, once the claim is ready. -/
def claimedSubnet? (s : Server) (location : LocationReference) (c : ContextReference) :
    Option LocalReference :=
  ((s.firstClaim? location c).filter SubnetClaim.isReady).bind SubnetClaim.subnet?

/-- The link of the deployment's chain is missing or not ready. So far as a link is found through
others, these are ready. -/
inductive Lacks (s : Server) (d : Deployment) (ns : String) (location : LocationReference) :
    Link → Prop
  | binding {i : Nat} (hi : i < d.interfaces.length)
      (h : (s.bindings.find? ns (NetworkBinding.nameFor d.name i)).any
        NetworkBinding.isReady = false) :
      Lacks s d ns location (.binding (NetworkBinding.nameFor d.name i))
  | context {c : ContextReference} (hc : s.LeadsTo d ns c)
      (h : (s.contexts.find? c.ns c.name).any NetworkContext.isReady = false) :
      Lacks s d ns location (.context c)
  | claim {c : ContextReference} (hc : s.LeadsTo d ns c)
      (hcontext : (s.contexts.find? c.ns c.name).any NetworkContext.isReady = true)
      (h : s.claimedSubnet? location c = none) :
      Lacks s d ns location (.claim c)
  | subnet {c : ContextReference} {reference : LocalReference} (hc : s.LeadsTo d ns c)
      (hcontext : (s.contexts.find? c.ns c.name).any NetworkContext.isReady = true)
      (hclaim : s.claimedSubnet? location c = some reference)
      (h : (s.subnets.find? c.ns reference.name).any Subnet.isReady = false) :
      Lacks s d ns location (.subnet c.ns reference.name)

variable {s : Server} {d : Deployment} {ns : String} {location : LocationReference}
  {c : ContextReference}

theorem serves_iff : s.Serves location c ↔
    (s.contexts.find? c.ns c.name).any NetworkContext.isReady = true ∧
      ∃ reference, s.claimedSubnet? location c = some reference ∧
        (s.subnets.find? c.ns reference.name).any Subnet.isReady = true := by
  simp only [Serves, claimedSubnet?, Option.any_eq_true, Option.bind_eq_some_iff,
    Option.filter_eq_some_iff]
  constructor
  · rintro ⟨context, claim, reference, subnet, hc, hcr, hf, hfr, hs, hg, hgr⟩
    exact ⟨⟨context, hc, hcr⟩, reference, ⟨claim, ⟨hf, hfr⟩, hs⟩, subnet, hg, hgr⟩
  · rintro ⟨⟨context, hc, hcr⟩, reference, ⟨claim, ⟨hf, hfr⟩, hs⟩, subnet, hg, hgr⟩
    exact ⟨context, claim, reference, subnet, hc, hcr, hf, hfr, hs, hg, hgr⟩

/-- A context that is led to is served, unless a link behind it is lacking. -/
theorem serves_of_lacks_none (h : ∀ link, ¬ s.Lacks d ns location link) (hc : s.LeadsTo d ns c) :
    s.Serves location c := by
  rw [serves_iff]
  cases hcontext : (s.contexts.find? c.ns c.name).any NetworkContext.isReady with
  | false => exact absurd (.context hc hcontext) (h _)
  | true =>
    cases hclaim : s.claimedSubnet? location c with
    | none => exact absurd (.claim hc hcontext hclaim) (h _)
    | some reference =>
      cases hsubnet : (s.subnets.find? c.ns reference.name).any Subnet.isReady with
      | false => exact absurd (.subnet hc hcontext hclaim hsubnet) (h _)
      | true => exact ⟨rfl, reference, rfl, hsubnet⟩

/-- No link of a chain is lacking in networks that are ready. -/
theorem not_lacks_of_binds {link : Link} (h : ∀ i < d.interfaces.length,
      s.Binds ns (NetworkBinding.nameFor d.name i) (s.Serves location)) :
    ¬ s.Lacks d ns location link := by
  have hserved : ∀ c, s.LeadsTo d ns c → s.Serves location c := by
    rintro c ⟨i, hi, b, hb, -, hbc⟩
    obtain ⟨b', hb', -, hpass⟩ := h i hi
    cases hb.symm.trans hb'
    exact hpass c hbc
  rintro (⟨hi, hl⟩ | ⟨hc, hl⟩ | ⟨hc, hcontext, hl⟩ | ⟨hc, hcontext, hclaim, hl⟩)
  case binding =>
    obtain ⟨b, hb, hr, -⟩ := h _ hi
    rw [hb, Option.any_some, hr] at hl
    cases hl
  all_goals obtain ⟨hcontext', reference, hclaim', hsubnet⟩ := serves_iff.1 (hserved _ hc)
  case context => cases hl.symm.trans hcontext'
  case claim => cases hl.symm.trans hclaim'
  case subnet =>
    cases hclaim.symm.trans hclaim'
    cases hl.symm.trans hsubnet

/-- The networks of a scheduled deployment are ready exactly when no link of its chain is lacking. -/
theorem networksReady_iff (hns : d.metadata.ns = some ns) (hl : d.location = some location) :
    s.NetworksReady d ↔ ∀ link, ¬ s.Lacks d ns location link := by
  constructor
  · rintro ⟨ns', location', hns', hl', h⟩ link
    cases hns.symm.trans hns'
    cases hl.symm.trans hl'
    exact not_lacks_of_binds h
  · intro h
    refine ⟨ns, location, hns, hl, fun i hi => ?_⟩
    cases hb : (s.bindings.find? ns (NetworkBinding.nameFor d.name i)).any
        NetworkBinding.isReady with
    | false => exact absurd (.binding hi hb) (h _)
    | true =>
      obtain ⟨b, hf, hr⟩ := (Option.any_eq_true _ _).1 hb
      exact ⟨b, hf, hr, fun c hc => serves_of_lacks_none h ⟨i, hi, b, hf, hr, hc⟩⟩

end Server

namespace Pass

variable {α : Type} {p : Pass α} {f : α → Pass Requeue} {s t : Server} {now : Instant} {r : Requeue}

/-- A pass asks for what its last part asks for. -/
theorem requeue_bind
    (hf : ∀ a s t, (f a).run (Server.answer now) s = (.ok r, t) → r = awaitChange)
    (h : (p.bind f).run (Server.answer now) s = (.ok r, t)) : r = awaitChange := by
  obtain ⟨a, m, -, hm⟩ := run_bind_eq_ok.1 h
  exact hf a m t hm

theorem requeue_done (h : (done awaitChange).run (Server.answer now) s = (.ok r, t)) :
    r = awaitChange := by
  cases h
  rfl

end Pass

namespace Deployment

open Pass (requeue_bind requeue_done)

variable {d : Deployment} {s t : Server} {now : Instant} {location : LocationReference}
  {ns : String} {scope : Option String}

/-! ## What staging leaves to wait for -/

/-- Staging that does not answer that the networks are ready has found a link lacking. -/
theorem exists_lacks_of_stageNetworks_false (hl : d.location = some location)
    (h : (d.stageNetworks.run (Server.answer now) s).1 = .ok false) :
    ∃ ns, d.metadata.ns = some ns ∧ ∃ link, s.Lacks d ns location link := by
  cases hns : d.metadata.ns with
  | none => simp [stageNetworks, hl, hns] at h
  | some ns =>
    refine ⟨ns, rfl, ?_⟩
    by_contra hnone
    have hready := (s.networksReady_iff hns hl).2 (not_exists.1 hnone)
    rw [stageNetworks_run_true_iff.2 ⟨rfl, hready⟩] at h
    cases h

theorem requeue_tearDown {r : Requeue} (h : d.tearDown.run (Server.answer now) s = (.ok r, t)) :
    r = awaitChange := by
  unfold tearDown at h
  split at h
  · exact requeue_done h
  · refine requeue_bind (fun gone s t h => ?_) h
    cases gone with
    | false => exact requeue_done h
    | true => exact requeue_bind (fun _ _ _ => requeue_done) h

theorem requeue_rollOut {later : Instant} {r : Requeue}
    (h : (d.rollOut now).run (Server.answer later) s = (.ok r, t)) : r = awaitChange := by
  refine requeue_bind (fun uid s t h => ?_) h
  refine requeue_bind (fun instances s t h => ?_) h
  refine requeue_bind (fun actions s t h => ?_) h
  refine requeue_bind (fun _ s t h => ?_) h
  refine requeue_bind (fun ready s t h => ?_) h
  have hreport {s t : Server} {status : DeploymentStatus}
      (h : (if d.status ≠ some status then
          (Pass.perform (.patchDeploymentStatus d status)).bind fun _ => .done awaitChange
        else .done awaitChange).run (Server.answer later) s = (.ok r, t)) : r = awaitChange := by
    split at h
    · exact requeue_bind (fun _ _ _ => requeue_done) h
    · exact requeue_done h
  cases ready with
  | false => exact hreport h
  | true => exact requeue_bind (fun _ _ _ => hreport) h

/-- A pass on a deployment does not ask to be run again without a change. -/
theorem requeue_reconcile {later : Instant} {r : Requeue}
    (h : (d.reconcile now).run (Server.answer later) s = (.ok r, t)) : r = awaitChange := by
  unfold reconcile at h
  split at h
  · exact requeue_tearDown h
  · split at h
    · exact requeue_bind (fun _ _ _ => requeue_done) h
    · split at h
      · exact requeue_done h
      · exact requeue_rollOut h

/-! ## What wakes it -/

theorem watches_takesAsIs : Watches.TakesAsIs Deployment.watches := by
  intro r x h
  cases r <;> cases h
  rfl

theorem mem_atLocation {l : List Deployment} (hd : d ∈ l) (hl : d.location = some location) :
    d ∈ atLocation l location.key := by
  refine List.mem_filter.2 ⟨hd, ?_⟩
  simp [locationKeys, hl]

variable {w : Watching DeploymentSpec DeploymentStatus} {change : Change} {r : AnyResource}
  {link : Link}

theorem key_mem_handle_of_owned (hw : w.Within Deployment.watches scope) (hd : d ∈ w.cache)
    (hk : r.kind = .networkBinding) (hr : r.metadata.BelongsTo d) :
    d.key ∈ (Deployment.watches.handle w ⟨change, r⟩).1 := by
  have hne : r.kind ≠ .workloadDeployment := by simp [hk]
  have howned : r.kind ∈ Deployment.watches.owned := by simp [hk, Deployment.watches]
  obtain ⟨y, hy, hkey⟩ := Watches.exists_mem_owners hw hd howned hr
  rw [Watches.handle_of_kind_ne hw hne, Watches.mem_passes]
  exact ⟨y, List.mem_append_left _ hy, rfl, hkey⟩

/-- A change to a link calls for a pass on the deployment exactly when the link is no context. -/
theorem key_mem_handle_iff (hw : w.Within Deployment.watches scope) (hd : d ∈ w.cache)
    (hl : d.location = some location) (hr : link.Is d location r) :
    d.key ∈ (Deployment.watches.handle w ⟨change, r⟩).1 ↔ ∀ c, link ≠ .context c := by
  have hat {l : LocationReference} (h : l = location) : d ∈ atLocation w.cache l.key :=
    mem_atLocation hd (hl.trans (congrArg some h.symm))
  cases link <;> cases r <;> try cases hr
  case binding.networkBinding name b hname hb =>
    exact iff_of_true (key_mem_handle_of_owned hw hd rfl hb) (by simp)
  case context.networkContext c x =>
    rw [Watches.mem_handle_iff hw (by rintro ⟨⟩) (by simp [AnyResource.kind, Deployment.watches])]
    simp [Deployment.watches]
  case claim.subnetClaim c x hns hserves =>
    have hlocation : x.spec.location = location := by
      simp only [SubnetClaim.serves, Bool.and_eq_true, beq_iff_eq] at hserves
      exact hserves.2
    rw [Watches.mem_handle_iff hw (by rintro ⟨⟩) (by simp [AnyResource.kind, Deployment.watches])]
    exact iff_of_true ⟨d, hat hlocation, rfl, rfl⟩ (by simp)
  case subnet.subnet ns name x haddress hlocation =>
    rw [Watches.mem_handle_iff hw (by rintro ⟨⟩) (by simp [AnyResource.kind, Deployment.watches])]
    exact iff_of_true ⟨d, hat hlocation, rfl, rfl⟩ (by simp)

/-- The binding that staging makes for an interface is a link of the deployment's chain. -/
theorem is_newBinding {i : Nat} {interface : NetworkInterface} {owner : OwnerReference}
    (hns : d.metadata.ns = some ns) (howner : d.controllerReference? = some owner) :
    (Link.binding (NetworkBinding.nameFor d.name i)).Is d location
      (.networkBinding (d.newBinding ns location owner i interface)) := by
  obtain ⟨o, ho, rfl⟩ := Option.map_eq_some_iff.1 howner
  simp only [Resource.ownerReference?, Option.bind_eq_bind, Option.bind_eq_some_iff] at ho
  obtain ⟨name, hname, uid, -, ho⟩ := ho
  cases ho
  refine ⟨rfl, hns.symm, _, List.mem_singleton_self _, ?_, ?_⟩
  · simp [OwnerReference.isTo]
  · simp [Resource.name, hname]

/-- So is the claim that staging makes for a context. -/
theorem is_forContext {context : NetworkContext} {c : ContextReference} {owner : OwnerReference}
    (hns : context.metadata.ns = some c.ns) (hname : context.name = c.name) :
    (Link.claim c).Is d location (.subnetClaim (.forContext context location owner)) :=
  ⟨hns, by simp [SubnetClaim.serves, SubnetClaim.forContext, hname]⟩

/-- A controller has cached a scheduled deployment, whose networks staging finds not ready. A link of
its chain is lacking, the deployment waits for a change, and whatever happens to a link that it lacks
calls for a pass on it, unless the link is a context. -/
theorem wakes_iff {present : List AnyResource} {events : List WatchEvent}
    (hscope : scope.all isNamespaceName = true)
    (hd : d ∈ (Deployment.watches.after scope present events).cache)
    (hl : d.location = some location)
    (hstaged : (d.stageNetworks.run (Server.answer now) s).1 = .ok false) :
    (∀ later requeue t, (d.reconcile later).run (Server.answer later) s = (.ok requeue, t) →
      requeue = awaitChange) ∧
    ∃ ns, d.metadata.ns = some ns ∧ (∃ link, s.Lacks d ns location link) ∧
      ∀ link, s.Lacks d ns location link → ∀ e : WatchEvent, link.Is d location e.resource →
        (d.key ∈ (Deployment.watches.handle
            (Deployment.watches.after scope present events) e).1 ↔
          ∀ c, link ≠ .context c) := by
  obtain ⟨ns, hns, hlacks⟩ := exists_lacks_of_stageNetworks_false hl hstaged
  have hw := Watches.within_after watches_takesAsIs hscope present events
  exact ⟨fun later requeue t => requeue_reconcile, ns, hns, hlacks,
    fun link _ e he => key_mem_handle_iff hw hd hl he⟩

/-- The binding of the deployment's interface, as staging makes it. -/
def awaitedBinding : NetworkBinding where
  metadata := {
    name := some "web-net-0"
    ns := some "shop"
    ownerReferences := some [
      { apiVersion := "compute.datumapis.com/v1alpha"
        kind := "WorkloadDeployment"
        name := "web"
        controller := some true }] }
  spec := ⟨⟨"lan", none⟩, ⟨"dfw", "infra"⟩⟩

/-- The deployment waits for its binding, and a change to the binding wakes it. -/
theorem wakes_iff_awaitedBinding :
    let d := withInterface ⟨"dfw", "infra"⟩
    let s := { Server.empty with bindings := Table.empty.add "shop" "web-net-0" awaitedBinding rfl }
    s.Lacks d "shop" ⟨"dfw", "infra"⟩ (.binding "web-net-0") ∧
      d.key ∈ (Deployment.watches.handle
        (Deployment.watches.after (some "shop") [.deployment d] [])
        ⟨.modified, .networkBinding awaitedBinding⟩).1 := by
  intro d s
  have hscope : (some "shop").all isNamespaceName = true := by decide +kernel
  have hlisted : Deployment.watches.listed? ⟨⟨.workloadDeployment, some "shop"⟩, true⟩
      [.deployment d] = some [d] := by
    rfl
  have hcached : d ∈ (Deployment.watches.after (some "shop") [.deployment d] []).cache := by
    rw [Watches.after, List.foldl_nil, Watches.list_eq_of_listed? hscope hlisted]
    exact List.mem_singleton_self d
  have hlacks : s.Lacks d "shop" ⟨"dfw", "infra"⟩ (.binding "web-net-0") :=
    .binding (i := 0) (by decide) (by rfl)
  have hbelongs : awaitedBinding.metadata.BelongsTo d :=
    ⟨rfl, _, List.mem_singleton_self _, by decide +kernel, rfl⟩
  have hstaged : (d.stageNetworks.run (Server.answer ⟨0, 0⟩) s).1 = .ok false := by rfl
  obtain ⟨-, ns, hns, -, hwakes⟩ := wakes_iff hscope hcached rfl hstaged
  cases hns
  exact ⟨hlacks, (hwakes _ hlacks ⟨.modified, .networkBinding awaitedBinding⟩
    ⟨rfl, hbelongs⟩).2 (by simp)⟩

/-- The deployment waits for the context that its binding leads to. When the context is made, and is
ready, no pass is called for. -/
theorem context_wakes_nothing :
    let location : LocationReference := ⟨"dfw", "infra"⟩
    let d := withInterface location
    let binding := { awaitedBinding with status := some ⟨some ⟨"c", "net"⟩, readyLink⟩ }
    let context : NetworkContext := {
      metadata := { name := some "c", ns := some "net" }
      spec := ⟨⟨"lan", none⟩, location⟩
      status := some ⟨readyLink⟩ }
    let s := { Server.empty with bindings := Table.empty.add "shop" "web-net-0" binding rfl }
    (d.stageNetworks.run (Server.answer ⟨0, 0⟩) s).1 = .ok false ∧
      s.Lacks d "shop" location (.context ⟨"c", "net"⟩) ∧
      (Link.context ⟨"c", "net"⟩).Is d location (.networkContext context) ∧
      Deployment.watches.run none [.deployment d] [⟨.added, .networkContext context⟩] =
        [["shop/web"], []] := by
  intro location d binding context s
  have hleads : s.LeadsTo d "shop" ⟨"c", "net"⟩ :=
    ⟨0, by decide, binding.stamp "shop" "web-net-0" 1, by rfl, by rfl, rfl⟩
  refine ⟨by rfl, .context hleads (by rfl), rfl, ?_⟩
  have hlisted : Deployment.watches.listed? ⟨⟨.workloadDeployment, none⟩, true⟩ [.deployment d] =
      some [d] := by
    rfl
  rw [Watches.run, Watches.start, Watches.list_eq_of_listed? rfl hlisted]
  decide +kernel

end Deployment

end ControlPlane
