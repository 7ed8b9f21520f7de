import ControlPlane.Proofs.Rest.Readiness
import ControlPlane.Proofs.Rollout.Likeness
import ControlPlane.Proofs.Staging.Links
import ControlPlane.Proofs.Watch.Failures

/-!
# The bindings that an instance looks at

A pass on a deployment looks up a binding for each interface, by a name that it makes of its own. A pass on
an instance that it has created comes to the same bindings another way: by the owner reference to the
deployment, and then by the deployment that is stored under that name. It looks at them in the same order
and stops at the first whose network could not be made.

* `Pass.Answered`: no call of a pass fails.
* `lookups_stageNetworks`, `exists_search`: what either pass looks up.
* `gated_instance_looks_up`: what a pass on an instance that is held back comes to.
-/

namespace ControlPlane

open Pass (perform)

/-! ## Answered calls -/

/-- Whether a call looks up a binding. -/
def Call.looksUp : Call → Bool
  | .getNetworkBinding .. => true
  | _ => false

namespace Pass

variable {α β σ : Type} {answer : Answer σ} {s : σ} {p : Pass α} {f : α → Pass β}

/-- Every call that the pass makes over the store is answered. -/
def Answered (answer : Answer σ) : Pass α → σ → Prop
  | .done _, _ => True
  | .abort _, _ => True
  | .call c next, s => ∃ r t, answer c s = (.ok r, t) ∧ (next r).Answered answer t

/-- A pass that ends well is answered. -/
theorem answered_of_isOk (h : (p.run answer s).1.isOk = true) : p.Answered answer s := by
  induction p generalizing s with
  | done a => trivial
  | abort e => trivial
  | call c next ih =>
    rw [run_call] at h
    split at h
    · next r t hanswer => exact ⟨r, t, hanswer, ih r h⟩
    · cases h

theorem answered_bind : (p.bind f).Answered answer s ↔
    p.Answered answer s ∧ ∀ a t, p.run answer s = (.ok a, t) → (f a).Answered answer t := by
  induction p generalizing s with
  | done a =>
    refine ⟨fun h => ⟨trivial, fun _ _ hrun => ?_⟩, fun h => h.2 a s rfl⟩
    cases hrun
    exact h
  | abort e => exact ⟨fun _ => ⟨trivial, nofun⟩, fun _ => trivial⟩
  | call c next ih =>
    constructor
    · rintro ⟨r, t, hanswer, h⟩
      rw [run_call, hanswer]
      exact ⟨⟨r, t, hanswer, (ih r).1 h |>.1⟩, ((ih r).1 h).2⟩
    · rintro ⟨⟨r, t, hanswer, h⟩, hf⟩
      rw [run_call, hanswer] at hf
      exact ⟨r, t, hanswer, (ih r).2 ⟨h, hf⟩⟩

/-- The bindings that a pass looks up, in order. -/
def lookups (answer : Answer σ) (p : Pass α) (s : σ) : List Call :=
  (p.calls answer s).filter Call.looksUp

theorem lookups_bind {a : α} {t : σ} (h : p.run answer s = (.ok a, t)) :
    (p.bind f).lookups answer s = p.lookups answer s ++ (f a).lookups answer t := by
  rw [lookups, calls_bind, h, List.filter_append]
  rfl

theorem Only.lookups_eq_nil {q : Call → Bool} (h : p.Only q)
    (hq : ∀ c, q c = true → c.looksUp = false) : p.lookups answer s = [] :=
  List.filter_eq_nil_iff.2 fun c hc => by simp [hq c (h.forall_calls c hc)]

/-- What an answered pass does after its first call. -/
theorem Answered.after_call {c : Call} {f : c.Reply → Pass β}
    (h : ((perform c).bind f).Answered answer s) :
    ∃ r t, answer c s = (.ok r, t) ∧ (f r).Answered answer t ∧
      ((perform c).bind f).run answer s = (f r).run answer t ∧
      ((perform c).bind f).lookups answer s =
        (if c.looksUp then [c] else []) ++ (f r).lookups answer t := by
  obtain ⟨r, t, hanswer, hrest⟩ := h
  have hrun : (perform c).run answer s = (.ok r, t) := by rw [run_perform, hanswer]
  refine ⟨r, t, hanswer, hrest, run_bind_of_ok hrun f, ?_⟩
  rw [lookups_bind hrun, lookups, calls_perform, List.filter_singleton, Bool.cond_eq_ite]

end Pass

namespace NetworkBinding

/-- The binding says that its network could not be made, and why. -/
def FailedWith (b : NetworkBinding) (message : String) : Prop :=
  ∃ status c, b.status = some status ∧ status.conditions.get? Condition.ready = some c ∧
    c.status = Condition.fails ∧ c.reason = failedToCreate ∧ c.message = message

theorem failure?_eq_some_iff {b : NetworkBinding} {message : String} :
    failure? b = some message ↔ b.FailedWith message := by
  rw [failure?]
  constructor
  · intro h
    split at h
    · next c hc =>
      obtain ⟨status, hstatus, hc⟩ := Option.bind_eq_some_iff.1 hc
      split at h
      · next hfailed => exact ⟨status, c, hstatus, hc, hfailed.1, hfailed.2, Option.some.inj h⟩
      · cases h
    · cases h
  · rintro ⟨status, c, hstatus, hc, hfails, hreason, rfl⟩
    have hfound : (b.status.bind fun status => status.conditions.get? Condition.ready) = some c := by
      rw [hstatus, Option.bind_some, hc]
    rw [hfound]
    exact if_pos ⟨hfails, hreason⟩

end NetworkBinding

/-! ## Looking for a failed binding -/

/-- The binding that a store has under a name. -/
def Answer.binding? {σ : Type} (answer : Answer σ) (s : σ) (ns name : String) :
    Option NetworkBinding :=
  match (answer (.getNetworkBinding ns name) s).1 with
  | .ok found => found
  | .error _ => none

/-- Of `n` bindings, some of which may be missing, so many were looked at, up to the first that has
failed. -/
inductive Search (found : Nat → Option NetworkBinding) (n : Nat) : Nat → Option String → Prop
  | failed {k : Nat} {b : NetworkBinding} {message : String} (lt : k < n) (is : found k = some b)
    (fails : b.FailedWith message) (first : ∀ j < k, ∀ b ∈ found j, ∀ m, ¬ b.FailedWith m) :
    Search found n (k + 1) (some message)
  | none (sound : ∀ j < n, ∀ b ∈ found j, ∀ m, ¬ b.FailedWith m) : Search found n n none

namespace Search

variable {found found' : Nat → Option NetworkBinding} {n count : Nat} {failure : Option String}

theorem count_le (h : Search found n count failure) : count ≤ n := by
  cases h with
  | failed lt => exact lt
  | none => exact Nat.le_refl n

/-- A binding before the others that is missing or has not failed is passed over. -/
theorem cons (h : Search found n count failure) (hfirst : ∀ b ∈ found' 0, ∀ m, ¬ b.FailedWith m)
    (hrest : ∀ k, found' (k + 1) = found k) : Search found' (n + 1) (count + 1) failure := by
  have hbefore {k : Nat} (h : ∀ j < k, ∀ b ∈ found j, ∀ m, ¬ b.FailedWith m) :
      ∀ j < k + 1, ∀ b ∈ found' j, ∀ m, ¬ b.FailedWith m := by
    intro j hj
    cases j with
    | zero => exact hfirst
    | succ j =>
      rw [hrest]
      exact h j (Nat.lt_of_succ_lt_succ hj)
  cases h with
  | failed lt is fails first =>
    exact .failed (Nat.succ_lt_succ lt) ((hrest _).trans is) fails (hbefore first)
  | none sound => exact .none (hbefore sound)

end Search

namespace Instance

variable {σ : Type} {answer : Answer σ} {s : σ} {ns : String}

theorem exists_search (hanswer : answer.Faithful) {name : Nat → String} {index n : Nat}
    (h : (firstFailure ns ((List.range' index n).map name)).Answered answer s) :
    ∃ count failure,
      Search (fun k => answer.binding? s ns (name (index + k))) n count failure ∧
      (firstFailure ns ((List.range' index n).map name)).run answer s = (.ok failure, s) ∧
      (firstFailure ns ((List.range' index n).map name)).lookups answer s =
        (List.range' index count).map fun k => .getNetworkBinding ns (name k) := by
  induction n generalizing index with
  | zero => exact ⟨0, none, .none nofun, rfl, rfl⟩
  | succ n ih =>
    rw [List.range'_succ, List.map_cons, firstFailure_cons] at h ⊢
    obtain ⟨found, t, hreply, hrest, hrun, hlookups⟩ := h.after_call
    -- the rest of the search goes over the same store
    obtain rfl : t = s := by
      have hsame := hanswer.reads (.getNetworkBinding ns (name index)) s rfl
      rwa [hreply] at hsame
    have hfound : answer.binding? t ns (name index) = found := by rw [Answer.binding?, hreply]
    rw [hrun, hlookups]
    cases hfailure : found.bind NetworkBinding.failure? with
    | some message =>
      obtain ⟨b, hb, hmessage⟩ := Option.bind_eq_some_iff.1 hfailure
      refine ⟨1, some message, .failed n.succ_pos (hfound.trans hb)
        (NetworkBinding.failure?_eq_some_iff.1 hmessage) nofun, rfl, rfl⟩
    | none =>
      rw [hfailure] at hrest
      obtain ⟨count, failure, hsearch, hrun, hlookups⟩ := ih hrest
      have hfirst : ∀ b ∈ answer.binding? t ns (name (index + 0)), ∀ m, ¬ b.FailedWith m := by
        intro b hb m hm
        rw [Nat.add_zero, hfound] at hb
        rw [hb, Option.bind_some, NetworkBinding.failure?_eq_some_iff.2 hm] at hfailure
        cases hfailure
      refine ⟨count + 1, failure, hsearch.cons hfirst fun k => ?_, hrun, ?_⟩
      · rw [Nat.add_right_comm, Nat.add_assoc]
      · rw [List.range'_succ, List.map_cons, ← hlookups]
        rfl

end Instance

/-! ## Staging -/

namespace Deployment

variable {σ : Type} {answer : Answer σ} {s : σ} {d : Deployment} {ns : String}
  {location : LocationReference} {owner : OwnerReference}

/-- The lookups of the bindings of a deployment's interfaces, in their order. -/
def lookups (d : Deployment) (ns : String) : List Call :=
  (List.range d.interfaces.length).map fun index =>
    .getNetworkBinding ns (NetworkBinding.nameFor d.name index)

theorem lookups_stageBinding (howner : d.controllerReference? = some owner) {index : Nat}
    {i : NetworkInterface} (h : (d.stageBinding ns location index i).Answered answer s) :
    (∃ b t, (d.stageBinding ns location index i).run answer s = (.ok b, t)) ∧
      (d.stageBinding ns location index i).lookups answer s =
        [.getNetworkBinding ns (NetworkBinding.nameFor d.name index)] := by
  rw [stageBinding, Pass.bind_eq] at h ⊢
  obtain ⟨found, t, -, hrest, hrun, hlookups⟩ := h.after_call
  rw [hrun, hlookups]
  cases found with
  | some b => exact ⟨⟨b, t, rfl⟩, rfl⟩
  | none =>
    rw [howner] at hrest ⊢
    obtain ⟨b, u, hcreate, -⟩ := hrest
    refine ⟨⟨b, u, (Pass.run_perform ..).trans hcreate⟩, ?_⟩
    rw [Pass.lookups, Pass.calls_perform]
    rfl

theorem lookups_stageBindings (howner : d.controllerReference? = some owner) {index : Nat}
    {l : List NetworkInterface} (h : (d.stageBindings ns location index l).Answered answer s) :
    (∃ bs t, (d.stageBindings ns location index l).run answer s = (.ok bs, t)) ∧
      (d.stageBindings ns location index l).lookups answer s =
        (List.range' index l.length).map fun index =>
          .getNetworkBinding ns (NetworkBinding.nameFor d.name index) := by
  -- the store may have become another one at each interface, by a binding that was made
  induction l generalizing index s with
  | nil => exact ⟨⟨[], s, rfl⟩, rfl⟩
  | cons i rest ih =>
    simp only [stageBindings, Pass.bind_eq, Pass.pure_eq] at h ⊢
    obtain ⟨hfirst, hrest⟩ := Pass.answered_bind.1 h
    obtain ⟨⟨b, t, hrun⟩, hlookup⟩ := lookups_stageBinding howner hfirst
    obtain ⟨hrest, -⟩ := Pass.answered_bind.1 (hrest b t hrun)
    obtain ⟨⟨bs, u, hruns⟩, hlookups⟩ := ih hrest
    refine ⟨⟨b :: bs, u, ?_⟩, ?_⟩
    · rw [Pass.run_bind_of_ok hrun, Pass.run_bind_of_ok hruns, Pass.run_done]
    · rw [Pass.lookups_bind hrun, Pass.lookups_bind hruns, hlookup, hlookups]
      exact congrArg _ (List.append_nil _)

/-- A pass on a deployment looks up the binding of every interface. -/
theorem lookups_stageNetworks (hns : d.metadata.ns = some ns)
    (howner : d.controllerReference? = some owner) (hl : d.location ≠ none)
    (h : d.stageNetworks.Answered answer s) :
    d.stageNetworks.lookups answer s = d.lookups ns := by
  obtain ⟨location, hlocation⟩ := Option.ne_none_iff_exists'.1 hl
  simp only [stageNetworks, hlocation, hns, Pass.bind_eq] at h ⊢
  obtain ⟨hbindings, -⟩ := Pass.answered_bind.1 h
  obtain ⟨⟨bs, t, hrun⟩, hlookups⟩ := lookups_stageBindings howner hbindings
  rw [Pass.lookups_bind hrun, hlookups, lookups, List.range_eq_range']
  split
  · rw [(only_stageSubnets location _).lookups_eq_nil fun c hc => by cases c <;> first | rfl | cases hc]
    exact List.append_nil _
  · exact List.append_nil _

end Deployment

/-! ## Instances that are held back -/

/-- The deployment goes by this namespace, name and uid. -/
structure Deployment.GoesBy (d : Deployment) (ns name uid : String) : Prop where
  ns : d.metadata.ns = some ns
  name : d.metadata.name = some name
  uid : d.metadata.uid = some uid

theorem Deployment.GoesBy.exists_owner {d : Deployment} {ns name uid : String}
    (h : d.GoesBy ns name uid) : ∃ owner, d.controllerReference? = some owner ∧
      owner.name = name ∧ owner.controller = some true ∧
      owner.kind = Kind.workloadDeployment.name := by
  have howner : d.controllerReference? = some
      { apiVersion := Kind.workloadDeployment.apiVersion
        kind := Kind.workloadDeployment.name
        name, uid, controller := some true } := by
    rw [Resource.controllerReference?, Resource.ownerReference?, h.name, h.uid]
    rfl
  exact ⟨_, howner, rfl, rfl, rfl⟩

namespace Instance

variable {σ : Type} {answer : Answer σ} {s : σ} {i : Instance} {d : Deployment} {now : Instant}
  {ns name uid : String}

/-- A plan of the deployment, as it was then, has created the instance, which is still in its namespace
and has still its owner. -/
def CreatedFor (i : Instance) (ns name uid : String) : Prop :=
  ∃ (d : Deployment) (l : List Instance) (slot : Nat) (created : Instance),
    d.GoesBy ns name uid ∧ d.Plans l slot (.createInstance created) ∧
      i.metadata.ns = created.metadata.ns ∧
      i.metadata.ownerReferences = created.metadata.ownerReferences

/-- The instance names the deployment that it was created for. -/
theorem CreatedFor.exists_owner (h : i.CreatedFor ns name uid) :
    i.namespaceName = ns ∧ ∃ owner, i.controllingDeployment? = some owner ∧ owner.name = name := by
  obtain ⟨d, l, slot, created, hd, hplans, hns, howners⟩ := h
  obtain ⟨owner, howner, hname, hcontroller, hkind⟩ := hd.exists_owner
  have hrequire : d.requireOwner = .ok owner := by rw [Deployment.requireOwner, howner]
  obtain ⟨-, -, rfl⟩ := (Deployment.plans_create_iff hrequire).1 hplans
  refine ⟨?_, owner, ?_, hname⟩
  · rw [Resource.namespaceName, hns]
    exact congrArg (Option.getD · "") hd.ns
  · rw [controllingDeployment?, howners]
    show List.find? _ [owner] = some owner
    rw [List.find?_cons_of_pos]
    rw [hcontroller, hkind]
    rfl

/-- The search of a pass on the instance for a failed binding. -/
theorem exists_gatedFailure (hanswer : answer.Faithful) (hi : i.CreatedFor ns name uid)
    (hgates : i.gates ≠ []) (hstored : (answer (.getDeployment ns name) s).1 = .ok (some d))
    (h : i.gatedFailure.Answered answer s) :
    ∃ count failure,
      Search (fun index => answer.binding? s ns (NetworkBinding.nameFor d.name index))
        d.interfaces.length count failure ∧
      i.gatedFailure.run answer s = (.ok failure, s) ∧
      i.gatedFailure.lookups answer s = (d.lookups ns).take count := by
  obtain ⟨rfl, owner, howner, rfl⟩ := hi.exists_owner
  rw [gatedFailure, if_neg (by simpa using hgates)] at h ⊢
  simp only [networkFailure, howner, Pass.bind_eq, List.range_eq_range'] at h ⊢
  obtain ⟨found, t, hreply, hrest, hrun, hlookups⟩ := h.after_call
  obtain rfl : t = s := by
    have hsame := hanswer.reads (.getDeployment i.namespaceName owner.name) s rfl
    rwa [hreply] at hsame
  obtain rfl : found = some d := by
    rw [hreply] at hstored
    exact Except.ok.inj hstored
  obtain ⟨count, failure, hsearch, hsearched, hbindings⟩ := exists_search hanswer hrest
  simp only [Nat.zero_add] at hsearch
  refine ⟨count, failure, hsearch, hrun.trans hsearched, hlookups.trans ?_⟩
  rw [hbindings, Deployment.lookups, ← List.map_take, List.take_range,
    Nat.min_eq_left hsearch.count_le, List.range_eq_range']
  rfl

/-- No owner reference names a deployment that controls the instance. -/
def Uncontrolled (i : Instance) : Prop :=
  ∀ o ∈ i.metadata.ownerReferences.getD [], o.controller = some true →
    o.kind ≠ Kind.workloadDeployment.name

/-- A pass on an instance that is held back and names no deployment fails at once. -/
theorem reconcile_of_uncontrolled (hdel : i.isDeleting = false) (hgates : i.gates ≠ [])
    (h : i.Uncontrolled) : i.reconcile now =
      .abort (.invalidState ("instance " ++ i.name ++ " has no controlling WorkloadDeployment")) := by
  have hnone : i.controllingDeployment? = none := by
    refine List.find?_eq_none.2 fun o ho => ?_
    simpa using h o ho
  rw [reconcile_eq now hdel, gatedFailure, if_neg (by simpa using hgates), networkFailure, hnone]
  rfl

/-- What the `Ready` condition of an instance that is held back says: that the network of a binding could
not be made, or which gates are held. -/
structure TellsWhyHeld (i : Instance) (failure : Option String) (c : Condition) : Prop where
  status : c.status = Condition.fails
  failed : ∀ message ∈ failure, c.reason = NetworkBinding.failedToCreate ∧ c.message = message
  waits : failure = none → c.reason = "SchedulingGatesPresent" ∧
    c.message = "Scheduling gates present: " ++ ", ".intercalate (i.gates.map (·.name))

theorem tellsWhyHeld_of_leaves {failure : Option String} {c : Condition} (hdel : i.isDeleting = false)
    (hgates : i.gates ≠ []) (hrun : i.gatedFailure.run answer s = (.ok failure, s))
    (h : i.Leaves answer s now c) : i.TellsWhyHeld failure c := by
  obtain ⟨failure', t, hrun', hagree⟩ := agree_of_leaves hdel h
  cases hrun.symm.trans hrun'
  have hexplains := i.explains_readyCondition now failure
  rw [Condition.AgreeButTime] at hagree
  rw [hagree]
  refine ⟨hexplains.status.trans (if_neg fun h => hgates h.1), hexplains.gated hgates,
    hexplains.held hgates⟩

/-- A pass on the instance that is answered ends well. -/
theorem reconcile_of_answered {failure : Option String} (hdel : i.isDeleting = false)
    (hrun : i.gatedFailure.run answer s = (.ok failure, s))
    (h : (i.reconcile now).Answered answer s) :
    (∃ t, (i.reconcile now).run answer s = (.ok awaitChange, t)) ∧
      (i.reconcile now).lookups answer s = i.gatedFailure.lookups answer s := by
  rw [reconcile_eq now hdel] at h ⊢
  have hreport := (Pass.answered_bind.1 h).2 failure s hrun
  rw [Pass.run_bind_of_ok hrun, Pass.lookups_bind hrun]
  dsimp only at hreport ⊢
  split
  · next hnews =>
    rw [if_pos hnews] at hreport
    obtain ⟨r, t, -, -, hrun, hlookups⟩ := hreport.after_call
    rw [hrun, hlookups]
    exact ⟨⟨t, rfl⟩, List.append_nil _⟩
  · exact ⟨⟨s, rfl⟩, List.append_nil _⟩

/-- A pass on an instance that a deployment has created looks, while a gate is held, at the bindings that a
pass on the deployment looks up, in the same order and up to the first whose network could not be made. It
ends well and leaves the message of that binding as the `Ready` condition, or the gates if there is none.
A pass on an instance that is held back and has no deployment that controls it fails without a call. -/
theorem gated_instance_looks_up (now : Instant) :
    (∀ (d : Deployment) (i : Instance) (ns name uid : String), d.GoesBy ns name uid →
      d.location ≠ none → i.CreatedFor ns name uid → i.isDeleting = false → i.gates ≠ [] →
      (∀ (σ : Type) (answer : Answer σ) (s : σ), d.stageNetworks.Answered answer s →
        d.stageNetworks.lookups answer s = d.lookups ns) ∧
      ∀ (σ : Type) (answer : Answer σ) (s : σ), answer.Faithful →
        (answer (.getDeployment ns name) s).1 = .ok (some d) →
        (i.reconcile now).Answered answer s →
        ∃ count failure,
          Search (fun index => answer.binding? s ns (NetworkBinding.nameFor name index))
            d.interfaces.length count failure ∧
          (i.reconcile now).lookups answer s = (d.lookups ns).take count ∧
          (∃ t, (i.reconcile now).run answer s = (.ok awaitChange, t)) ∧
          (∃ c, i.Leaves answer s now c) ∧
          ∀ c, i.Leaves answer s now c → i.TellsWhyHeld failure c) ∧
    ∀ i : Instance, i.isDeleting = false → i.gates ≠ [] → i.Uncontrolled →
      ∀ (σ : Type) (answer : Answer σ) (s : σ), (i.reconcile now).calls answer s = [] ∧
        (i.reconcile now).run answer s = (.error (.invalidState
          ("instance " ++ i.name ++ " has no controlling WorkloadDeployment")), s) := by
  refine ⟨fun d i ns name uid hd hl hi hdel hgates => ⟨fun σ answer s => ?_,
    fun σ answer s hanswer hstored hanswered => ?_⟩, fun i hdel hgates hi σ answer s => ?_⟩
  · obtain ⟨owner, howner, -⟩ := hd.exists_owner
    exact Deployment.lookups_stageNetworks hd.ns howner hl
  · have hname : d.name = name := by
      rw [Resource.name, hd.name]
      rfl
    have hgated : i.gatedFailure.Answered answer s := by
      rw [reconcile_eq now hdel] at hanswered
      exact (Pass.answered_bind.1 hanswered).1
    obtain ⟨count, failure, hsearch, hrun, hlookups⟩ :=
      exists_gatedFailure hanswer hi hgates hstored hgated
    obtain ⟨⟨t, hends⟩, hsame⟩ := reconcile_of_answered hdel hrun hanswered
    have hleaves : ∃ c, i.Leaves answer s now c := exists_leaves hdel (by rw [hends]; rfl)
    rw [hname] at hsearch
    exact ⟨count, failure, hsearch, hsame.trans hlookups, ⟨t, hends⟩, hleaves,
      fun c => tellsWhyHeld_of_leaves hdel hgates hrun⟩
  · rw [reconcile_of_uncontrolled hdel hgates hi]
    exact ⟨rfl, rfl⟩

/-- A deployment with three interfaces. -/
def threeHomed : Deployment :=
  let d := Deployment.withInterface ⟨"dfw", "infra"⟩
  { d with
    metadata := { d.metadata with uid := some "d1" }
    spec := { d.spec with
      template := { d.spec.template with
        spec := { networkInterfaces := List.replicate 3 ⟨⟨"lan", none⟩, none⟩ } } } }

/-- The reference to its owner that an instance of the deployment has. -/
def threeHomedOwner : OwnerReference where
  apiVersion := "compute.datumapis.com/v1alpha"
  kind := "WorkloadDeployment"
  name := "web"
  uid := "d1"
  controller := some true

/-- The server that holds the deployment and its first instance. Its first interface has no binding yet,
and the networks of the others could not be made. -/
def threeHomedServer : Server :=
  { Server.empty with
    deployments := Table.empty.add "shop" "web" threeHomed (Table.find?_empty ..)
    instances := Table.empty.add "shop" "web-0" (threeHomed.newInstance 0 threeHomedOwner)
      (Table.find?_empty ..)
    bindings := (Table.empty.add "shop" "web-net-2" failedBinding (Table.find?_empty ..)).add "shop"
      "web-net-1" failedBinding rfl }

/-- A pass on the instance passes over the binding that is missing, and tells the failure of the next. The
last is not looked at. Without its owner the instance gets nowhere. -/
theorem gated_instance_looks_up_threeHomed :
    let d : Deployment := threeHomed.stamp "shop" "web" 1
    let i : Instance := (threeHomed.newInstance 0 threeHomedOwner).stamp "shop" "web-0" 1
    let unowned : Instance := { i with metadata := { i.metadata with ownerReferences := none } }
    let answer := Server.answer ⟨5, 0⟩
    (i.reconcile ⟨5, 0⟩).lookups answer threeHomedServer = (d.lookups "shop").take 2 ∧
      d.stageNetworks.lookups answer threeHomedServer = d.lookups "shop" ∧
      (∃ c, i.Leaves answer threeHomedServer ⟨5, 0⟩ c ∧ c.reason = NetworkBinding.failedToCreate ∧
        c.message = "subnet range exhausted") ∧
      (unowned.reconcile ⟨5, 0⟩).calls answer threeHomedServer = [] := by
  intro d i unowned answer
  have hgoesBy : d.GoesBy "shop" "web" "d1" := ⟨rfl, rfl, rfl⟩
  have hplans : d.Plans [] 0 (.createInstance (d.newInstance 0 threeHomedOwner)) :=
    (Deployment.plans_create_iff rfl).2 ⟨by decide, rfl, rfl⟩
  have hcreated : i.CreatedFor "shop" "web" "d1" := ⟨d, [], 0, _, hgoesBy, hplans, rfl, rfl⟩
  have hanswered : (i.reconcile ⟨5, 0⟩).Answered answer threeHomedServer :=
    Pass.answered_of_isOk (by decide +kernel)
  have hstaged : d.stageNetworks.Answered answer threeHomedServer :=
    Pass.answered_of_isOk (by decide +kernel)
  obtain ⟨hcontrolled, huncontrolled⟩ := gated_instance_looks_up ⟨5, 0⟩
  obtain ⟨hstaging, hpass⟩ := hcontrolled d i "shop" "web" "d1" hgoesBy nofun hcreated rfl nofun
  obtain ⟨count, failure, hsearch, hlookups, -, ⟨c, hc⟩, htold⟩ :=
    hpass _ answer threeHomedServer (Server.faithful _) rfl hanswered
  have hfailed : NetworkBinding.FailedWith (failedBinding.stamp "shop" "web-net-1" 2)
      "subnet range exhausted" :=
    NetworkBinding.failure?_eq_some_iff.1 (by decide +kernel)
  have hheld := htold c hc
  cases hsearch with
  | none sound => exact absurd hfailed (sound 1 (by decide) _ rfl _)
  | @failed k b message lt is fails first =>
    obtain rfl | rfl | hk : k = 0 ∨ k = 1 ∨ 1 < k := by omega
    · cases is
    · cases is
      have hmessage := (NetworkBinding.failure?_eq_some_iff.2 fails).symm.trans
        (NetworkBinding.failure?_eq_some_iff.2 hfailed)
      cases hmessage
      exact ⟨hlookups, hstaging _ answer _ hstaged, ⟨c, hc, hheld.failed _ rfl⟩,
        (huncontrolled unowned rfl nofun nofun _ answer _).1⟩
    · exact absurd hfailed (first 1 hk _ rfl _)

end Instance

end ControlPlane
