import ControlPlane.Proofs.Rollout.Renewal
import ControlPlane.Proofs.Server.Calls
import ControlPlane.Reconcile.Deployment

/-!
# An updated instance is like a new one

A slot gets its instance by a creation, and the instance in it is brought up to the template by an
update. The update leaves what a creation for the slot would have made, but for what belongs to the
instance itself: its name and the rest of its metadata, its status, its location and its gates
(`update_like_create`). What the template says of labels that mark instances, of a location or of a
control block does not get through in either.

* `calls_execute`: what an action calls when its turn comes.
* `renewedInstance_eq`: the renewed instance is the old one brought up to the new one.
* `marks_of_labels`: the marks of a deployment stand over whatever labels its template has.
* `plans_create_iff`, `plans_update_iff`: the creations are those for vacant slots, and the updates those
  for slots that are held by ready instances of another template.
-/

namespace ControlPlane

/-- The instance, with all that follows the template taken from another one. -/
def Instance.broughtUpTo (x fresh : Instance) : Instance :=
  { x with
    metadata := { x.metadata with
      labels := fresh.metadata.labels
      annotations := fresh.metadata.annotations }
    spec := { fresh.spec with
      location := x.spec.location
      control := fresh.spec.control.map fun c => { c with gates := x.gates } } }

/-- The call that an action makes when its turn comes. -/
def Action.call? (a : Action) : Option Call :=
  match a.type with
  | .create => some (.createInstance a.target)
  | .update => some (.replaceInstance a.target)
  | .delete => some (.deleteInstance a.target)
  | .wait => none

theorem Action.calls_execute {σ : Type} {answer : Answer σ} {s : σ} (a : Action) :
    a.execute.calls answer s = if a.skipped then [] else a.call?.toList := by
  rw [execute, call?]
  split
  · rfl
  · cases a.type with
    | create => exact Pass.calls_perform _
    | update => exact Pass.calls_perform _
    | delete => exact Pass.calls_perform _
    | wait => rfl

namespace Deployment

/-- The plan for these instances has a step for the slot, and the step makes this call. -/
def Plans (d : Deployment) (l : List Instance) (k : Nat) (c : Call) : Prop :=
  ∃ actions, d.plan l = .ok actions ∧ ∃ a ∈ actions, a.ordinal = k ∧ a.call? = some c

/-- What marks an instance as the deployment's, for a slot and made from the current template. -/
structure Marks (d : Deployment) (k : Nat) (i : Instance) : Prop where
  workload : i.label? Workload.uidLabel = some d.spec.workload.uid
  deployment : i.label? uidLabel = d.metadata.uid
  slot : i.label? slotLabel = some (Nat.repr k)
  template : i.spec.control = some ⟨d.templateHash, i.gates⟩

variable {d : Deployment} {owner : OwnerReference} {l l' : List Instance} {k : Nat} {x : Instance}
  {uid : String}

/-! ## The two instances -/

/-- The marks stand over whatever labels the template has. -/
theorem marks_of_labels {i : Instance} (huid : d.metadata.uid = some uid)
    (hlabels : i.metadata.labels = some (d.instanceLabels k))
    (hcontrol : i.spec.control = some ⟨d.templateHash, i.gates⟩) : d.Marks k i := by
  have hworkload : uidLabel ≠ Workload.uidLabel := by decide
  have hslot : uidLabel ≠ slotLabel := by decide
  have hslot' : Workload.uidLabel ≠ slotLabel := by decide
  have hlabel (name : String) : i.label? name = (d.instanceLabels k).value? name := by
    rw [Resource.label?, hlabels, Option.bind_some]
  refine ⟨?_, ?_, ?_, hcontrol⟩
  · rw [hlabel, instanceLabels, Dict.value?_set, if_neg hworkload, Dict.value?_set, if_pos rfl]
  · rw [hlabel, instanceLabels, Dict.value?_set, if_pos rfl, huid, Option.getD_some]
  · rw [hlabel, instanceLabels, Dict.value?_set, if_neg hslot, Dict.value?_set, if_neg hslot',
      Dict.value?_set, if_pos rfl]

/-- The renewed instance and the new one are separate constructions; they agree in all that the template
decides. -/
theorem renewedInstance_eq (owner : OwnerReference) :
    d.renewedInstance k x = x.broughtUpTo (d.newInstance k owner) :=
  rfl

/-! ## The steps that write them -/

/-- A plan makes the calls of its steps, in whatever order they stand and whichever are left for
later. -/
theorem plans_iff (ho : d.requireOwner = .ok owner) {c : Call} :
    d.Plans l k c ↔ ∃ a, Step d owner l a ∧ a ∈ d.inOrder owner l ∧ a.ordinal = k ∧
      a.call? = some c := by
  have hmem (p : Action → Prop) (hp : ∀ a : Action, p a.skip ↔ p a) (actions : List Action) :
      (∃ a ∈ skipAllButFirst actions, p a) ↔ ∃ a ∈ actions, p a := by
    cases actions with
    | nil => rfl
    | cons first rest => simp [skipAllButFirst, hp]
  have hskip : ∀ a : Action, a.skip.ordinal = k ∧ a.skip.call? = some c ↔
      a.ordinal = k ∧ a.call? = some c := fun _ => Iff.rfl
  rw [Plans, plan_eq ho]
  constructor
  · rintro ⟨_, ⟨⟩, hfound⟩
    obtain ⟨a, ha, hslot, hcall⟩ := (hmem _ hskip _).1 hfound
    exact ⟨a, step_of_mem_inOrder ha, ha, hslot, hcall⟩
  · rintro ⟨a, -, ha, hslot, hcall⟩
    exact ⟨_, rfl, (hmem _ hskip _).2 ⟨a, ha, hslot, hcall⟩⟩

theorem mem_inOrder_of_pending {a : Action} (ha : a ∈ d.pending owner l) : a ∈ d.inOrder owner l :=
  (inOrder_perm l).symm.subset (List.mem_append_left _ ha)

/-- An instance is created for each vacant slot, and for no other. -/
theorem plans_create_iff (ho : d.requireOwner = .ok owner) {i : Instance} :
    d.Plans l k (.createInstance i) ↔
      k < d.slotCount ∧ (d.slots l).holder k = none ∧ i = d.newInstance k owner := by
  rw [plans_iff ho]
  constructor
  · rintro ⟨a, hstep, -, hslot, hcall⟩
    cases hstep with
    | @create j hj hv =>
      cases hcall
      obtain rfl : j = k := Int.natCast_inj.1 ((ordinal_create owner hj).symm.trans hslot)
      exact ⟨hj, hv, rfl⟩
    | wait _ _ => cases hcall
    | update _ _ _ _ => cases hcall
    | delete _ => cases hcall
  · rintro ⟨hk, hv, rfl⟩
    have hpending : ⟨.create, d.newInstance k owner, false⟩ ∈ d.pending owner l := by
      refine List.mem_filterMap.2 ⟨k, List.mem_range.2 hk, ?_⟩
      rw [hv]
      rfl
    exact ⟨_, .create hk hv, mem_inOrder_of_pending hpending, ordinal_create owner hk, rfl⟩

/-- A ready instance that was not made from the current template is updated in its slot, and no other
instance is updated. -/
theorem plans_update_iff (ho : d.requireOwner = .ok owner) {i : Instance} :
    d.Plans l k (.replaceInstance i) ↔ ∃ x, (d.slots l).holder k = some x ∧
      x.isDeleting = false ∧ x.isReady = true ∧ d.isOutdated x = true ∧
        i = d.renewedInstance k x := by
  rw [plans_iff ho]
  constructor
  · rintro ⟨a, hstep, -, hslot, hcall⟩
    cases hstep with
    | @update j x hh hdel hready hout =>
      cases hcall
      obtain rfl : j = k := Int.natCast_inj.1 ((ordinal_update hh).symm.trans hslot)
      exact ⟨x, hh, hdel, hready, hout, rfl⟩
    | create _ _ => cases hcall
    | wait _ _ => cases hcall
    | delete _ => cases hcall
  · rintro ⟨x, hh, hdel, hready, hout, rfl⟩
    have hpending : ⟨.update, d.renewedInstance k x, false⟩ ∈ d.pending owner l :=
      List.mem_of_mem_filter (mem_updates_iff.2 ⟨k, x, hh, hdel, hready, hout, rfl⟩)
    exact ⟨_, .update hh hdel hready hout, mem_inOrder_of_pending hpending, ordinal_update hh, rfl⟩

/-- An update is like a creation. A deployment that has a name and a uid creates an instance for a slot
that is vacant, and updates one that holds it, when it is ready and was not made from the current
template. What the update writes is the instance brought up to the one that would be created, and both
bear the marks of the deployment and the slot. -/
theorem update_like_create {name : String} (hname : d.metadata.name = some name)
    (huid : d.metadata.uid = some uid) (hx : (d.slots l).holder k = some x)
    (hv : (d.slots l').holder k = none) :
    (∃ fresh, d.Plans l' k (.createInstance fresh)) ∧
    (x.isDeleting = false → x.isReady = true → d.isOutdated x = true →
      ∃ renewed, d.Plans l k (.replaceInstance renewed)) ∧
    ∀ fresh renewed, d.Plans l' k (.createInstance fresh) → d.Plans l k (.replaceInstance renewed) →
      renewed = x.broughtUpTo fresh ∧ renewed.gates = x.gates ∧
        d.Marks k fresh ∧ d.Marks k renewed := by
  obtain ⟨owner, ho⟩ := exists_owner hname huid
  have hk : k < d.slotCount := (d.holder_mem hx).1
  refine ⟨⟨_, (plans_create_iff ho).2 ⟨hk, hv, rfl⟩⟩, fun hdel hready hout => ?_,
    fun fresh renewed hcreate hupdate => ?_⟩
  · exact ⟨_, (plans_update_iff ho).2 ⟨x, hx, hdel, hready, hout, rfl⟩⟩
  · obtain ⟨-, -, rfl⟩ := (plans_create_iff ho).1 hcreate
    obtain ⟨held, hheld, -, -, -, rfl⟩ := (plans_update_iff ho).1 hupdate
    obtain rfl : held = x := Option.some.inj (hheld.symm.trans hx)
    exact ⟨renewedInstance_eq owner, rfl, marks_of_labels huid rfl rfl,
      marks_of_labels huid rfl rfl⟩

/-- A template that labels its instances as another deployment's and places them elsewhere. -/
def straying : Deployment where
  metadata := { name := some "web", ns := some "shop", uid := some "d1" }
  spec := {
    workload := ⟨"web", "w1"⟩
    placement := "us"
    cityCode := "DFW"
    scale := { minReplicas := 1 }
    template := {
      metadata := { labels := Dict.set (Dict.set .empty uidLabel "d7") "app" "web" }
      spec := {
        location := some ⟨"lhr", "infra"⟩
        control := some { templateHash := "none", gates := [⟨"quota"⟩] } } } }

/-- A ready instance in its only slot, which was not made from a template. -/
def adoptedWeb : Instance where
  metadata := { name := some "web-0", ns := some "shop", uid := some "i1", finalizers := some ["keep"] }
  spec := { location := some ⟨"dfw", "infra"⟩ }
  status := some
    { conditions := .ofList Condition.type
        [⟨Condition.ready, Condition.holds, "Running", "Instance is ready", ⟨0, 0⟩, none⟩] }

/-- The instance is updated to what would be created in its place, and stays where it is and ungated. -/
theorem update_like_create_straying :
    ∃ fresh renewed, straying.Plans [] 0 (.createInstance fresh) ∧
      straying.Plans [adoptedWeb] 0 (.replaceInstance renewed) ∧
      renewed.metadata.labels = fresh.metadata.labels ∧
      renewed.label? uidLabel = some "d1" ∧ renewed.label? "app" = some "web" ∧
      renewed.metadata.finalizers = some ["keep"] ∧
      renewed.spec.location = some ⟨"dfw", "infra"⟩ ∧ fresh.spec.location = none ∧
      renewed.spec.control = some ⟨straying.templateHash, []⟩ := by
  have hheld : (straying.slots [adoptedWeb]).holder 0 = some adoptedWeb := by rfl
  have hvacant : (straying.slots []).holder 0 = none := rfl
  obtain ⟨⟨fresh, hcreate⟩, hupdate, hlike⟩ :=
    update_like_create (d := straying) rfl rfl hheld hvacant
  obtain ⟨renewed, hrenewed⟩ := hupdate (by decide) (by decide +kernel) rfl
  obtain ⟨rfl, hgates, hfresh, hmarks⟩ := hlike fresh renewed hcreate hrenewed
  obtain ⟨owner, ho⟩ := exists_owner (d := straying) rfl rfl
  obtain ⟨-, -, rfl⟩ := (plans_create_iff ho).1 hcreate
  refine ⟨_, _, hcreate, hrenewed, rfl, hmarks.deployment, ?_, rfl, rfl, rfl, ?_⟩
  · show ((straying.instanceLabels 0).value? "app") = some "web"
    decide +kernel
  · rw [hmarks.template, hgates]
    rfl

end Deployment

end ControlPlane
