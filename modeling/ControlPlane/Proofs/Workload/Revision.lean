import Mathlib.Data.List.Induction
import Mathlib.Data.List.TakeWhile
import Mathlib.Logic.Function.Basic
import ControlPlane.Proofs.Server.Content
import ControlPlane.Proofs.Server.Interruption
import ControlPlane.Reconcile.Workload

/-!
# Bringing deployments up to date, again and again

What a pass makes of the deployments does not depend on how often parts of it were carried out before.
A workload may want several deployments under one name: they differ in their specifications at most,
and the last of them prevails, but what is there is left alone if none of them asks for anything else
(`revisedBy_concat`). So whatever the first few have made of it, all of them together make of it what
they would have made at once (`revisedBy_revisedBy`).

* `revised`, `revisedAll`: what the wanted deployments make of the deployments that are there.
* `swept`: what is left when those that are not wanted are deleted.
* `outcome`: what a pass makes of the deployments; `outcome_of_swept` and `outcome_of_revised` have it
  from every point that the pass leads through.
-/

namespace ControlPlane.Workload

variable {w : Workload} {uid : String} {m : ObjectMeta} {a b e z o : Deployment}
  {l p : List Deployment} {names : List String} {ns : String}

/-! ## One name -/

/-- What bringing `wanted` up to date makes of what is found under its name. -/
def revised (wanted : Deployment) : Option Deployment → Deployment
  | none => wanted
  | some o => if o.isDeleting || o.spec = wanted.spec then o else adopted o wanted

theorem revised_some (wanted o : Deployment) : revised wanted (some o) =
    if o.isDeleting = true ∨ o.spec = wanted.spec then o else adopted o wanted := by
  simp [revised]

/-- The same for several that are wanted under one name, one after another. -/
def revisedBy (l : List Deployment) (o : Option Deployment) : Option Deployment :=
  l.foldl (fun o e => some (revised e o)) o

theorem revisedBy_append (l l' : List Deployment) (o : Option Deployment) :
    revisedBy (l ++ l') o = revisedBy l' (revisedBy l o) :=
  List.foldl_append

/-- One of the deployments that the workload of this uid wants, with these metadata. -/
structure Entry (uid : String) (m : ObjectMeta) (e : Deployment) : Prop where
  metadata : e.metadata = m
  status : e.status = none
  owner : e.spec.workload.uid = uid
  labels : m.labels = some (Dict.set .empty uidLabel uid)
  active : m.deletionTimestamp = none

theorem adopted_adopted (h : a.spec.workload.uid = b.spec.workload.uid) :
    adopted (adopted o a) b = adopted o b := by
  simp only [adopted, h, Option.getD_some, Dict.set_set]

theorem Entry.eq_of_spec (ha : Entry uid m a) (hb : Entry uid m b) (h : a.spec = b.spec) : a = b := by
  obtain ⟨am, as, ast⟩ := a
  obtain ⟨bm, bs, bst⟩ := b
  cases ha.metadata.trans hb.metadata.symm
  cases ha.status.trans hb.status.symm
  cases h
  rfl

theorem Entry.adopted (ha : Entry uid m a) (hb : Entry uid m b) : adopted a b = b := by
  have hl : Dict.set (a.metadata.labels.getD .empty) uidLabel b.spec.workload.uid =
      Dict.set .empty uidLabel uid := by
    rw [ha.metadata, ha.labels, hb.owner, Option.getD_some, Dict.set_set]
  rw [Workload.adopted, hl, ← hb.labels, ha.metadata, ha.status, ← hb.metadata, ← hb.status]

theorem Entry.isDeleting (h : Entry uid m e) : e.isDeleting = false := by
  rw [Resource.isDeleting, h.metadata, h.active]
  rfl

/-- Of several deployments that are wanted under one name the last one prevails, unless what is there
is being deleted or is what all of them ask for. -/
theorem revisedBy_concat (h : ∀ e ∈ l ++ [z], Entry uid m e) (o : Option Deployment) :
    revisedBy (l ++ [z]) o = some (o.elim z fun o =>
      if o.isDeleting = true ∨ ∀ e ∈ l ++ [z], e.spec = o.spec then o else adopted o z) := by
  induction l using List.reverseRecOn generalizing z with
  | nil =>
    cases o with
    | none => rfl
    | some o =>
      simp only [List.nil_append, List.forall_mem_singleton, eq_comm (a := z.spec)]
      simp [revisedBy, revised]
  | append_singleton l y ih =>
    have hz := h z (by simp)
    have hy := h y (by simp)
    have hrest := ih fun e he => h e (List.mem_append_left _ he)
    rw [revisedBy_append, hrest]
    refine congrArg some ?_
    cases o with
    | none =>
      -- what was created is the last but one
      rw [Option.elim_none, Option.elim_none, revised_some, hy.isDeleting]
      split
      · next hs => exact hy.eq_of_spec hz (hs.resolve_left Bool.false_ne_true)
      · exact hy.adopted hz
    | some o =>
      rw [Option.elim_some, Option.elim_some]
      by_cases hd : o.isDeleting = true
      · rw [if_pos (.inl hd), if_pos (.inl hd), revised_some, if_pos (.inl hd)]
      by_cases hs : ∀ e ∈ l ++ [y], e.spec = o.spec
      · have hall : (∀ e ∈ l ++ [y] ++ [z], e.spec = o.spec) ↔ o.spec = z.spec := by
          rw [List.forall_mem_append, and_iff_right hs, List.forall_mem_singleton, eq_comm]
        rw [if_pos (.inr hs), revised_some]
        exact if_congr (or_congr_right hall.symm) rfl rfl
      · have hall : ¬ ∀ e ∈ l ++ [y] ++ [z], e.spec = o.spec := fun hall =>
          hs fun e he => hall e (List.mem_append_left _ he)
        rw [if_neg (not_or.2 ⟨hd, hs⟩), if_neg (not_or.2 ⟨hd, hall⟩), revised_some,
          adopted_adopted (hy.owner.trans hz.owner.symm)]
        split
        · next h' =>
          have hyz : y.spec = z.spec := h'.resolve_left hd
          rw [hy.eq_of_spec hz hyz]
        · rfl

/-- What the first few of them have made of it is no matter to what all of them make of it. -/
theorem revisedBy_revisedBy (h : ∀ e ∈ l, Entry uid m e) (hp : p <+: l) (o : Option Deployment) :
    revisedBy l (revisedBy p o) = revisedBy l o := by
  obtain rfl | ⟨p, y, rfl⟩ := List.eq_nil_or_concat' p
  · rfl
  obtain rfl | ⟨l, z, rfl⟩ := List.eq_nil_or_concat' l
  · exact absurd (List.prefix_nil.1 hp) (by simp)
  have hsub {e : Deployment} (he : e ∈ p ++ [y]) : e ∈ l ++ [z] := hp.subset he
  have hy := h y (hsub (by simp))
  have hz := h z (by simp)
  rw [revisedBy_concat fun e he => h e (hsub he), revisedBy_concat h, revisedBy_concat h]
  refine congrArg some ?_
  cases o with
  | none =>
    rw [Option.elim_none, Option.elim_some, Option.elim_none, hy.isDeleting]
    split
    · next hs =>
      exact hy.eq_of_spec hz (hs.resolve_left Bool.false_ne_true z (by simp)).symm
    · exact hy.adopted hz
  | some o =>
    simp only [Option.elim_some]
    by_cases hk : o.isDeleting = true ∨ ∀ e ∈ p ++ [y], e.spec = o.spec
    · rw [if_pos hk]
    · obtain ⟨hd, hs⟩ := not_or.1 hk
      have hall : ¬ ∀ e ∈ l ++ [z], e.spec = o.spec := fun hall => hs fun e he => hall e (hsub he)
      rw [if_neg hk, if_neg (not_or.2 ⟨hd, hall⟩), adopted_adopted (hy.owner.trans hz.owner.symm)]
      split
      · next h' =>
        have hzy : z.spec = y.spec := h'.resolve_left hd z (by simp)
        rw [hy.eq_of_spec hz hzy.symm]
      · rfl

/-! ## All names -/

section

variable {f g : String × String → Option Deployment} {metadata : String → ObjectMeta}

/-- What bringing a wanted deployment up to date makes of those of a namespace. -/
def withRevised (ns : String) (e : Deployment) (f : String × String → Option Deployment) :
    String × String → Option Deployment :=
  Function.update f (ns, e.name) (some (revised e (f (ns, e.name))))

/-- The same for several, one after another. -/
def revisedAll (ns : String) (l : List Deployment) (f : String × String → Option Deployment) :
    String × String → Option Deployment :=
  l.foldl (fun f e => withRevised ns e f) f

theorem revisedAll_cons : revisedAll ns (e :: l) f = revisedAll ns l (withRevised ns e f) := rfl

theorem revisedAll_of_ne {a : String × String} (h : ∀ e ∈ l, a ≠ (ns, e.name)) :
    revisedAll ns l f a = f a := by
  induction l generalizing f with
  | nil => rfl
  | cons e rest ih =>
    rw [revisedAll_cons, ih fun e he => h e (List.mem_cons_of_mem _ he), withRevised,
      Function.update_of_ne (h e List.mem_cons_self)]

/-- At a name there is what the deployments wanted under that name make of it. -/
theorem revisedAll_apply (name : String) :
    revisedAll ns l f (ns, name) = revisedBy (l.filter (·.name = name)) (f (ns, name)) := by
  induction l generalizing f with
  | nil => rfl
  | cons e rest ih =>
    rw [revisedAll_cons, ih, List.filter_cons, withRevised]
    by_cases hn : e.name = name
    · subst hn
      rw [Function.update_self, if_pos (decide_eq_true rfl)]
      rfl
    · rw [Function.update_of_ne fun h => hn (Prod.mk.inj h).2.symm,
        if_neg (by rwa [decide_eq_true_iff])]

theorem revisedAll_revisedAll (h : ∀ e ∈ l, Entry uid (metadata e.name) e) (hp : p <+: l) :
    revisedAll ns l (revisedAll ns p f) = revisedAll ns l f := by
  funext ⟨ns', name⟩
  by_cases hns : ns' = ns
  · subst hns
    rw [revisedAll_apply, revisedAll_apply, revisedAll_apply]
    have hname : ∀ e ∈ l.filter (·.name = name), Entry uid (metadata name) e := fun e he => by
      obtain ⟨he, hn⟩ := List.mem_filter.1 he
      exact of_decide_eq_true hn ▸ h e he
    exact revisedBy_revisedBy hname (hp.filter _) _
  · have hne (e : Deployment) : (ns', name) ≠ (ns, e.name) := fun he => hns (Prod.mk.inj he).1
    rw [revisedAll_of_ne fun e _ => hne e, revisedAll_of_ne fun e _ => hne e,
      revisedAll_of_ne fun e _ => hne e]

theorem isSome_revisedAll (h : ∀ e ∈ l, (f (ns, e.name)).isSome = true) (a : String × String) :
    (revisedAll ns l f a).isSome = (f a).isSome := by
  induction l generalizing f with
  | nil => rfl
  | cons e rest ih =>
    have he := h e List.mem_cons_self
    have hu (b : String × String) : (withRevised ns e f b).isSome = (f b).isSome := by
      rw [withRevised]
      by_cases hb : b = (ns, e.name)
      · rw [hb, Function.update_self, he, Option.isSome_some]
      · rw [Function.update_of_ne hb]
    rw [revisedAll_cons, ih fun e he => (hu _).trans (h e (List.mem_cons_of_mem _ he)), hu]

/-! ## Sweeping -/

/-- What deleting a deployment makes of those of a namespace. -/
def withRemoved (ns : String) (d : Deployment) (f : String × String → Option Deployment) :
    String × String → Option Deployment :=
  Function.update f (ns, d.name) ((f (ns, d.name)).bind Resource.removed)

/-- The same for several, one after another. -/
def removedAll (ns : String) (l : List Deployment) (f : String × String → Option Deployment) :
    String × String → Option Deployment :=
  l.foldl (fun f d => withRemoved ns d f) f

theorem removedAll_apply (a : String × String) : removedAll ns l f a =
    if a.1 = ns ∧ a.2 ∈ l.map (·.name) then (f a).bind Resource.removed else f a := by
  induction l generalizing f with
  | nil => simp [removedAll]
  | cons d rest ih =>
    have hmem : (a.1 = ns ∧ a.2 ∈ (d :: rest).map (·.name)) ↔
        a = (ns, d.name) ∨ (a.1 = ns ∧ a.2 ∈ rest.map (·.name)) := by
      rw [List.map_cons, List.mem_cons, and_or_left, Prod.ext_iff]
    rw [removedAll, List.foldl_cons, ← removedAll, ih, withRemoved]
    by_cases ha : a = (ns, d.name)
    · rw [if_pos (hmem.2 (.inl ha)), ha, Function.update_self, Resource.bind_removed_removed,
        ite_self]
    · rw [Function.update_of_ne ha]
      exact if_congr (hmem.trans (or_iff_right ha)).symm rfl rfl

/-- What is left of a deployment when those of the workload are deleted. -/
def discarded (w : Workload) (o : Deployment) : Option Deployment :=
  if o.label? uidLabel = some w.uid ∧ o.spec.workload.uid = w.uid ∧ o.isDeleting = false then
    o.removed
  else some o

/-- What is left when those of the workload are deleted, save for some names. -/
def swept (w : Workload) (names : List String) (f : String × String → Option Deployment)
    (a : String × String) : Option Deployment :=
  if a.1 = w.namespaceName ∧ a.2 ∉ names then (f a).bind w.discarded else f a

theorem bind_discarded_discarded (o : Option Deployment) :
    (o.bind w.discarded).bind w.discarded = o.bind w.discarded := by
  cases o with
  | none => rfl
  | some o =>
    rw [Option.bind_some, discarded]
    split
    · rw [Resource.removed]
      split
      · rfl
      · exact if_neg fun h => Bool.false_ne_true h.2.2.symm
    · next h => exact if_neg h

/-- Some deletions made no difference to what all of them leave. -/
theorem swept_of_between (h : ∀ a, g a = f a ∨ g a = w.swept names f a) :
    w.swept names g = w.swept names f := by
  funext a
  have ha := h a
  rw [swept] at ha ⊢
  rw [swept]
  split
  · next hc =>
    rw [if_pos hc] at ha
    obtain ha | ha := ha
    · rw [ha]
    · rw [ha, bind_discarded_discarded]
  · next hc =>
    rw [if_neg hc] at ha
    exact ha.elim id id

/-! ## A pass over the deployments -/

/-- Whether a wanted deployment can be brought up to date: without a namespace, none can be created. -/
def canUpsert (w : Workload) (f : String × String → Option Deployment) (e : Deployment) : Bool :=
  w.metadata.ns.isSome || (f (w.namespaceName, e.name)).isSome

/-- How far a pass comes with the deployments that it wants. -/
def reached (w : Workload) (l : List Deployment) (f : String × String → Option Deployment) :
    List Deployment :=
  l.takeWhile (w.canUpsert f)

theorem mem_of_mem_reached (h : e ∈ w.reached l f) : e ∈ l :=
  (List.takeWhile_sublist _).subset h

/-- What a pass makes of the deployments when the workload wants these. -/
def outcome (w : Workload) (wanted : List Deployment) (f : String × String → Option Deployment) :
    String × String → Option Deployment :=
  let left := w.swept (wanted.map (·.name)) f
  revisedAll w.namespaceName (w.reached wanted left) left

/-- What can be brought up to date stays the same when some of it is. -/
theorem canUpsert_revisedAll (hp : ∀ e ∈ p, w.canUpsert f e = true) :
    w.canUpsert (revisedAll w.namespaceName p f) = w.canUpsert f := by
  funext e
  cases hns : w.metadata.ns.isSome with
  | true => rw [canUpsert, canUpsert, hns, Bool.true_or, Bool.true_or]
  | false =>
    simp only [canUpsert, hns, Bool.false_or] at hp ⊢
    rw [isSome_revisedAll hp]

/-- Without a namespace a pass stops where it would have to create a deployment. -/
theorem through_canUpsert : Pass.through (fun e f => w.canUpsert f e)
    (fun e f => withRevised w.namespaceName e f) l f = w.reached l f := by
  induction l generalizing f with
  | nil => rfl
  | cons e rest ih =>
    rw [Pass.through, reached, List.takeWhile_cons]
    split
    · next h =>
      have hsame : w.canUpsert (withRevised w.namespaceName e f) = w.canUpsert f :=
        canUpsert_revisedAll (p := [e]) (by simpa using h)
      rw [ih, reached, hsame]
    · rfl

/-- A pass that begins when some were deleted ends like one that begins before. -/
theorem outcome_of_swept (h : ∀ a, g a = f a ∨ g a = w.swept (l.map (·.name)) f a) :
    w.outcome l g = w.outcome l f := by
  rw [outcome, outcome, swept_of_between h]

/-- A pass that begins when some were brought up to date ends like one that begins before. -/
theorem outcome_of_revised (h : ∀ e ∈ l, Entry uid (metadata e.name) e)
    (hp : p <+: w.reached l (w.swept (l.map (·.name)) f)) :
    w.outcome l (revisedAll w.namespaceName p (w.swept (l.map (·.name)) f)) = w.outcome l f := by
  have hsame : w.swept (l.map (·.name))
        (revisedAll w.namespaceName p (w.swept (l.map (·.name)) f)) =
      revisedAll w.namespaceName p (w.swept (l.map (·.name)) f) := by
    funext a
    rw [swept]
    split
    · next ha =>
      have hne : ∀ e ∈ p, a ≠ (w.namespaceName, e.name) := by
        rintro e he rfl
        exact ha.2 (List.mem_map_of_mem (mem_of_mem_reached (hp.subset he)))
      rw [revisedAll_of_ne hne, swept, if_pos ha, bind_discarded_discarded]
    · rfl
  have hcan := canUpsert_revisedAll fun e he => List.mem_takeWhile_imp (hp.subset he)
  rw [outcome, outcome, hsame, reached, hcan, ← reached]
  exact revisedAll_revisedAll (fun e he => h e (mem_of_mem_reached he)) hp

end

end ControlPlane.Workload
