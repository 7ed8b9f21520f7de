import ControlPlane.Proofs.Watch.Collections

/-!
# What a controller has cached

A controller lists the resources of its kind and then follows the changes to them, in one namespace or
in all. Whatever is listed and whatever happens afterwards, it has cached resources of that namespace
only, and the changes that reach it are those in the collections it asked for (`within_after`).

* `Watches.after`: what is cached after several changes; `run_append` tells which passes the next one
  calls for.
* `handle_of_kind_ne`: a change to a resource of another kind leaves the cache as it is.
* `mem_handle_iff`, `exists_mem_owners`: the passes that a change to another resource calls for.
-/

namespace ControlPlane

section Cache

variable {Spec Status : Type} {cache : List (Resource Spec Status)} {r x : Resource Spec Status}

theorem mem_or_eq_of_mem_recache (h : x ∈ recache cache r) : x ∈ cache ∨ x = r := by
  obtain h | h := List.mem_append.1 h
  · exact .inl (List.mem_filter.1 h).1
  · exact .inr (List.mem_singleton.1 h)

theorem mem_or_mem_of_mem_foldl_recache {l : List (Resource Spec Status)}
    (h : x ∈ l.foldl recache cache) : x ∈ cache ∨ x ∈ l := by
  induction l generalizing cache with
  | nil => exact .inl h
  | cons r rest ih =>
    obtain h | h := ih h
    · exact (mem_or_eq_of_mem_recache h).imp_right fun e => List.mem_cons.2 (.inl e)
    · exact .inr (List.mem_cons_of_mem r h)

/-- A resource that is cached is found, or another with its key in its place. -/
theorem exists_cached? (h : x ∈ cache) :
    ∃ y, cached? cache x.metadata.ns x.name = some y ∧ y.key = x.key := by
  have hfound : (cache.find? fun r => r.metadata.ns == x.metadata.ns && r.name == x.name).isSome :=
    List.find?_isSome.2 ⟨x, h, by simp⟩
  obtain ⟨y, hy⟩ := Option.isSome_iff_exists.1 hfound
  have hsame := List.find?_some hy
  simp only [Bool.and_eq_true, beq_iff_eq] at hsame
  refine ⟨y, by rw [cached?, hy]; rfl, ?_⟩
  rw [Resource.key, Resource.key, Resource.namespaceName, Resource.namespaceName, hsame.1, hsame.2]

end Cache

/-- Whether an object is in the namespace that a controller is confined to, if it is. -/
def ObjectMeta.isIn (m : ObjectMeta) (scope : Option String) : Bool :=
  scope.all (m.ns.getD "" = ·)

/-- An object belongs to a resource that it names as an owner, in the namespace of the resource. -/
def ObjectMeta.BelongsTo {Spec Status : Type} [OfKind (Resource Spec Status)] (m : ObjectMeta)
    (r : Resource Spec Status) : Prop :=
  m.ns = r.metadata.ns ∧ ∃ o ∈ m.ownerReferences.getD [],
    o.isTo (Resource Spec Status) = true ∧ o.name = r.name

namespace Watches

variable {Spec Status : Type} {w : Watches Spec Status}

theorem mem_passes {l : List (Resource Spec Status)} {k : String} :
    k ∈ w.passes l ↔ ∃ r ∈ l, w.needsPass r = true ∧ r.key = k := by
  simp only [passes, mem_distinctSorted, List.mem_map, List.mem_filter, and_assoc]

variable [OfKind (Resource Spec Status)]

/-- What a controller of a namespace, or of all, has cached after the first listing and several
changes. -/
def after (w : Watches Spec Status) (scope : Option String) (present : List AnyResource)
    (events : List WatchEvent) : Watching Spec Status :=
  events.foldl (fun s e => (w.handle s e).2) (w.list scope present)

theorem handleAll_append (s : Watching Spec Status) (events : List WatchEvent) (e : WatchEvent) :
    w.handleAll s (events ++ [e]) = w.handleAll s events ++
      [(w.handle (events.foldl (fun s e => (w.handle s e).2) s) e).1] := by
  induction events generalizing s with
  | nil => rfl
  | cons e' rest ih => exact congrArg (_ :: ·) (ih _)

/-- One more change calls for the passes that it calls for after the others. -/
theorem run_append (scope : Option String) (present : List AnyResource) (events : List WatchEvent)
    (e : WatchEvent) : w.run scope present (events ++ [e]) =
      w.run scope present events ++ [(w.handle (w.after scope present events) e).1] :=
  congrArg (_ :: ·) (handleAll_append _ events e)

end Watches

/-- What a controller of a namespace, or of all, can have come to: it has cached what is there only,
and follows the collections it asked for, unless it could not even list what it reconciles. -/
structure Watching.Within {Spec Status : Type} [OfKind (Resource Spec Status)]
    (w : Watches Spec Status) (scope : Option String) (s : Watching Spec Status) : Prop where
  isIn : ∀ r ∈ s.cache, r.metadata.isIn scope = true
  follows : s = {} ∨ s.primary = some ⟨kindOf (Resource Spec Status), scope⟩ ∧
    s.owned = w.owned.map (⟨·, scope⟩)

namespace Watches

variable {Spec Status : Type} [OfKind (Resource Spec Status)] {w : Watches Spec Status}
  {scope : Option String} {s : Watching Spec Status} {e : WatchEvent} {r : AnyResource}
  {x : Resource Spec Status}

/-- A controller takes the resources of its kind as they are. -/
def TakesAsIs (w : Watches Spec Status) : Prop :=
  ∀ r x, w.primary? r = some x → x.metadata = r.metadata

theorem isIn_of_read? (hw : w.TakesAsIs)
    (hr : Collection.holds ⟨kindOf (Resource Spec Status), scope⟩ r = true)
    (hx : w.read? r = some x) : x.metadata.isIn scope = true := by
  simp only [Collection.holds, Bool.and_eq_true, decide_eq_true_eq] at hr
  rw [read?, AnyResource.readAs, if_pos hr.1] at hx
  rw [hw r x hx]
  exact hr.2

theorem isIn_of_mapM_read? (hw : w.TakesAsIs) {l : List AnyResource}
    {xs : List (Resource Spec Status)}
    (hl : ∀ r ∈ l, Collection.holds ⟨kindOf (Resource Spec Status), scope⟩ r = true)
    (h : l.mapM w.read? = some xs) : ∀ x ∈ xs, x.metadata.isIn scope = true := by
  induction l generalizing xs with
  | nil =>
    cases h
    simp
  | cons r rest ih =>
    obtain ⟨hr, hrest⟩ := List.forall_mem_cons.1 hl
    simp only [List.mapM_cons, Option.bind_eq_bind, Option.bind_eq_some_iff] at h
    obtain ⟨x, hx, xs', hxs, h⟩ := h
    cases h
    exact List.forall_mem_cons.2 ⟨isIn_of_read? hw hr hx, ih hrest hxs⟩

/-- What a first listing that can be read leads to. -/
theorem list_eq_of_listed? (hscope : scope.all isNamespaceName = true) {present : List AnyResource}
    {resources : List (Resource Spec Status)}
    (h : w.listed? ⟨⟨kindOf (Resource Spec Status), scope⟩, true⟩ present = some resources) :
    w.list scope present =
      { cache := resources.foldl recache []
        primary := some ⟨kindOf (Resource Spec Status), scope⟩
        owned := w.owned.map (⟨·, scope⟩) } := by
  have hview : ∀ k, Collection.view? ⟨k, scope⟩ = some ⟨⟨k, scope⟩, true⟩ := fun k =>
    Collection.view?_of_name hscope
  simp [list, hview, h, View.followed]

theorem within_list (hw : w.TakesAsIs) (hscope : scope.all isNamespaceName = true)
    (present : List AnyResource) : (w.list scope present).Within w scope := by
  cases hl : w.listed? ⟨⟨kindOf (Resource Spec Status), scope⟩, true⟩ present with
  | none =>
    have hnone : w.list scope present = {} := by
      simp [list, Collection.view?_of_name (c := ⟨kindOf (Resource Spec Status), scope⟩) hscope, hl]
    rw [hnone]
    exact ⟨fun r hr => absurd hr List.not_mem_nil, .inl rfl⟩
  | some resources =>
    rw [list_eq_of_listed? hscope hl]
    refine ⟨fun r hr => ?_, .inr ⟨rfl, rfl⟩⟩
    obtain hr | hr := mem_or_mem_of_mem_foldl_recache hr
    · exact absurd hr List.not_mem_nil
    · exact isIn_of_mapM_read? hw (fun r hr => (List.mem_filter.1 hr).2) hl r hr

theorem within_handle (hw : w.TakesAsIs) (h : s.Within w scope) (e : WatchEvent) :
    (w.handle s e).2.Within w scope := by
  obtain rfl | ⟨hp, ho⟩ := h.follows
  · exact ⟨h.isIn, .inl rfl⟩
  · refine ⟨fun r hr => ?_, .inr ⟨hp, ho⟩⟩
    simp only [handle, update, hp, Option.any_some] at hr
    split at hr
    · next hholds =>
      cases hx : w.read? e.resource with
      | none =>
        rw [hx] at hr
        exact h.isIn r hr
      | some x =>
        rw [hx] at hr
        have hin := isIn_of_read? hw hholds hx
        cases he : e.change <;> simp only [he] at hr
        case deleted => exact h.isIn r (List.mem_filter.1 hr).1
        all_goals
          obtain hr | rfl := mem_or_eq_of_mem_recache hr
          · exact h.isIn r hr
          · exact hin
    · exact h.isIn r hr

/-- What a controller has come to, whatever was listed and has happened. -/
theorem within_after (hw : w.TakesAsIs) (hscope : scope.all isNamespaceName = true)
    (present : List AnyResource) (events : List WatchEvent) :
    (w.after scope present events).Within w scope :=
  List.foldlRecOn events _ (within_list hw hscope present) fun _ h e _ => within_handle hw h e

/-- A change to a resource of another kind leaves the cache as it is, and calls for passes on the
owners of the resource and on the others that it concerns. -/
theorem handle_of_kind_ne (h : s.Within w scope)
    (hk : e.resource.kind ≠ kindOf (Resource Spec Status)) :
    w.handle s e = (w.passes (owners s e.resource ++ w.concerned s.cache e.resource), s) := by
  have hupdate : w.update s e = ([], s.cache) := by
    unfold update
    rw [if_neg]
    obtain rfl | ⟨hp, -⟩ := h.follows
    · simp
    · simp [hp, Collection.holds, hk]
  simp [handle, hupdate]

/-- No resource is the owner of one of a kind that is not owned. -/
theorem owners_of_not_owned (h : s.Within w scope) (hk : r.kind ∉ w.owned) : owners s r = [] := by
  unfold owners
  rw [if_neg]
  obtain rfl | ⟨-, ho⟩ := h.follows
  · simp
  · rw [ho, List.any_map, List.any_eq_true]
    rintro ⟨k, hk', hholds⟩
    simp only [Function.comp_apply, Collection.holds, Bool.and_eq_true, decide_eq_true_eq] at hholds
    exact hk (hholds.1 ▸ hk')

/-- A cached resource is among the owners of what belongs to it, or another with its key is. -/
theorem exists_mem_owners (h : s.Within w scope) (hx : x ∈ s.cache) (hk : r.kind ∈ w.owned)
    (hr : r.metadata.BelongsTo x) : ∃ y ∈ owners s r, y.key = x.key := by
  obtain ⟨hns, o, ho, hto, hname⟩ := hr
  have hseen : s.owned.any (·.holds r) = true := by
    obtain rfl | ⟨-, hs⟩ := h.follows
    · exact absurd hx List.not_mem_nil
    · rw [hs, List.any_map, List.any_eq_true]
      refine ⟨r.kind, hk, ?_⟩
      have hin := h.isIn x hx
      rw [ObjectMeta.isIn, ← hns] at hin
      simp [Collection.holds, hin]
  obtain ⟨y, hy, hkey⟩ := exists_cached? hx
  refine ⟨y, ?_, hkey⟩
  rw [owners, if_pos hseen, ownersIn, List.mem_filterMap]
  exact ⟨o, List.mem_filter.2 ⟨ho, hto⟩, by rw [hns, hname, hy]⟩

/-- A change to a resource that is neither reconciled nor owned calls for passes on the cached
resources that it concerns. -/
theorem mem_handle_iff {change : Change} {key : String} (h : s.Within w scope)
    (hk : r.kind ≠ kindOf (Resource Spec Status)) (howned : r.kind ∉ w.owned) :
    key ∈ (w.handle s ⟨change, r⟩).1 ↔
      ∃ x ∈ w.concerned s.cache r, w.needsPass x = true ∧ x.key = key := by
  rw [handle_of_kind_ne h hk, owners_of_not_owned h howned, List.nil_append, mem_passes]

end Watches

end ControlPlane
