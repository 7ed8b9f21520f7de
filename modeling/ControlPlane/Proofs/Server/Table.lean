import Mathlib.Data.List.Nodup
import ControlPlane.Api.Requests
import ControlPlane.Json.MergePatch
import ControlPlane.Store.Memory
import ControlPlane.Text.Digits

/-!
# Tables of an API server

The objects of one kind as an API server keeps them. An object is found by its namespace and name. Of
the server this takes the documented behaviour:

* Every write of an object gives it a resource version that no object of its kind had before.
* A replacement or patch carries the version that its writer has read. When another is stored, the
  writer was too slow and is refused with a conflict, and nothing changes. A deletion carries none.
* A creation under a free name sets the uid and the time of creation, and takes no status. The uid is
  numbered by the version, so none is given out twice. Under a name that is taken it is refused.
* A replacement keeps the uid, the times of creation and deletion, and the status. What else it sends
  is stored as sent. The generation is among it: this server does not count it up.
* An object that holds a finalizer is marked when it is deleted, and goes when the last one is given up.
* Lists are in the order of creation.

The theorems about runs rest on this. What holds of more servers is stated for any store that is
`Faithful`, or for any `VersionedServer` or `MergingServer`.

* `update_of_isCurrent`, `update_of_not_isCurrent`: a guarded write succeeds exactly when its writer
  has read what is stored.
* `not_isCurrent_change_self`: what was read before a write is not what is stored after it.
* `isCurrent_change_of_ne`, `mem_change_of_ne`: a write leaves all other objects alone.
* `find?_change_self`, `find?_add_self`, `find?_remove_self`: what is found where something was written.
-/

namespace ControlPlane

section Resource

variable {Spec Status : Type}

/-- The namespace and name of an object, as far as it has them. -/
def Resource.address (r : Resource Spec Status) : Option String × Option String :=
  (r.metadata.ns, r.metadata.name)

/-- Where a request about an object goes. -/
def Resource.destination (r : Resource Spec Status) : Option String × Option String :=
  (r.metadata.ns, some r.name)

/-- The object is the one of this namespace and name. -/
def Resource.isAt (r : Resource Spec Status) (ns name : String) : Bool :=
  r.address == (some ns, some name)

theorem Resource.isAt_iff {r : Resource Spec Status} {ns name : String} :
    r.isAt ns name = true ↔ r.address = (some ns, some name) :=
  beq_iff_eq

/-- The object at an address, under the `n`-th version that the server gives out. -/
def Resource.stamp (ns name : String) (n : Nat) (r : Resource Spec Status) :
    Resource Spec Status :=
  { r with metadata := { r.metadata with
      ns := some ns
      name := some name
      resourceVersion := some (Nat.repr n) } }

/-- The object, unless it waits for its deletion and holds no finalizer. -/
def Resource.kept (r : Resource Spec Status) : Option (Resource Spec Status) :=
  if r.isDeleting && r.finalizers.isEmpty then none else some r

theorem Resource.kept_of_not_isDeleting {r : Resource Spec Status} (h : r.isDeleting = false) :
    r.kept = some r := by
  rw [kept, h, Bool.false_and, if_neg Bool.false_ne_true]

/-- The object as it is created: the server says who it is and since when, and takes no status. -/
def Resource.created (uid : String) (now : Instant) (r : Resource Spec Status) :
    Resource Spec Status :=
  { r with
    metadata := { r.metadata with uid := some uid, creationTimestamp := some now }
    status := none }

/-- The object as it is written over `o`: what the server sets stays, and so does the status. -/
def Resource.inPlaceOf (r o : Resource Spec Status) : Resource Spec Status :=
  { r with
    metadata := { r.metadata with
      uid := o.metadata.uid
      creationTimestamp := o.metadata.creationTimestamp
      deletionTimestamp := o.metadata.deletionTimestamp }
    status := o.status }

/-- The object with a status merged into its own. -/
def Resource.mergeStatus [JsonForm Status] (status : Status) (o : Resource Spec Status) :
    Resource Spec Status :=
  { o with
    status := some <|
      (decode (Json.mergePatch (encode status) (o.status.elim .null encode))).getD status }

/-- The object marked for deletion. -/
def Resource.marked (now : Instant) (r : Resource Spec Status) : Resource Spec Status :=
  { r with metadata := { r.metadata with deletionTimestamp := some now } }

end Resource

/-- The objects of one kind. -/
structure Table (Spec Status : Type) where
  objects : List (Resource Spec Status)
  /-- The number of the version that was given out last. -/
  revision : Nat := 0
  distinct : (objects.map Resource.address).Nodup
  complete : ∀ o ∈ objects, o.metadata.ns.isSome ∧ o.metadata.name.isSome ∧
    o.metadata.resourceVersion.isSome
  /-- The versions still to be given out are new. -/
  unused : ∀ o ∈ objects, ∀ n, revision < n → o.metadata.resourceVersion ≠ some (Nat.repr n)

namespace Table

/-- The table of a kind of which there is no object. -/
def empty {Spec Status : Type} : Table Spec Status where
  objects := []
  distinct := .nil
  complete := by simp
  unused := by simp

variable {Spec Status : Type} {t : Table Spec Status} {r o x : Resource Spec Status}
  {ns name ns' name' : String} {f : Resource Spec Status → Option (Resource Spec Status)}

/-- The object of this namespace and name. -/
def find? (t : Table Spec Status) (ns name : String) : Option (Resource Spec Status) :=
  t.objects.find? (·.isAt ns name)

/-- The objects of a namespace that pass a test, in listing order. -/
def list (t : Table Spec Status) (ns : String) (p : Resource Spec Status → Bool) :
    List (Resource Spec Status) :=
  t.objects.filter fun o => o.metadata.ns == some ns && p o

/-! ## Looking up -/

theorem find?_empty (ns name : String) : (empty : Table Spec Status).find? ns name = none :=
  rfl

theorem eq_of_address_eq (ho : o ∈ t.objects) (hx : x ∈ t.objects) (h : o.address = x.address) :
    o = x :=
  List.inj_on_of_nodup_map t.distinct ho hx h

theorem find?_eq_some_iff :
    t.find? ns name = some o ↔ o ∈ t.objects ∧ o.address = (some ns, some name) := by
  constructor
  · intro h
    have ha := List.find?_some h
    exact ⟨List.mem_of_find?_eq_some h, Resource.isAt_iff.1 ha⟩
  · rintro ⟨ho, ha⟩
    cases h : t.find? ns name with
    | none => exact absurd (Resource.isAt_iff.2 ha) (List.find?_eq_none.1 h o ho)
    | some x =>
      have hx := List.find?_some h
      rw [eq_of_address_eq (List.mem_of_find?_eq_some h) ho ((Resource.isAt_iff.1 hx).trans ha.symm)]

theorem find?_eq_none_iff :
    t.find? ns name = none ↔ ∀ o ∈ t.objects, o.address ≠ (some ns, some name) := by
  simp [find?, Resource.isAt_iff]

theorem exists_address (h : o ∈ t.objects) :
    ∃ ns name, o.address = (some ns, some name) := by
  obtain ⟨hs, hn, -⟩ := t.complete o h
  obtain ⟨ns, hs⟩ := Option.isSome_iff_exists.1 hs
  obtain ⟨name, hn⟩ := Option.isSome_iff_exists.1 hn
  exact ⟨ns, name, by rw [Resource.address, hs, hn]⟩

/-! ## Writing -/

/-- Puts what `f` makes of the object of that address in its place, under a new version. -/
def change (t : Table Spec Status) (ns name : String)
    (f : Resource Spec Status → Option (Resource Spec Status)) : Table Spec Status :=
  let g (o : Resource Spec Status) : Option (Resource Spec Status) :=
    if o.isAt ns name then (f o).map (Resource.stamp ns name (t.revision + 1)) else some o
  have stays {o x : Resource Spec Status} (h : g o = some x) : x.address = o.address ∧
      (x = o ∨ x.metadata.resourceVersion = some (Nat.repr (t.revision + 1))) := by
    simp only [g] at h
    split at h
    · next ha =>
      obtain ⟨y, -, rfl⟩ := Option.map_eq_some_iff.1 h
      exact ⟨(Resource.isAt_iff.1 ha).symm, .inr rfl⟩
    · cases h
      exact ⟨rfl, .inl rfl⟩
  { objects := t.objects.filterMap g
    revision := t.revision + 1
    distinct := by
      refine t.distinct.sublist ?_
      induction t.objects with
      | nil => exact List.Sublist.slnil
      | cons o rest ih =>
        rw [List.filterMap_cons]
        cases h : g o with
        | none => exact ih.cons _
        | some x =>
          rw [List.map_cons, List.map_cons, (stays h).1]
          exact ih.cons_cons _
    complete := by
      intro x hx
      obtain ⟨o, ho, hg⟩ := List.mem_filterMap.1 hx
      obtain ⟨ha, hv⟩ := stays hg
      have hc := t.complete o ho
      rcases hv with rfl | hv
      · exact hc
      · rw [Resource.address, Resource.address, Prod.mk.injEq] at ha
        rw [ha.1, ha.2, hv]
        exact ⟨hc.1, hc.2.1, rfl⟩
    unused := by
      intro x hx n hn
      obtain ⟨o, ho, hg⟩ := List.mem_filterMap.1 hx
      rcases (stays hg).2 with rfl | hv
      · exact t.unused x ho n (by omega)
      · rw [hv]
        intro e
        have := Text.repr_injective (Option.some.inj e)
        omega }

theorem mem_change : x ∈ (t.change ns name f).objects ↔
    (x ∈ t.objects ∧ x.address ≠ (some ns, some name)) ∨
      ∃ o y, t.find? ns name = some o ∧ f o = some y ∧ x = y.stamp ns name (t.revision + 1) := by
  simp only [change, List.mem_filterMap]
  constructor
  · rintro ⟨o, ho, h⟩
    split at h
    · next ha =>
      obtain ⟨y, hy, rfl⟩ := Option.map_eq_some_iff.1 h
      exact .inr ⟨o, y, find?_eq_some_iff.2 ⟨ho, Resource.isAt_iff.1 ha⟩, hy, rfl⟩
    · next ha =>
      cases h
      exact .inl ⟨ho, fun e => ha (Resource.isAt_iff.2 e)⟩
  · rintro (⟨hx, ha⟩ | ⟨o, y, ho, hy, rfl⟩)
    · exact ⟨x, hx, if_neg fun e => ha (Resource.isAt_iff.1 e)⟩
    · obtain ⟨ho, ha⟩ := find?_eq_some_iff.1 ho
      refine ⟨o, ho, ?_⟩
      rw [if_pos (Resource.isAt_iff.2 ha), hy, Option.map_some]

theorem mem_change_of_ne (h : x.address ≠ (some ns, some name)) :
    x ∈ (t.change ns name f).objects ↔ x ∈ t.objects := by
  rw [mem_change]
  constructor
  · rintro (⟨hx, -⟩ | ⟨o, y, -, -, rfl⟩)
    · exact hx
    · exact absurd rfl h
  · exact fun hx => .inl ⟨hx, h⟩

theorem find?_change_self : (t.change ns name f).find? ns name =
    ((t.find? ns name).bind f).map (Resource.stamp ns name (t.revision + 1)) := by
  ext x
  rw [find?_eq_some_iff, mem_change, Option.map_eq_some_iff]
  constructor
  · rintro ⟨⟨-, hne⟩ | ⟨o, y, ho, hy, rfl⟩, ha⟩
    · exact absurd ha hne
    · exact ⟨y, Option.bind_eq_some_iff.2 ⟨o, ho, hy⟩, rfl⟩
  · rintro ⟨y, hy, rfl⟩
    obtain ⟨o, ho, hy⟩ := Option.bind_eq_some_iff.1 hy
    exact ⟨.inr ⟨o, y, ho, hy, rfl⟩, rfl⟩

theorem find?_change_of_ne (h : (ns', name') ≠ (ns, name)) :
    (t.change ns name f).find? ns' name' = t.find? ns' name' := by
  ext x
  rw [find?_eq_some_iff, find?_eq_some_iff]
  refine and_congr_left fun ha => mem_change_of_ne fun e => h ?_
  simpa using ha.symm.trans e

/-- Puts an object at an address that is free. -/
def add (t : Table Spec Status) (ns name : String) (r : Resource Spec Status)
    (h : t.find? ns name = none) : Table Spec Status where
  objects := t.objects ++ [r.stamp ns name (t.revision + 1)]
  revision := t.revision + 1
  distinct := by
    rw [List.map_append, List.nodup_append]
    refine ⟨t.distinct, List.nodup_singleton _, ?_⟩
    intro a ha b hb e
    obtain ⟨o, ho, rfl⟩ := List.mem_map.1 ha
    rw [List.map_singleton, List.mem_singleton] at hb
    exact find?_eq_none_iff.1 h o ho (e.trans hb)
  complete := by
    intro o ho
    rcases List.mem_append.1 ho with ho | ho
    · exact t.complete o ho
    · rw [List.mem_singleton.1 ho]
      exact ⟨rfl, rfl, rfl⟩
  unused := by
    intro o ho n hn
    rcases List.mem_append.1 ho with ho | ho
    · exact t.unused o ho n (by omega)
    · rw [List.mem_singleton.1 ho]
      intro e
      have := Text.repr_injective (Option.some.inj e)
      omega

theorem find?_add_self (h : t.find? ns name = none) :
    (t.add ns name r h).find? ns name = some (r.stamp ns name (t.revision + 1)) :=
  find?_eq_some_iff.2 ⟨List.mem_append_right _ List.mem_cons_self, rfl⟩

theorem find?_add_of_ne (h : t.find? ns name = none) (hne : (ns', name') ≠ (ns, name)) :
    (t.add ns name r h).find? ns' name' = t.find? ns' name' := by
  ext x
  rw [find?_eq_some_iff, find?_eq_some_iff]
  refine and_congr_left fun ha => ?_
  rw [add, List.mem_append, List.mem_singleton]
  refine or_iff_left fun e => hne ?_
  subst e
  change (some ns, some name) = (some ns', some name') at ha
  simpa using ha.symm

/-! ## Requests -/

section Requests

variable [OfKind (Resource Spec Status)]

/-- The uid of an object that is created under the `n`-th version. -/
def uidOf (α : Type) [OfKind α] (n : Nat) : String :=
  (kindOf α).singular ++ "-uid-" ++ Nat.repr n

/-- The uid of the next object created. -/
def nextUid (t : Table Spec Status) : String :=
  uidOf (Resource Spec Status) (t.revision + 1)

/-- Creates an object under a name that is free. -/
def create (t : Table Spec Status) (now : Instant) (r : Resource Spec Status) :
    Except Error (Resource Spec Status) × Table Spec Status :=
  let kind := kindOf (Resource Spec Status)
  match r.metadata.ns, r.metadata.name with
  | none, _ => (.error (.missingNamespace r.displayName), t)
  | some _, none => (.error (.kubeApi "the object has no name"), t)
  | some ns, some name =>
    let created := r.created (kind.singular ++ "-uid-" ++ Nat.repr (t.revision + 1)) now
    if h : t.find? ns name = none then
      (.ok (created.stamp ns name (t.revision + 1)), t.add ns name created h)
    else (.error (.conflict (describe kind ns name ++ " already exists")), t)

/-- Changes an object as `f` says, if the version that the request carries is the stored one. -/
def update (t : Table Spec Status) (r : Resource Spec Status)
    (f : Resource Spec Status → Resource Spec Status) :
    Except Error (Resource Spec Status) × Table Spec Status :=
  let kind := kindOf (Resource Spec Status)
  match r.metadata.ns with
  | none => (.error (.missingNamespace r.displayName), t)
  | some ns =>
    match t.find? ns r.name with
    | none => (.error (.notFound (describe kind ns r.name ++ " not found")), t)
    | some o =>
      if o.metadata.resourceVersion = r.metadata.resourceVersion then
        (.ok ((f o).stamp ns r.name (t.revision + 1)), t.change ns r.name fun o => (f o).kept)
      else (.error (.conflict (describe kind ns r.name ++ " has been modified")), t)

/-- Writes an object anew. -/
def replace (t : Table Spec Status) (r : Resource Spec Status) :
    Except Error (Resource Spec Status) × Table Spec Status :=
  t.update r r.inPlaceOf

/-- Changes a part of an object; the request must carry a version. -/
def patch (t : Table Spec Status) (r : Resource Spec Status)
    (f : Resource Spec Status → Resource Spec Status) : Except Error Unit × Table Spec Status :=
  match r.metadata.ns, r.metadata.resourceVersion with
  | some _, none => (.error (.missingVersion r.displayName), t)
  | _, _ => ((t.update r f).1.map fun _ => (), (t.update r f).2)

/-- Merges a status into the stored one. -/
def patchStatus [JsonForm Status] (t : Table Spec Status) (r : Resource Spec Status)
    (status : Status) : Except Error Unit × Table Spec Status :=
  t.patch r (Resource.mergeStatus status)

/-- Sets the finalizers of an object. -/
def setFinalizers (t : Table Spec Status) (r : Resource Spec Status) (finalizers : List String) :
    Except Error Unit × Table Spec Status :=
  t.patch r fun o => { o with metadata := { o.metadata with finalizers := some finalizers } }

/-- Removes the object of that address if it holds no finalizer, and marks it otherwise. -/
def remove (t : Table Spec Status) (now : Instant) (ns name : String) : Table Spec Status :=
  match t.find? ns name with
  | none => t
  | some o =>
    if o.finalizers.isEmpty then t.change ns name fun _ => none
    else if o.isDeleting then t
    else t.change ns name fun o => some (o.marked now)

/-- Deletes an object; it may be gone already. -/
def delete (t : Table Spec Status) (now : Instant) (r : Resource Spec Status) :
    Except Error Unit × Table Spec Status :=
  match r.metadata.ns with
  | none => (.error (.missingNamespace r.displayName), t)
  | some ns => (.ok (), t.remove now ns r.name)

end Requests

/-! ## Who has read what is stored -/

/-- The stored object that a write of `r` is to change has the version that `r` has. -/
def IsCurrent (t : Table Spec Status) (r : Resource Spec Status) : Prop :=
  ∃ o ∈ t.objects, o.address = r.destination ∧
    o.metadata.resourceVersion = r.metadata.resourceVersion

theorem address_eq_of_mem (h : o ∈ t.objects) : o.address = o.destination := by
  obtain ⟨ns, name, ha⟩ := exists_address h
  rw [Resource.address, Prod.mk.injEq] at ha
  rw [Resource.address, Resource.destination, Resource.name, ha.2]
  rfl

/-- Requests about listed objects go to different places. -/
theorem list_destinations_nodup (t : Table Spec Status) (ns : String)
    (p : Resource Spec Status → Bool) : ((t.list ns p).map Resource.destination).Nodup := by
  have he : (t.list ns p).map Resource.destination = (t.list ns p).map Resource.address :=
    List.map_congr_left fun o ho => (address_eq_of_mem (List.mem_filter.1 ho).1).symm
  rw [he]
  exact t.distinct.sublist (List.filter_sublist.map _)

theorem isCurrent_of_mem (h : o ∈ t.objects) : t.IsCurrent o :=
  ⟨o, h, address_eq_of_mem h, rfl⟩

/-- A write to another address makes nothing stale, and nothing current. -/
theorem isCurrent_change_of_ne (h : r.destination ≠ (some ns, some name)) :
    (t.change ns name f).IsCurrent r ↔ t.IsCurrent r := by
  refine exists_congr fun o => ?_
  constructor
  · rintro ⟨ho, ha, hv⟩
    exact ⟨(mem_change_of_ne (ha ▸ h)).1 ho, ha, hv⟩
  · rintro ⟨ho, ha, hv⟩
    exact ⟨(mem_change_of_ne (ha ▸ h)).2 ho, ha, hv⟩

/-- What was read before a write of the object is not current after it. -/
theorem not_isCurrent_change_self (ho : o ∈ t.objects) (ha : o.address = (some ns, some name)) :
    ¬ (t.change ns name f).IsCurrent o := by
  rintro ⟨x, hx, hxa, hv⟩
  rw [← address_eq_of_mem ho, ha] at hxa
  rcases mem_change.1 hx with ⟨-, hne⟩ | ⟨o', y, -, -, rfl⟩
  · exact hne hxa
  · exact t.unused o ho _ (Nat.lt_succ_self _) hv.symm

theorem isCurrent_add (h : t.find? ns name = none) (hr : r ∈ t.objects)
    (o : Resource Spec Status) : (t.add ns name o h).IsCurrent r :=
  isCurrent_of_mem (List.mem_append_left _ hr)

/-- The listed objects of a namespace have different names. -/
theorem list_names_nodup (t : Table Spec Status) (ns : String) (p : Resource Spec Status → Bool) :
    ((t.list ns p).map (·.name)).Nodup := by
  have he : (t.list ns p).map Resource.destination =
      ((t.list ns p).map (·.name)).map fun n => (some ns, some n) := by
    rw [List.map_map]
    refine List.map_congr_left fun o ho => ?_
    have hp := (List.mem_filter.1 ho).2
    simp only [Bool.and_eq_true, beq_iff_eq] at hp
    rw [Resource.destination, hp.1]
    rfl
  exact List.Nodup.of_map _ (he ▸ list_destinations_nodup t ns p)

theorem metadata_of_find? (h : t.find? ns name = some o) :
    o.metadata.ns = some ns ∧ o.metadata.name = some name := by
  have ha := (find?_eq_some_iff.1 h).2
  rwa [Resource.address, Prod.mk.injEq] at ha

theorem name_of_find? (h : t.find? ns name = some o) : o.name = name := by
  rw [Resource.name, (metadata_of_find? h).2]
  rfl

/-- A stored object is found under its namespace and name. -/
theorem find?_of_mem (h : o ∈ t.objects) (hns : o.metadata.ns = some ns) :
    t.find? ns o.name = some o :=
  find?_eq_some_iff.2 ⟨h, by rw [address_eq_of_mem h, Resource.destination, hns]⟩

section Requests

variable [OfKind (Resource Spec Status)] {g : Resource Spec Status → Resource Spec Status}

theorem update_of_find? (hns : r.metadata.ns = some ns) (hn : r.name = name)
    (ho : t.find? ns name = some o)
    (hv : o.metadata.resourceVersion = r.metadata.resourceVersion) :
    t.update r g = (.ok ((g o).stamp ns name (t.revision + 1)),
      t.change ns name fun o => (g o).kept) := by
  subst hn
  rw [update, hns]
  simp only [ho, if_pos hv]

theorem update_of_isCurrent (h : t.IsCurrent r) : ∃ ns o, r.metadata.ns = some ns ∧
    t.find? ns r.name = some o ∧
    t.update r g = (.ok ((g o).stamp ns r.name (t.revision + 1)),
      t.change ns r.name fun o => (g o).kept) := by
  obtain ⟨o, ho, ha, hv⟩ := h
  obtain ⟨ns, name, hs⟩ := exists_address ho
  have hns : r.metadata.ns = some ns := by
    rw [hs, Resource.destination, Prod.mk.injEq] at ha
    exact ha.1.symm
  rw [Resource.destination, hns] at ha
  have hf : t.find? ns r.name = some o := find?_eq_some_iff.2 ⟨ho, ha⟩
  exact ⟨ns, o, hns, hf, update_of_find? hns rfl hf hv⟩

theorem update_of_not_isCurrent (h : ¬ t.IsCurrent r) :
    (∃ detail, t.update r g = (.error (.conflict detail), t)) ∨
      (∃ detail, t.update r g = (.error (.notFound detail), t)) ∨
      t.update r g = (.error (.missingNamespace r.displayName), t) := by
  unfold update
  cases hns : r.metadata.ns with
  | none => exact .inr (.inr rfl)
  | some ns =>
    cases hf : t.find? ns r.name with
    | none => exact .inr (.inl ⟨_, by simp only [hf]; rfl⟩)
    | some o =>
      obtain ⟨ho, ha⟩ := find?_eq_some_iff.1 hf
      have hv : o.metadata.resourceVersion ≠ r.metadata.resourceVersion :=
        fun hv => h ⟨o, ho, by rw [ha, Resource.destination, hns], hv⟩
      exact .inl ⟨describe (kindOf (Resource Spec Status)) ns r.name ++ " has been modified", by
        simp only [hf, if_neg hv]⟩

theorem patch_eq_of_isCurrent (h : t.IsCurrent r) : ∃ ns, r.metadata.ns = some ns ∧
    t.patch r g = (.ok (), t.change ns r.name fun o => (g o).kept) := by
  obtain ⟨ns, o, hns, -, hu⟩ := update_of_isCurrent (g := g) h
  obtain ⟨x, hx, -, hv⟩ := h
  obtain ⟨v, hxv⟩ := Option.isSome_iff_exists.1 (t.complete x hx).2.2
  rw [hxv] at hv
  refine ⟨ns, hns, ?_⟩
  rw [patch, hns, ← hv, hu]
  rfl

/-- A patch succeeds for whoever has read what is stored, and changes that object only. -/
theorem patch_of_isCurrent (h : t.IsCurrent r) : ∃ ns f, r.metadata.ns = some ns ∧
    t.patch r g = (.ok (), t.change ns r.name f) := by
  obtain ⟨ns, hns, hp⟩ := patch_eq_of_isCurrent (g := g) h
  exact ⟨ns, _, hns, hp⟩

theorem patch_of_not_isCurrent (h : ¬ t.IsCurrent r) : ∃ e, t.patch r g = (.error e, t) := by
  unfold patch
  split
  · exact ⟨_, rfl⟩
  · rcases update_of_not_isCurrent (g := g) h with ⟨_, hu⟩ | ⟨_, hu⟩ | hu <;>
      exact ⟨_, by rw [hu]; rfl⟩

theorem create_of_free (now : Instant) (hns : r.metadata.ns = some ns)
    (hn : r.metadata.name = some name) (h : t.find? ns name = none) :
    t.create now r = (.ok ((r.created t.nextUid now).stamp ns name (t.revision + 1)),
      t.add ns name (r.created t.nextUid now) h) := by
  rw [create, hns, hn]
  simp only
  rw [dif_pos h]
  rfl

theorem create_of_taken (now : Instant) (hns : r.metadata.ns = some ns)
    (hn : r.metadata.name = some name) (h : t.find? ns name ≠ none) :
    t.create now r = (.error (.conflict
      (describe (kindOf (Resource Spec Status)) ns name ++ " already exists")), t) := by
  rw [create, hns, hn]
  exact dif_neg h

/-- Creating an object fails without a trace, or adds the object as the server makes it. -/
theorem create_cases (t : Table Spec Status) (now : Instant) (r : Resource Spec Status) :
    (∃ e, t.create now r = (.error e, t)) ∨
      ∃ ns name h, r.metadata.ns = some ns ∧ r.metadata.name = some name ∧
        t.create now r = (.ok ((r.created t.nextUid now).stamp ns name (t.revision + 1)),
          t.add ns name (r.created t.nextUid now) h) := by
  cases hns : r.metadata.ns with
  | none => exact .inl ⟨_, by rw [create, hns]⟩
  | some ns =>
    cases hn : r.metadata.name with
    | none => exact .inl ⟨_, by rw [create, hns, hn]⟩
    | some name =>
      by_cases h : t.find? ns name = none
      · exact .inr ⟨ns, name, h, rfl, rfl, create_of_free now hns hn h⟩
      · exact .inl ⟨_, create_of_taken now hns hn h⟩

end Requests

/-- A deletion changes an object that is not marked yet. -/
theorem remove_of_not_isDeleting (ho : o ∈ t.objects) (ha : o.address = (some ns, some name))
    (hd : o.isDeleting = false) (now : Instant) : ∃ f, t.remove now ns name = t.change ns name f := by
  rw [remove, find?_eq_some_iff.2 ⟨ho, ha⟩]
  simp only [hd]
  split
  · exact ⟨_, rfl⟩
  · exact ⟨_, rfl⟩

/-- A deletion leaves the table as it is or changes one object, which it marks if it keeps it. -/
theorem remove_cases (t : Table Spec Status) (now : Instant) (ns name : String) :
    t.remove now ns name = t ∨
      ∃ f, t.remove now ns name = t.change ns name f ∧ ∀ o y, f o = some y → y = o.marked now := by
  unfold remove
  cases t.find? ns name with
  | none => exact .inl rfl
  | some o =>
    simp only
    split
    · exact .inr ⟨_, rfl, by simp⟩
    · split
      · exact .inl rfl
      · exact .inr ⟨_, rfl, fun o y h => (Option.some.inj h).symm⟩

theorem find?_remove_of_ne (h : (ns', name') ≠ (ns, name)) (now : Instant) :
    (t.remove now ns name).find? ns' name' = t.find? ns' name' := by
  rcases t.remove_cases now ns name with he | ⟨f, he, -⟩
  · rw [he]
  · rw [he, find?_change_of_ne h]

/-- An object that is deleted is gone, or marked. -/
theorem find?_remove_self (ho : t.find? ns name = some o) (hd : o.isDeleting = false)
    (now : Instant) : (t.remove now ns name).find? ns name = none ∨
      ∃ n, (t.remove now ns name).find? ns name = some ((o.marked now).stamp ns name n) := by
  rw [remove, ho]
  simp only [hd]
  split
  · rw [find?_change_self, ho]
    exact .inl rfl
  · rw [if_neg Bool.false_ne_true, find?_change_self, ho]
    exact .inr ⟨_, rfl⟩

end Table

end ControlPlane
