import ControlPlane.Proofs.Server.Server

/-!
# What was read earlier

Whoever has read an object may write it much later, when the table has gone on. Versions tell whether
the object is still what was read: none is given out twice.

* `Table.Advances`: how a table goes on, write by write (`Server.advances_answer`).
* `Table.Known`: what was read is stored unchanged, or not under its version. A table that goes on
  keeps this (`Known.advances`).
* `mem_create`, `mem_update`, `mem_delete`: what is stored after a write.
-/

namespace ControlPlane

namespace Table

variable {Spec Status : Type} {t t' : Table Spec Status} {r o x : Resource Spec Status}
  {ns name : String}

/-! ## How a table goes on -/

/-- The objects are those there were, or have versions that were given out since. -/
structure Advances (t t' : Table Spec Status) : Prop where
  revision : t.revision ≤ t'.revision
  fresh : ∀ x ∈ t'.objects, x ∈ t.objects ∨
    ∃ n, t.revision < n ∧ x.metadata.resourceVersion = some (Nat.repr n)

theorem Advances.refl (t : Table Spec Status) : t.Advances t :=
  ⟨Nat.le_refl _, fun _ hx => .inl hx⟩

theorem Advances.trans {t'' : Table Spec Status} (h : t.Advances t') (h' : t'.Advances t'') :
    t.Advances t'' := by
  refine ⟨Nat.le_trans h.revision h'.revision, fun x hx => ?_⟩
  obtain hx | ⟨n, hn, hv⟩ := h'.fresh x hx
  · exact h.fresh x hx
  · exact .inr ⟨n, Nat.lt_of_le_of_lt h.revision hn, hv⟩

theorem advances_change (t : Table Spec Status) (ns name : String)
    (f : Resource Spec Status → Option (Resource Spec Status)) :
    t.Advances (t.change ns name f) := by
  refine ⟨Nat.le_succ _, fun x hx => ?_⟩
  rcases mem_change.1 hx with ⟨hx, -⟩ | ⟨o, y, -, -, rfl⟩
  · exact .inl hx
  · exact .inr ⟨_, Nat.lt_succ_self _, rfl⟩

theorem advances_add (h : t.find? ns name = none) : t.Advances (t.add ns name r h) := by
  refine ⟨Nat.le_succ _, fun x hx => ?_⟩
  rcases List.mem_append.1 hx with hx | hx
  · exact .inl hx
  · rw [List.mem_singleton.1 hx]
    exact .inr ⟨_, Nat.lt_succ_self _, rfl⟩

theorem advances_remove (t : Table Spec Status) (now : Instant) (ns name : String) :
    t.Advances (t.remove now ns name) := by
  rcases t.remove_cases now ns name with h | ⟨f, h, -⟩ <;> rw [h]
  · exact .refl t
  · exact t.advances_change ns name f

theorem advances_delete (t : Table Spec Status) (now : Instant) (r : Resource Spec Status) :
    t.Advances (t.delete now r).2 := by
  unfold delete
  split
  · exact .refl t
  · exact t.advances_remove now _ _

section Requests

variable [OfKind (Resource Spec Status)] {f : Resource Spec Status → Resource Spec Status}
  (now : Instant)

theorem advances_create (t : Table Spec Status) (r : Resource Spec Status) :
    t.Advances (t.create now r).2 := by
  rcases t.create_cases now r with ⟨e, h⟩ | ⟨ns, name, hf, -, -, h⟩ <;> rw [h]
  · exact .refl t
  · exact advances_add hf

/-- An update is refused without a trace, or changes the object that its writer has read. -/
theorem update_cases (t : Table Spec Status) (r : Resource Spec Status)
    (f : Resource Spec Status → Resource Spec Status) :
    (t.update r f).2 = t ∨ ∃ ns o, t.find? ns r.name = some o ∧ o.address = r.destination ∧
      o.metadata.resourceVersion = r.metadata.resourceVersion ∧
      (t.update r f).2 = t.change ns r.name fun o => (f o).kept := by
  by_cases h : t.IsCurrent r
  · obtain ⟨ns, o, hns, ho, hu⟩ := update_of_isCurrent (g := f) h
    obtain ⟨x, hx, ha, hv⟩ := h
    obtain ⟨hm, ha'⟩ := find?_eq_some_iff.1 ho
    have hd : o.address = r.destination := by rw [ha', Resource.destination, hns]
    cases eq_of_address_eq hx hm (ha.trans hd.symm)
    exact .inr ⟨ns, o, ho, hd, hv, by rw [hu]⟩
  · left
    rcases update_of_not_isCurrent (g := f) h with ⟨_, hu⟩ | ⟨_, hu⟩ | hu <;> rw [hu]

/-- A patch is refused without a trace, or is an update. -/
theorem patch_cases (t : Table Spec Status) (r : Resource Spec Status)
    (f : Resource Spec Status → Resource Spec Status) :
    (t.patch r f).2 = t ∨ (t.patch r f).2 = (t.update r f).2 := by
  unfold patch
  split
  · exact .inl rfl
  · exact .inr rfl

theorem advances_update (t : Table Spec Status) (r : Resource Spec Status)
    (f : Resource Spec Status → Resource Spec Status) : t.Advances (t.update r f).2 := by
  rcases t.update_cases r f with h | ⟨ns, o, -, -, -, h⟩ <;> rw [h]
  · exact .refl t
  · exact t.advances_change ns r.name _

theorem advances_patch (t : Table Spec Status) (r : Resource Spec Status)
    (f : Resource Spec Status → Resource Spec Status) : t.Advances (t.patch r f).2 := by
  rcases t.patch_cases r f with h | h <;> rw [h]
  · exact .refl t
  · exact t.advances_update r f

/-! ## What is stored after a write -/

theorem mem_create (h : x ∈ (t.create now r).2.objects) : x ∈ t.objects ∨
    (∀ o ∈ t.objects, o.address ≠ x.address) ∧ ∃ ns name, r.metadata.ns = some ns ∧
      r.metadata.name = some name ∧
      x = (r.created t.nextUid now).stamp ns name (t.revision + 1) := by
  rcases t.create_cases now r with ⟨e, hc⟩ | ⟨ns, name, hf, hns, hname, hc⟩
  · rw [hc] at h
    exact .inl h
  · rw [hc] at h
    rcases List.mem_append.1 h with hx | hx
    · exact .inl hx
    · rw [List.mem_singleton.1 hx]
      exact .inr ⟨find?_eq_none_iff.1 hf, ns, name, hns, hname, rfl⟩

theorem mem_update (h : x ∈ (t.update r f).2.objects) : x ∈ t.objects ∨
    ∃ o ∈ t.objects, o.address = x.address ∧ o.address = r.destination ∧
      o.metadata.resourceVersion = r.metadata.resourceVersion ∧
      ∃ ns name n, x = (f o).stamp ns name n := by
  rcases t.update_cases r f with hu | ⟨ns, o, ho, hd, hv, hu⟩
  · rw [hu] at h
    exact .inl h
  · rw [hu] at h
    rcases mem_change.1 h with ⟨hx, -⟩ | ⟨o', y, ho', hy, rfl⟩
    · exact .inl hx
    · cases ho.symm.trans ho'
      obtain ⟨hm, ha⟩ := find?_eq_some_iff.1 ho
      have hy' : f o = y := by
        rw [Resource.kept] at hy
        split at hy
        · cases hy
        · exact Option.some.inj hy
      exact .inr ⟨o, hm, ha, hd, hv, ns, r.name, _, by rw [hy']⟩

theorem mem_patch (h : x ∈ (t.patch r f).2.objects) : x ∈ t.objects ∨
    ∃ o ∈ t.objects, o.address = x.address ∧ o.address = r.destination ∧
      o.metadata.resourceVersion = r.metadata.resourceVersion ∧
      ∃ ns name n, x = (f o).stamp ns name n := by
  rcases t.patch_cases r f with hp | hp
  · rw [hp] at h
    exact .inl h
  · rw [hp] at h
    exact mem_update h

end Requests

theorem mem_delete (now : Instant) (h : x ∈ (t.delete now r).2.objects) : x ∈ t.objects ∨
    ∃ o ∈ t.objects, o.address = x.address ∧ ∃ ns name n, x = (o.marked now).stamp ns name n := by
  unfold delete at h
  split at h
  · exact .inl h
  · next ns hns =>
    rcases t.remove_cases now ns r.name with hr | ⟨f, hr, hf⟩
    · rw [hr] at h
      exact .inl h
    · rw [hr] at h
      rcases mem_change.1 h with ⟨hx, -⟩ | ⟨o, y, ho, hy, rfl⟩
      · exact .inl hx
      · obtain ⟨hm, ha⟩ := find?_eq_some_iff.1 ho
        exact .inr ⟨o, hm, ha, ns, r.name, _, by rw [hf o y hy]⟩

/-! ## What stays after a write -/

section Requests

variable [OfKind (Resource Spec Status)] {f : Resource Spec Status → Resource Spec Status}

theorem mem_create_of_mem (now : Instant) (r : Resource Spec Status) (ho : o ∈ t.objects) :
    o ∈ (t.create now r).2.objects := by
  rcases t.create_cases now r with ⟨e, hc⟩ | ⟨ns, name, hf, -, -, hc⟩ <;> rw [hc]
  · exact ho
  · exact List.mem_append_left _ ho

/-- An object stays as it is, or it is the one that is updated. -/
theorem mem_or_updated (r : Resource Spec Status) (f : Resource Spec Status → Resource Spec Status)
    (ho : o ∈ t.objects) : o ∈ (t.update r f).2.objects ∨
      o.address = r.destination ∧ o.metadata.resourceVersion = r.metadata.resourceVersion ∧
        ∀ y, (f o).kept = some y → ∃ ns name n, o.address = (some ns, some name) ∧
          y.stamp ns name n ∈ (t.update r f).2.objects := by
  rcases t.update_cases r f with h | ⟨ns, o', ho', hd, hv, h⟩ <;> rw [h]
  · exact .inl ho
  · obtain ⟨hm, ha⟩ := find?_eq_some_iff.1 ho'
    by_cases hne : o.address = (some ns, some r.name)
    · cases eq_of_address_eq ho hm (hne.trans ha.symm)
      exact .inr ⟨hd, hv, fun y hy => ⟨ns, r.name, _, ha, mem_change.2 (.inr ⟨o, y, ho', hy, rfl⟩)⟩⟩
    · exact .inl ((mem_change_of_ne hne).2 ho)

end Requests

theorem exists_of_remove (now : Instant) (ns name : String) (ho : o ∈ t.objects)
    (hf : o.finalizers ≠ []) : ∃ x ∈ (t.remove now ns name).objects, x.address = o.address ∧
      x.metadata.uid = o.metadata.uid ∧ x.finalizers = o.finalizers := by
  by_cases ha : o.address = (some ns, some name)
  · have hfind : t.find? ns name = some o := find?_eq_some_iff.2 ⟨ho, ha⟩
    have hempty : ¬ o.finalizers.isEmpty = true := by simpa using hf
    rw [remove, hfind]
    simp only [if_neg hempty]
    split
    · exact ⟨o, ho, rfl, rfl, rfl⟩
    · exact ⟨_, mem_change.2 (.inr ⟨o, _, hfind, rfl, rfl⟩), ha.symm, rfl, rfl⟩
  · refine ⟨o, ?_, rfl, rfl, rfl⟩
    rcases t.remove_cases now ns name with h | ⟨f, h, -⟩ <;> rw [h]
    · exact ho
    · exact (mem_change_of_ne ha).2 ho

/-- An object that holds a finalizer outlives its deletion. -/
theorem exists_of_delete (now : Instant) (r : Resource Spec Status) (ho : o ∈ t.objects)
    (hf : o.finalizers ≠ []) : ∃ x ∈ (t.delete now r).2.objects, x.address = o.address ∧
      x.metadata.uid = o.metadata.uid ∧ x.finalizers = o.finalizers := by
  unfold delete
  split
  · exact ⟨o, ho, rfl, rfl, rfl⟩
  · exact exists_of_remove now _ _ ho hf

/-! ## What was read -/

/-- The object was stored once: it still is, or another version is stored in its place. -/
structure Known (t : Table Spec Status) (r : Resource Spec Status) : Prop where
  unused : ∀ n, t.revision < n → r.metadata.resourceVersion ≠ some (Nat.repr n)
  unchanged : ∀ o ∈ t.objects, o.address = r.destination →
    o.metadata.resourceVersion = r.metadata.resourceVersion → o = r

theorem known_of_mem (h : r ∈ t.objects) : t.Known r where
  unused := t.unused r h
  unchanged _ ho ha _ := eq_of_address_eq ho h (ha.trans (address_eq_of_mem h).symm)

theorem Known.advances (h : t.Known r) (ht : t.Advances t') : t'.Known r where
  unused n hn := h.unused n (Nat.lt_of_le_of_lt ht.revision hn)
  unchanged o ho ha hv := by
    rcases ht.fresh o ho with hm | ⟨n, hn, he⟩
    · exact h.unchanged o hm ha hv
    · exact absurd (hv.symm.trans he) (h.unused n hn)

end Table

/-- Whatever the server is asked, its instances go on. -/
theorem Server.advances_answer (s : Server) (now : Instant) (c : Call) :
    s.instances.Advances (Server.answer now c s).2.instances := by
  cases c with
  | createInstance i => exact s.instances.advances_create now i
  | replaceInstance i => exact s.instances.advances_update i _
  | deleteInstance i => exact s.instances.advances_delete now i
  | patchInstanceStatus i status => exact s.instances.advances_patch i _
  | setSchedulingGates i gates => exact s.instances.advances_patch i _
  | _ => exact .refl _

/-- And so do its deployments. -/
theorem Server.deployments_advance (s : Server) (now : Instant) (c : Call) :
    s.deployments.Advances (Server.answer now c s).2.deployments := by
  cases c with
  | createDeployment d => exact s.deployments.advances_create now d
  | replaceDeployment d => exact s.deployments.advances_update d _
  | deleteDeployment d => exact s.deployments.advances_delete now d
  | patchDeploymentStatus d status => exact s.deployments.advances_patch d _
  | setDeploymentFinalizers d finalizers => exact s.deployments.advances_patch d _
  | _ => exact .refl _

end ControlPlane
