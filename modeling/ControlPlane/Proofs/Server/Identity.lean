import ControlPlane.Proofs.Server.Snapshots

/-!
# Who is who

A table that was empty at first has given every object in it its uid. An object keeps its uid while
it is stored, and none is given out twice, so that objects with one uid are the same object at
different times (`address_eq_of_uid_eq`).

* `Table.KeepsUids`: how the uids in a table go on (`Server.deployments_keepUids`).
-/

namespace ControlPlane

namespace Table

variable {Spec Status : Type} [OfKind (Resource Spec Status)] {t t' : Table Spec Status}
  {r x y : Resource Spec Status}

theorem uidOf_injective (α : Type) [OfKind α] : Function.Injective (uidOf α) := by
  intro m n h
  have htext := congrArg String.toList h
  simp only [uidOf, String.toList_append, List.append_cancel_left_eq] at htext
  exact Text.repr_injective (String.toList_inj.1 htext)

/-- The objects are those there were, under their uids, and perhaps one that was created since. -/
structure KeepsUids (t t' : Table Spec Status) : Prop where
  revision : t.revision ≤ t'.revision
  origin : ∃ a, ∀ x ∈ t'.objects,
    (∃ o ∈ t.objects, o.address = x.address ∧ o.metadata.uid = x.metadata.uid) ∨
      x.address = a ∧ x.metadata.uid = some t.nextUid ∧ t.revision < t'.revision

/-- A table into which nothing was put. -/
theorem keepsUids_of_kept (hrev : t.revision ≤ t'.revision)
    (h : ∀ x ∈ t'.objects, ∃ o ∈ t.objects, o.address = x.address ∧
      o.metadata.uid = x.metadata.uid) : t.KeepsUids t' :=
  ⟨hrev, (none, none), fun x hx => .inl (h x hx)⟩

theorem KeepsUids.refl (t : Table Spec Status) : t.KeepsUids t :=
  keepsUids_of_kept (Nat.le_refl _) fun x hx => ⟨x, hx, rfl, rfl⟩

theorem keepsUids_create (now : Instant) (t : Table Spec Status) (r : Resource Spec Status) :
    t.KeepsUids (t.create now r).2 := by
  have hadv := t.advances_create now r
  refine ⟨hadv.revision, r.address, fun x hx => ?_⟩
  obtain hold | ⟨-, ns, name, hns, hname, rfl⟩ := mem_create now hx
  · exact .inl ⟨x, hold, rfl, rfl⟩
  · refine .inr ⟨Prod.ext hns.symm hname.symm, rfl, ?_⟩
    -- the new version has been given out
    by_contra hle
    exact (t.create now r).2.unused _ hx (t.revision + 1) (by omega) rfl

theorem keepsUids_update (t : Table Spec Status) (r : Resource Spec Status)
    (f : Resource Spec Status → Resource Spec Status)
    (hf : ∀ o, (f o).metadata.uid = o.metadata.uid) : t.KeepsUids (t.update r f).2 := by
  refine keepsUids_of_kept (t.advances_update r f).revision fun x hx => ?_
  obtain hold | ⟨o, ho, ha, -, -, ns, name, n, rfl⟩ := mem_update hx
  · exact ⟨x, hold, rfl, rfl⟩
  · exact ⟨o, ho, ha, (hf o).symm⟩

theorem keepsUids_patch (t : Table Spec Status) (r : Resource Spec Status)
    (f : Resource Spec Status → Resource Spec Status)
    (hf : ∀ o, (f o).metadata.uid = o.metadata.uid) : t.KeepsUids (t.patch r f).2 := by
  rcases t.patch_cases r f with h | h <;> rw [h]
  · exact .refl t
  · exact t.keepsUids_update r f hf

theorem keepsUids_delete (now : Instant) (t : Table Spec Status) (r : Resource Spec Status) :
    t.KeepsUids (t.delete now r).2 := by
  refine keepsUids_of_kept (t.advances_delete now r).revision fun x hx => ?_
  obtain hold | ⟨o, ho, ha, ns, name, n, rfl⟩ := mem_delete now hx
  · exact ⟨x, hold, rfl, rfl⟩
  · exact ⟨o, ho, ha, rfl⟩

/-! ## Tables that go on -/

variable {t : Nat → Table Spec Status} {m n : Nat}

theorem revision_mono (hstep : ∀ n, (t n).KeepsUids (t (n + 1))) (hmn : m ≤ n) :
    (t m).revision ≤ (t n).revision := by
  induction hmn with
  | refl => exact Nat.le_refl _
  | @step n _ ih => exact Nat.le_trans ih (hstep n).revision

theorem exists_uidOf (h0 : (t 0).objects = []) (hstep : ∀ n, (t n).KeepsUids (t (n + 1)))
    (hx : x ∈ (t n).objects) :
    ∃ k ≤ (t n).revision, x.metadata.uid = some (uidOf (Resource Spec Status) k) := by
  induction n generalizing x with
  | zero =>
    rw [h0] at hx
    cases hx
  | succ n ih =>
    obtain ⟨hrev, a, horigin⟩ := hstep n
    obtain ⟨o, ho, -, hu⟩ | ⟨-, hu, hlt⟩ := horigin x hx
    · obtain ⟨k, hk, he⟩ := ih ho
      exact ⟨k, Nat.le_trans hk hrev, hu ▸ he⟩
    · exact ⟨_, hlt, hu⟩

/-- The next uid is one that no object had so far. -/
theorem uid_ne_nextUid (h0 : (t 0).objects = []) (hstep : ∀ n, (t n).KeepsUids (t (n + 1)))
    (hmn : m ≤ n) (hx : x ∈ (t m).objects) : x.metadata.uid ≠ some (t n).nextUid := by
  obtain ⟨k, hk, hu⟩ := exists_uidOf h0 hstep hx
  intro h
  have hkn := uidOf_injective _ (Option.some.inj (hu.symm.trans h))
  have := revision_mono hstep hmn
  omega

theorem address_eq_of_le (h0 : (t 0).objects = []) (hstep : ∀ n, (t n).KeepsUids (t (n + 1)))
    (hmn : m ≤ n) (hx : x ∈ (t m).objects) (hy : y ∈ (t n).objects)
    (h : x.metadata.uid = y.metadata.uid) : x.address = y.address := by
  induction n generalizing m x y with
  | zero =>
    rw [h0] at hy
    cases hy
  | succ n ih =>
    obtain ⟨a, horigin⟩ := (hstep n).origin
    have hfresh {m : Nat} {z : Resource Spec Status} (hm : m ≤ n) (hz : z ∈ (t m).objects) :
        z.metadata.uid ≠ some (t n).nextUid := uid_ne_nextUid h0 hstep hm hz
    obtain hm | rfl := Nat.le_succ_iff.1 hmn
    · obtain ⟨o, ho, ha, hu⟩ | ⟨-, hu, -⟩ := horigin y hy
      · exact (ih hm hx ho (h.trans hu.symm)).trans ha
      · exact absurd (h.trans hu) (hfresh hm hx)
    · obtain ⟨o, ho, ha, hu⟩ | ⟨ha, hu, -⟩ := horigin y hy
      · obtain ⟨o', ho', ha', hu'⟩ | ⟨-, hu', -⟩ := horigin x hx
        · exact (ha'.symm.trans (ih (Nat.le_refl n) ho' ho (hu'.trans (h.trans hu.symm)))).trans ha
        · exact absurd (hu.trans (h.symm.trans hu')) (hfresh (Nat.le_refl n) ho)
      · obtain ⟨o', ho', -, hu'⟩ | ⟨ha', -, -⟩ := horigin x hx
        · exact absurd (hu'.trans (h.trans hu)) (hfresh (Nat.le_refl n) ho')
        · exact ha'.trans ha.symm

/-- Objects with one uid are the same object, whenever they were stored. -/
theorem address_eq_of_uid_eq (h0 : (t 0).objects = []) (hstep : ∀ n, (t n).KeepsUids (t (n + 1)))
    (hx : x ∈ (t m).objects) (hy : y ∈ (t n).objects) (h : x.metadata.uid = y.metadata.uid) :
    x.address = y.address := by
  obtain hmn | hnm := Nat.le_total m n
  · exact address_eq_of_le h0 hstep hmn hx hy h
  · exact (address_eq_of_le h0 hstep hnm hy hx h.symm).symm

end Table

/-- Whatever the server is asked, its deployments keep their uids. -/
theorem Server.deployments_keepUids (s : Server) (now : Instant) (c : Call) :
    s.deployments.KeepsUids (Server.answer now c s).2.deployments := by
  cases c with
  | createDeployment d => exact s.deployments.keepsUids_create now d
  | replaceDeployment d => exact s.deployments.keepsUids_update d _ fun _ => rfl
  | deleteDeployment d => exact s.deployments.keepsUids_delete now d
  | patchDeploymentStatus d status => exact s.deployments.keepsUids_patch d _ fun _ => rfl
  | setDeploymentFinalizers d finalizers => exact s.deployments.keepsUids_patch d _ fun _ => rfl
  | _ => exact .refl _

end ControlPlane
