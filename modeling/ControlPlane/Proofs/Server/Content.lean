import Mathlib.Logic.Function.Basic
import ControlPlane.Proofs.Server.Table

/-!
# What tables hold, as it was written

Two runs that write the same do not leave the same: the server gives each object it is asked for a uid
and a version of its own, and puts down when. What is left when these are put aside is the content of
a table, and every write changes it at one address.

* `Resource.asWritten`: an object without what the server assigns.
* `Table.content`: what a table holds at each address.
* `content_change`, `content_add`, `content_remove`: what a write makes of the content.
-/

namespace ControlPlane

namespace Resource

variable {Spec Status : Type} {r : Resource Spec Status} {ns name : String}

/-- The object without what the server assigns: the uid, the version and the times. That an object is
being deleted is left in it. -/
def asWritten (r : Resource Spec Status) : Resource Spec Status :=
  { r with
    metadata := { r.metadata with
      uid := none
      resourceVersion := none
      creationTimestamp := none
      deletionTimestamp := r.metadata.deletionTimestamp.map fun _ => ⟨0, 0⟩ } }

@[simp] theorem asWritten_spec : r.asWritten.spec = r.spec := rfl

@[simp] theorem asWritten_finalizers : r.asWritten.finalizers = r.finalizers := rfl

@[simp] theorem asWritten_label? (l : String) : r.asWritten.label? l = r.label? l := rfl

@[simp] theorem asWritten_isDeleting : r.asWritten.isDeleting = r.isDeleting := by
  rw [isDeleting, isDeleting, asWritten, Option.isSome_map]

theorem asWritten_stamp (h : r.address = (some ns, some name)) (n : Nat) :
    (r.stamp ns name n).asWritten = r.asWritten := by
  rw [address, Prod.mk.injEq] at h
  simp only [stamp, asWritten, h.1, h.2]

/-- What deleting makes of an object as it was written. -/
def removed (r : Resource Spec Status) : Option (Resource Spec Status) :=
  if r.finalizers.isEmpty then none else some (r.marked ⟨0, 0⟩)

/-- Deleting again changes nothing. -/
theorem bind_removed_removed (o : Option (Resource Spec Status)) :
    (o.bind removed).bind removed = o.bind removed := by
  cases o with
  | none => rfl
  | some r =>
    rw [Option.bind_some, removed]
    split
    · rfl
    · next h => exact if_neg h

theorem removed_of_isDeleting (hd : r.isDeleting = true) (hf : r.finalizers.isEmpty = false) :
    r.asWritten.removed = some r.asWritten := by
  obtain ⟨at_, hat⟩ := Option.isSome_iff_exists.1 hd
  rw [removed, asWritten_finalizers, hf, if_neg Bool.false_ne_true]
  simp only [marked, asWritten, hat, Option.map_some]

end Resource

namespace Table

variable {Spec Status : Type} {t : Table Spec Status} {r o : Resource Spec Status}
  {ns name : String} {f : Resource Spec Status → Option (Resource Spec Status)}

/-- What the table holds at an address, as it was written. -/
def content (t : Table Spec Status) (address : String × String) : Option (Resource Spec Status) :=
  (t.find? address.1 address.2).map Resource.asWritten

theorem content_change : (t.change ns name f).content = Function.update t.content (ns, name)
    (((t.find? ns name).bind f).map fun y => (y.stamp ns name (t.revision + 1)).asWritten) := by
  funext a
  by_cases h : a = (ns, name)
  · subst h
    rw [Function.update_self, content, find?_change_self, Option.map_map]
    rfl
  · rw [Function.update_of_ne h, content, find?_change_of_ne h, content]

theorem content_add (h : t.find? ns name = none) : (t.add ns name r h).content =
    Function.update t.content (ns, name) (some (r.stamp ns name (t.revision + 1)).asWritten) := by
  funext a
  by_cases ha : a = (ns, name)
  · subst ha
    rw [Function.update_self, content, find?_add_self, Option.map_some]
  · rw [Function.update_of_ne ha, content, find?_add_of_ne h ha, content]

theorem content_remove (now : Instant) : (t.remove now ns name).content =
    Function.update t.content (ns, name) ((t.content (ns, name)).bind Resource.removed) := by
  cases ho : t.find? ns name with
  | none =>
    have hc : t.content (ns, name) = none := by rw [content, ho, Option.map_none]
    rw [hc, Option.bind_none, remove, ho]
    exact (Function.update_eq_self_iff.2 hc.symm).symm
  | some o =>
    have hc : t.content (ns, name) = some o.asWritten := by rw [content, ho, Option.map_some]
    rw [hc, Option.bind_some, remove, ho]
    simp only
    cases hf : o.finalizers.isEmpty with
    | true =>
      rw [if_pos rfl, content_change, ho, Resource.removed, Resource.asWritten_finalizers, if_pos hf]
      rfl
    | false =>
      rw [if_neg Bool.false_ne_true]
      cases hd : o.isDeleting with
      | true =>
        rw [if_pos rfl, Resource.removed_of_isDeleting hd hf]
        exact (Function.update_eq_self_iff.2 hc.symm).symm
      | false =>
        have ha : (o.marked now).address = (some ns, some name) := (find?_eq_some_iff.1 ho).2
        rw [if_neg Bool.false_ne_true, content_change, ho, Option.bind_some, Option.map_some,
          Resource.asWritten_stamp ha, Resource.removed, Resource.asWritten_finalizers, hf]
        rfl

theorem content_eq_some_iff {address : String × String} {x : Resource Spec Status} :
    t.content address = some x ↔ ∃ o, t.find? address.1 address.2 = some o ∧ o.asWritten = x :=
  Option.map_eq_some_iff

end Table

end ControlPlane
