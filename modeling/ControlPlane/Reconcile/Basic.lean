import ControlPlane.Store.Pass

/-!
# Reconcile passes

A pass ends by saying when it wants to run again without anything having happened. Objects that own
others hold a finalizer from before they create the first until the last is gone.
-/

namespace ControlPlane

/-- Seconds until a pass is to run again; `none` when it waits for a change. -/
abbrev Requeue := Option Nat

/-- Nothing is left to do until something changes. -/
def awaitChange : Requeue := none

/-- The finalizers with one more, unless it is there already. -/
def withFinalizer (finalizer : String) (current : List String) : Option (List String) :=
  if finalizer ∈ current then none else some (current ++ [finalizer])

/-- The finalizers without one, if it is there. -/
def withoutFinalizer (finalizer : String) (current : List String) : Option (List String) :=
  if finalizer ∈ current then some (current.filter (· ≠ finalizer)) else none

/-- Carries out a program for each item in turn and collects the results. -/
def Pass.collect {α β : Type} (f : α → Pass β) : List α → Pass (List β)
  | [] => return []
  | a :: rest => do
    let b ← f a
    let bs ← collect f rest
    return b :: bs

end ControlPlane
