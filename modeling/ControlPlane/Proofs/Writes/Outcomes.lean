import ControlPlane.Proofs.Writes.Stores

/-!
# What a pass comes to

The result of a pass, the store that it leaves and what it has written on the way belong together:
`Pass.Yields` states all three, and is put together from the parts of a pass.

* `Yields.bind`, `Yields.bind_nil`, `Yields.bind_error`: a pass in two parts writes what both write, and ends with the first
  part that fails.
* `Yields.bind_read`: what is read before a part adds nothing to its writes.
-/

namespace ControlPlane

namespace Pass

variable {α β σ : Type} {answer : Answer σ} {p : Pass α} {f : α → Pass β} {s m t u : σ}
  {ws ws' : List Call} {a : α} {e : Error} {c : Call}

/-- Over the store `s` the pass comes to a result and leaves the store `t`, by these writes. -/
structure Yields (answer : Answer σ) (p : Pass α) (s : σ) (ws : List Call) (result : Except Error α)
    (t : σ) : Prop where
  run : p.run answer s = (result, t)
  writes : p.writes answer s = ws

theorem yields_done : (done a).Yields answer s [] (.ok a) s :=
  ⟨rfl, rfl⟩

theorem yields_abort : (abort e : Pass α).Yields answer s [] (.error e) s :=
  ⟨rfl, rfl⟩

theorem yields_perform {result : Except Error c.Reply} (hc : c.isWrite = true)
    (h : answer c s = (result, t)) : (perform c).Yields answer s [c] result t :=
  ⟨by rw [run_perform, h], writes_perform hc⟩

theorem Yields.bind {result : Except Error β} (hp : p.Yields answer s ws (.ok a) m)
    (hf : (f a).Yields answer m ws' result t) :
    (p.bind f).Yields answer s (ws ++ ws') result t := by
  refine ⟨(run_bind_of_ok hp.run f).trans hf.run, ?_⟩
  rw [writes_bind, hp.writes, hp.run]
  exact congrArg _ hf.writes

/-- A second part that writes nothing adds nothing. -/
theorem Yields.bind_nil {result : Except Error β} (hp : p.Yields answer s ws (.ok a) m)
    (hf : (f a).Yields answer m [] result t) : (p.bind f).Yields answer s ws result t := by
  have hboth := hp.bind hf
  rwa [List.append_nil] at hboth

theorem Yields.bind_error (hp : p.Yields answer s ws (.error e) t) :
    (p.bind f).Yields answer s ws (.error e) t := by
  refine ⟨run_bind_of_error hp.run f, ?_⟩
  rw [writes_bind, hp.writes, hp.run]
  exact List.append_nil ws

/-- What is read before a part adds nothing to its writes. -/
theorem Yields.bind_read {r : c.Reply} {f : c.Reply → Pass β} {result : Except Error β}
    (hc : c.isWrite = false) (h : answer c s = (.ok r, s))
    (hf : (f r).Yields answer s ws result t) : ((perform c).bind f).Yields answer s ws result t := by
  have hread : (perform c).Yields answer s [] (.ok r) s :=
    ⟨by rw [run_perform, h], (only_perform (by rw [Call.reads, hc]; rfl)).writes_eq_nil⟩
  exact hread.bind hf

/-- The pass succeeds without any write. -/
def OnlyReads (answer : Answer σ) (p : Pass α) (s : σ) : Prop :=
  ∃ a, p.Yields answer s [] (.ok a) s

theorem onlyReads_done : (done a).OnlyReads answer s :=
  ⟨a, yields_done⟩

theorem onlyReads_bind_read {r : c.Reply} {f : c.Reply → Pass β} (hc : c.isWrite = false)
    (h : answer c s = (.ok r, s)) (hf : (f r).OnlyReads answer s) :
    ((perform c).bind f).OnlyReads answer s :=
  hf.imp fun _ => Yields.bind_read hc h

end Pass

end ControlPlane
