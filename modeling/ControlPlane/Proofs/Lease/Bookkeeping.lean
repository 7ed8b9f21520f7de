import ControlPlane.Proofs.Lease.Exclusion

/-!
# The books that a lease keeps

Every write that the server accepts is a deed of a candidate: it creates the lease, takes it over, renews
or releases it. From the deeds alone, the latest first, follows what the lease records
(`LeaseSpec.after`), however the candidates' steps interleave.

* `Does`: the deed that a write is, by what the candidate has read and decided.
* `Run`: what the candidates have done on the way to a world.
* `lease_records_deeds`: the lease records the deeds of any run that starts without a lease, a renewal
  changes only the time of renewal, and a release only the holder.
-/

namespace ControlPlane

open Election

/-! ## Times -/

theorem Instant.micros_micros (t : Instant) : t.micros.micros = t.micros := by
  simp only [micros, Nat.mul_div_cancel _ (by decide : 0 < 1000)]

/-- A time as a lease records it. -/
def MicroTime.recorded (t : Int) : MicroTime :=
  ⟨(Instant.ofNanos t).micros⟩

namespace Election

/-! ## Deeds -/

/-- What a candidate has done to the lease, and when. -/
inductive Deed where
  | create (identity : String) (time : Int)
  | takeOver (identity : String) (time : Int)
  | renew (identity : String) (time : Int)
  | release (identity : String)
deriving DecidableEq

namespace Deed

/-- The candidate that holds the lease by this. -/
def holder? : Deed → Option String
  | create identity _ | takeOver identity _ | renew identity _ => some identity
  | release _ => none

/-- The time of a claim. -/
def claimed? : Deed → Option Int
  | create _ t | takeOver _ t | renew _ t => some t
  | release _ => none

/-- The time of a claim that does not only renew. -/
def acquired? : Deed → Option Int
  | create _ t | takeOver _ t => some t
  | renew .. | release _ => none

/-- Whether the lease passes to another holder, who may have held it before. -/
def isTakeover : Deed → Bool
  | takeOver .. => true
  | _ => false

end Deed

end Election

/-- The lease under another version, its specification changed. -/
def Lease.revised (l : Lease) (version : Nat) (change : LeaseSpec → LeaseSpec) : Lease where
  metadata := { l.metadata with resourceVersion := some (Nat.repr version) }
  spec := l.spec.map change

/-- What a lease records after these deeds, the latest of which comes first. -/
def LeaseSpec.after (deeds : List Deed) : LeaseSpec where
  holderIdentity := deeds.head?.bind Deed.holder?
  acquireTime := (deeds.findSome? Deed.acquired?).map MicroTime.recorded
  renewTime := (deeds.findSome? Deed.claimed?).map MicroTime.recorded
  leaseTransitions := some (.ofNat (deeds.countP Deed.isTakeover))
  leaseDurationSeconds := some leaseSeconds

namespace Election

variable {name identity : String} {w₀ w w' : World} {p : Purpose} {found : Option Lease} {l : Lease}
  {decided stamped : Int} {write : LeaseWrite} {version : Nat} {d : Deed} {deeds : List Deed}

/-- The deed that a write is. Whether a candidate takes the lease over or renews it is what it has decided
by what it has read. -/
inductive Does (name : String) (p : Purpose) (identity : String) (found : Option Lease)
    (decided stamped : Int) : Deed → LeaseWrite → Prop
  | create (purpose : p = .acquire) (absent : found = none) :
    Does name p identity found decided stamped (.create identity stamped)
      (.create (.created name identity (.ofNanos stamped)))
  | takeOver {l : Lease} (purpose : p = .acquire) (is : found = some l)
    (decides : LeaseSpec.decision l.spec identity (.ofNanos decided) = .takeOver) :
    Does name p identity found decided stamped (.takeOver identity stamped)
      (.replace (l.claimed identity (.ofNanos stamped) true))
  | renew {l : Lease} (purpose : p ≠ .release) (is : found = some l)
    (decides : LeaseSpec.decision l.spec identity (.ofNanos decided) = .renew) :
    Does name p identity found decided stamped (.renew identity stamped)
      (.replace (l.claimed identity (.ofNanos stamped) false))
  | release {l : Lease} (purpose : p = .release) (is : found = some l)
    (holder : l.holder? = some identity) :
    Does name p identity found decided stamped (.release identity) (.replace l.released)

theorem Does.write?_eq (h : Does name p identity found decided stamped d write) :
    p.write? name identity found decided stamped = some write := by
  cases h with
  | create purpose absent =>
    subst purpose absent
    rfl
  | takeOver purpose is decides =>
    subst purpose is
    exact write?_of_takeOver decides
  | renew purpose is decides =>
    subst is
    cases p with
    | acquire => rw [Purpose.write?, acquireWrite, decides]
    | renew => rw [Purpose.write?, Option.bind_some, renewWrite, if_pos decides]
    | release => exact absurd rfl purpose
  | release purpose is holder =>
    subst purpose is
    rw [Purpose.write?, Option.bind_some, releaseWrite, if_pos holder]

/-- Every write is a deed. -/
theorem exists_does (h : p.write? name identity found decided stamped = some write) :
    ∃ d, Does name p identity found decided stamped d write := by
  cases found with
  | none =>
    cases p with
    | acquire =>
      cases h
      exact ⟨_, .create rfl rfl⟩
    | renew | release => cases h
  | some l =>
    cases p with
    | acquire =>
      rw [Purpose.write?, acquireWrite] at h
      cases hd : LeaseSpec.decision l.spec identity (.ofNanos decided) <;>
        rw [hd] at h <;> cases h
      · exact ⟨_, .renew (by decide) rfl hd⟩
      · exact ⟨_, .takeOver rfl rfl hd⟩
    | renew =>
      rw [Purpose.write?, Option.bind_some, renewWrite] at h
      split at h <;> cases h
      next hd => exact ⟨_, .renew (by decide) rfl hd⟩
    | release =>
      rw [Purpose.write?, Option.bind_some, releaseWrite] at h
      split at h <;> cases h
      next hh => exact ⟨_, .release rfl rfl hh⟩

/-! ## Runs -/

/-- The server accepts a write, which is this deed. -/
inductive Accepted (name : String) (w : World) : Deed → World → Prop
  | intro {i : Nat} {a : Attempt} {found : Option Lease} {decided stamped : Int} {d : Deed}
    {write : LeaseWrite} {version : Nat} (is : w.attempts i = some a)
    (stage : a.stage = .ready found decided stamped)
    (does : Does name a.purpose a.identity found decided stamped d write)
    (accepts : w.Accepts write) (new : w.revision < version) :
    Accepted name w d (w.accept i a write stamped version)

theorem Accepted.step (h : Accepted name w d w') : World.Step name w w' := by
  obtain ⟨is, stage, does, accepts, new⟩ := h
  exact .accept is stage does.write?_eq accepts new

/-- What the candidates have done on the way from one world to another, the latest first. -/
inductive Run (name : String) (w₀ : World) : List Deed → World → Prop
  | start : Run name w₀ [] w₀
  /-- The server gives out no new version. -/
  | quiet {deeds : List Deed} {w w' : World} (run : Run name w₀ deeds w)
    (step : World.Step name w w') (same : w'.revision = w.revision) : Run name w₀ deeds w'
  | accept {deeds : List Deed} {d : Deed} {w w' : World} (run : Run name w₀ deeds w)
    (accepted : Accepted name w d w') : Run name w₀ (d :: deeds) w'

/-- The server keeps what it has stored, unless it accepts a write. -/
theorem quiet_or_accepted (h : World.Step name w w') :
    w'.revision = w.revision ∧ w'.stored = w.stored ∨
      w.revision < w'.revision ∧ ∃ d, Accepted name w d w' := by
  cases h with
  | accept is stage writes accepts new =>
    obtain ⟨d, does⟩ := exists_does writes
    exact .inr ⟨new, d, is, stage, does, accepts, new⟩
  | tick | start | read | decide | stamp | refuse | finish | abandon => exact .inl ⟨rfl, rfl⟩

/-- Every run is made of deeds, and of steps between them. -/
theorem exists_run (h : Relation.ReflTransGen (World.Step name) w₀ w) :
    ∃ deeds, Run name w₀ deeds w := by
  induction h with
  | refl => exact ⟨[], .start⟩
  | tail _ hstep ih =>
    obtain ⟨deeds, run⟩ := ih
    obtain ⟨same, -⟩ | ⟨-, d, accepted⟩ := quiet_or_accepted hstep
    · exact ⟨deeds, run.quiet hstep same⟩
    · exact ⟨d :: deeds, run.accept accepted⟩

theorem Run.steps (h : Run name w₀ deeds w) : Relation.ReflTransGen (World.Step name) w₀ w := by
  induction h with
  | start => exact .refl
  | quiet _ step _ ih => exact ih.tail step
  | accept _ accepted ih => exact ih.tail accepted.step

theorem revision_le (h : Relation.ReflTransGen (World.Step name) w w') :
    w.revision ≤ w'.revision := by
  induction h with
  | refl => exact Nat.le_refl _
  | tail _ step ih =>
    obtain ⟨same, -⟩ | ⟨new, -⟩ := quiet_or_accepted step
    · exact Nat.le_trans ih (Nat.le_of_eq same.symm)
    · exact Nat.le_of_lt (Nat.lt_of_le_of_lt ih new)

theorem Run.quiet_run (run : Run name w₀ deeds w)
    (h : Relation.ReflTransGen (World.Step name) w w') (same : w'.revision = w.revision) :
    Run name w₀ deeds w' := by
  induction h with
  | refl => exact run
  | @tail u v steps step ih =>
    have hu := revision_le steps
    have hv := revision_le (.single step)
    exact (ih (by omega)).quiet step (by omega)

/-- An attempt that nobody comes between makes its write. -/
theorem Run.attempt (run : Run name w₀ deeds w) (idle : ∀ i, w.attempts i = none)
    (identity : String) (p : Purpose) {t : Int} (later : w.clock ≤ t)
    (does : Does name p identity w.stored t t d write) (accepts : w.Accepts write) :
    ∃ w', Run name w₀ (d :: deeds) w' ∧ (∀ i, w'.attempts i = none) ∧ w'.clock = t ∧
      w'.stored = some (write.lease.asStored (w.revision + 1)) := by
  have may : World.MayStart { w with clock := t } identity p :=
    fun i a is => by cases (idle i).symm.trans is
  have hticked := run.quiet (.tick later) rfl
  have hsent := hticked.quiet_run (send_run identity p (i := 0) (idle 0) may) rfl
  have haccepted := hsent.accept
    (.intro (Function.update_self ..) rfl does accepts (Nat.lt_succ_self w.revision))
  have hfinished := haccepted.quiet (finish_step (w := { w with clock := t })
    (a := { identity, purpose := p, stage := .ready w.stored t t }) (idle 0) rfl _ write t _) rfl
  exact ⟨_, hfinished, idle, rfl, rfl⟩

/-! ## What is recorded -/

theorem map_micros_recorded (t : Option Int) :
    ((t.map MicroTime.recorded).map fun t => (⟨t.instant.micros⟩ : MicroTime)) =
      t.map MicroTime.recorded := by
  cases t with
  | none => rfl
  | some t => rw [Option.map_some, Option.map_some, MicroTime.recorded, Instant.micros_micros]

theorem spec_created (t : Int) (version : Nat) :
    ((Lease.created name identity (.ofNanos t)).asStored version).spec =
      some (.after [.create identity t]) :=
  rfl

theorem spec_claimed_takeOver (hl : l.spec = some (.after deeds)) (t : Int) (version : Nat) :
    ((l.claimed identity (.ofNanos t) true).asStored version).spec =
      some (.after (.takeOver identity t :: deeds)) := by
  rw [Lease.asStored, Lease.claimed, hl]
  simp only [LeaseSpec.claimed, LeaseSpec.after, Option.map_some, Option.bind_some, Option.getD_some,
    if_true, List.countP_cons, Deed.isTakeover, Int32.ofNat_add]
  rfl

theorem spec_claimed_renew (hl : l.spec = some (.after deeds)) (t : Int) (version : Nat) :
    ((l.claimed identity (.ofNanos t) false).asStored version).spec =
      some (.after (.renew identity t :: deeds)) := by
  rw [Lease.asStored, Lease.claimed, hl]
  simp only [LeaseSpec.claimed, LeaseSpec.after, Option.map_some, Option.bind_some, Option.getD_some,
    Bool.false_eq_true, if_false, map_micros_recorded]
  rfl

theorem spec_released (hl : l.spec = some (.after deeds)) (identity : String) (version : Nat) :
    (l.released.asStored version).spec = some (.after (.release identity :: deeds)) := by
  rw [Lease.asStored, Lease.released, hl]
  simp only [LeaseSpec.after, Option.map_some, map_micros_recorded]
  rfl

/-- A renewal by the holder changes nothing but the time of renewal. -/
theorem after_renew (hholder : (LeaseSpec.after deeds).holderIdentity = some identity) (t : Int) :
    LeaseSpec.after (.renew identity t :: deeds) =
      { LeaseSpec.after deeds with renewTime := some (.recorded t) } := by
  simp only [hholder]
  rfl

/-- The transitions are counted right, as long as the counter can hold their number. -/
theorem toInt_transitions (h : deeds.countP Deed.isTakeover ≤ 2147483647) :
    (LeaseSpec.after deeds).leaseTransitions.map Int32.toInt =
      some (deeds.countP Deed.isTakeover : Int) :=
  congrArg some (Int32.toInt_ofNat_of_lt (Nat.lt_succ_of_le h))

/-- The server has stored what follows from these deeds, and nothing if there are none. -/
def Records (deeds : List Deed) (stored : Option Lease) : Prop :=
  stored.map Lease.spec = if deeds = [] then none else some (some (.after deeds))

theorem Records.nil_of_none (h : Records deeds none) : deeds = [] := by
  by_contra hne
  rw [Records, if_neg hne] at h
  cases h

theorem Records.spec_of_some (h : Records deeds (some l)) : l.spec = some (.after deeds) := by
  rw [Records, Option.map_some] at h
  split at h
  · cases h
  · exact Option.some.inj h

theorem records_cons (h : l.spec = some (.after (d :: deeds))) : Records (d :: deeds) (some l) := by
  rw [Records, if_neg (List.cons_ne_nil d deeds), Option.map_some, h]

/-- What a write brings follows from its deed and those before. -/
theorem Records.does (h : Records deeds found)
    (hdoes : Does name p identity found decided stamped d write) (version : Nat) :
    Records (d :: deeds) (some (write.lease.asStored version)) := by
  cases hdoes with
  | create _ absent =>
    subst absent
    rw [h.nil_of_none]
    exact records_cons (spec_created stamped version)
  | takeOver _ is _ =>
    subst is
    exact records_cons (spec_claimed_takeOver h.spec_of_some stamped version)
  | renew _ is _ =>
    subst is
    exact records_cons (spec_claimed_renew h.spec_of_some stamped version)
  | release _ is _ =>
    subst is
    exact records_cons (spec_released h.spec_of_some identity version)

/-- The server accepts a write of what it has stored. -/
theorem Sound.exists_does (h : Sound w) (haccepted : Accepted name w d w') :
    ∃ p identity decided stamped write version,
      Does name p identity w.stored decided stamped d write ∧
        w'.stored = some (write.lease.asStored version) := by
  obtain ⟨is, stage, does, accepts, new⟩ := haccepted
  have hstored := h.stored_eq_found is stage (writes_of_write? does.write?_eq) accepts
  exact ⟨_, _, _, _, _, _, hstored ▸ does, rfl⟩

theorem Run.records (h₀ : Sound w₀) (hnone : w₀.stored = none) (h : Run name w₀ deeds w) :
    Records deeds w.stored := by
  -- what is stored changes only with the deeds, as a step that gives out no version writes nothing
  induction h with
  | start =>
    rw [hnone]
    rfl
  | quiet _ step same ih =>
    obtain ⟨-, hstored⟩ | ⟨hnew, -⟩ := quiet_or_accepted step
    · rw [hstored]
      exact ih
    · exact absurd same (Nat.ne_of_gt hnew)
  | accept run accepted ih =>
    obtain ⟨_, _, _, _, _, version, does, hstored⟩ := (h₀.run run.steps).exists_does accepted
    rw [hstored]
    exact ih.does does version

/-- A lease that was written from another keeps its metadata. -/
theorem asStored_eq_revised {s : LeaseSpec} {change : LeaseSpec → LeaseSpec} {spec : Option LeaseSpec}
    (hl : l.spec = some s) (h : (Lease.asStored { l with spec } version).spec = some (change s)) :
    Lease.asStored { l with spec } version = l.revised version change := by
  have hrevised : l.revised version change = ⟨(l.revised version change).metadata, some (change s)⟩ := by
    rw [← Option.map_some, ← hl]
    rfl
  rw [hrevised, ← h]
  rfl

/-- The holder of the lease has changed this of it and nothing else. -/
def World.HolderChanges (w : World) (identity : String) (change : LeaseSpec → LeaseSpec)
    (w' : World) : Prop :=
  ∃ l version, w.stored = some l ∧ l.holder? = some identity ∧
    w'.stored = some (l.revised version change)

theorem holderChanges_of_renew (h : Sound w) (hrecords : Records deeds w.stored) {t : Int}
    (haccepted : Accepted name w (.renew identity t) w') :
    w.HolderChanges identity (fun s => { s with renewTime := some (.recorded t) }) w' := by
  obtain ⟨_, _, _, _, _, version, does, hstored⟩ := h.exists_does haccepted
  cases does with
  | @renew l _ is decides =>
    have hholder := holder_of_decision decides
    have hspec := (is ▸ hrecords).spec_of_some
    refine ⟨l, version, is, hholder, hstored.trans (congrArg some (asStored_eq_revised hspec ?_))⟩
    rw [Lease.holder?, hspec, Option.bind_some] at hholder
    rw [← after_renew hholder]
    exact spec_claimed_renew hspec t version

theorem holderChanges_of_release (h : Sound w) (hrecords : Records deeds w.stored)
    (haccepted : Accepted name w (.release identity) w') :
    w.HolderChanges identity (fun s => { s with holderIdentity := none }) w' := by
  obtain ⟨_, _, _, _, _, version, does, hstored⟩ := h.exists_does haccepted
  cases does with
  | @release l _ is hholder =>
    have hspec := (is ▸ hrecords).spec_of_some
    refine ⟨l, version, is, hholder, hstored.trans (congrArg some (asStored_eq_revised hspec ?_))⟩
    exact spec_released hspec identity version

/-- However the candidates' steps interleave, a lease that one of them has created records what they have
done since: the holder is who has claimed it last, unless it was released after, the times are those of
the last claim and of the last that was not a renewal, and the transitions are counted as far as the
counter goes. A renewal changes the time of renewal alone, and a release the holder. -/
theorem lease_records_deeds (h₀ : w₀.Initial) (hnone : w₀.stored = none)
    (hrun : Relation.ReflTransGen (World.Step name) w₀ w) :
    (∃ deeds, Run name w₀ deeds w) ∧ ∀ deeds, Run name w₀ deeds w →
      Records deeds w.stored ∧
      (deeds.countP Deed.isTakeover ≤ 2147483647 →
        (LeaseSpec.after deeds).leaseTransitions.map Int32.toInt =
          some (deeds.countP Deed.isTakeover : Int)) ∧
      (∀ identity t w', Accepted name w (.renew identity t) w' →
        w.HolderChanges identity (fun s => { s with renewTime := some (.recorded t) }) w') ∧
      ∀ identity w', Accepted name w (.release identity) w' →
        w.HolderChanges identity (fun s => { s with holderIdentity := none }) w' := by
  have hsound₀ := Sound.of_initial h₀
  refine ⟨exists_run hrun, fun deeds run => ?_⟩
  have hrecords := run.records hsound₀ hnone
  have hsound := hsound₀.run hrun
  exact ⟨hrecords, toInt_transitions, fun _ _ _ => holderChanges_of_renew hsound hrecords,
    fun _ _ => holderChanges_of_release hsound hrecords⟩

/-- West has created the lease, has renewed it and given it up, and has taken it over again. -/
theorem lease_records_deeds_west : vacant.Initial ∧
    ∃ w deeds, Run "leader" vacant deeds w ∧
      deeds = [.takeOver "west" 40000000000, .release "west", .renew "west" 10000001999,
        .create "west" 0] ∧
      w.stored.bind Lease.spec = some
        { holderIdentity := some "west"
          acquireTime := some ⟨⟨40, 0⟩⟩
          renewTime := some ⟨⟨40, 0⟩⟩
          leaseDurationSeconds := some 15
          leaseTransitions := some 1 } := by
  have hvacant : vacant.Initial := ⟨fun _ => rfl, fun _ => rfl, fun l hl => by cases hl⟩
  have hstart : Run "leader" vacant [] vacant := .start
  obtain ⟨w₁, hcreated, idle₁, hclock₁, hstored₁⟩ :=
    hstart.attempt (fun _ => rfl) "west" .acquire (t := 0) (Int.le_refl _) (.create rfl rfl) rfl
  obtain ⟨w₂, hrenewed, idle₂, hclock₂, hstored₂⟩ :=
    hcreated.attempt idle₁ "west" .renew (t := 10000001999) (by omega)
      (.renew nofun hstored₁ rfl) ⟨_, hstored₁, rfl⟩
  obtain ⟨w₃, hreleased, idle₃, hclock₃, hstored₃⟩ :=
    hrenewed.attempt idle₂ "west" .release (t := 10000001999) (by omega)
      (.release rfl hstored₂ rfl) ⟨_, hstored₂, rfl⟩
  obtain ⟨w₄, htaken, -, -, hstored₄⟩ :=
    hreleased.attempt idle₃ "west" .acquire (t := 40000000000) (by omega)
      (.takeOver rfl hstored₃ rfl) ⟨_, hstored₃, rfl⟩
  have hrecords := ((lease_records_deeds hvacant rfl htaken.steps).2 _ htaken).1
  rw [hstored₄] at hrecords
  refine ⟨hvacant, w₄, _, htaken, rfl, ?_⟩
  rw [hstored₄, Option.bind_some, hrecords.spec_of_some]
  rfl

end Election

end ControlPlane
