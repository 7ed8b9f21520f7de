import Mathlib.Logic.Relation
import ControlPlane.Proofs.Lease.Election
import ControlPlane.Text.Digits

/-!
# At most one leader

While a candidate acts as leader the server has its lease stored, as the candidate last stamped it. For
another to write over that lease it would have had to read it, and to find it expired by a clock that
has not got that far.

* `Writes`: who writes what, having read which lease.
* `Sound`: what holds of every world that candidates get to; `Sound.step` keeps it step by step.
* `leader_unique`: two candidates that act as leader are one, and only its holder renews or releases a
  lease.
-/

namespace ControlPlane

open Election

/-! ## Expiry -/

theorem Instant.since_micros (a b : Int) :
    (ofNanos a).since (ofNanos b).micros = a - (b - b % 1000) := by
  have ha : (ofNanos a).inLeapSecond = false := by
    refine decide_eq_false fun h => ?_
    simp only [ofNanos, nanosPerSecond] at h
    omega
  have hb : (ofNanos b).micros.inLeapSecond = false := by
    refine decide_eq_false fun h => ?_
    simp only [micros, ofNanos, nanosPerSecond] at h
    omega
  rw [since, ha, hb]
  simp only [Bool.false_eq_true, if_false, ite_self, micros, ofNanos, nanosPerSecond]
  omega

/-- A lease that has expired no longer counts, though its expiry is told in whole seconds from a time
without its last nanoseconds. -/
theorem Instant.lt_of_expired {a b : Int}
    (h : leaseSeconds.toInt < (ofNanos a).secondsSince (ofNanos b).micros) :
    b + World.leaseNanos < a := by
  have hs : leaseSeconds.toInt = 15 := rfl
  have hn : World.leaseNanos = 15000000000 := rfl
  rw [secondsSince, since_micros, hs] at h
  change 15 < (a - (b - b % 1000)).tdiv 1000000000 at h
  rw [hn]
  by_cases hx : 0 ≤ a - (b - b % 1000)
  · -- more than fifteen whole seconds are sixteen
    rw [Int.tdiv_eq_ediv_of_nonneg hx] at h
    omega
  · have hneg := Int.tdiv_nonneg (a := -(a - (b - b % 1000))) (b := 1000000000) (by omega) (by omega)
    rw [Int.neg_tdiv] at hneg
    omega

namespace Election

variable {name : String} {w w' : World} {a : Attempt} {found : Option Lease} {l : Lease}
  {identity : String} {decided stamped : Int} {write : LeaseWrite}

/-! ## Writes -/

/-- Nobody holds the lease, or its holder has let it expire. -/
def Free (l : Lease) (decided : Int) : Prop :=
  l.holder? = none ∨ ∃ s, l.spec = some s ∧ s.isExpired (.ofNanos decided) = true

theorem free_or_holder_of_decision (h : LeaseSpec.decision l.spec identity (.ofNanos decided) ≠ .wait) :
    l.holder? = some identity ∨ Free l decided := by
  unfold LeaseSpec.decision at h
  cases hs : l.spec with
  | none => exact .inr (.inl (by rw [Lease.holder?, hs]; rfl))
  | some s =>
    have hh : l.holder? = s.holderIdentity := by rw [Lease.holder?, hs]; rfl
    rw [hs] at h
    simp only at h
    split at h
    · next hi => exact .inl (hh.trans hi)
    · split at h
      · next hf =>
        rw [Bool.or_eq_true] at hf
        obtain hf | hf := hf
        · exact .inr (.inl (by rw [hh]; simpa using hf))
        · exact .inr (.inr ⟨s, hs, hf⟩)
      · exact absurd rfl h

theorem holder_of_decision (h : LeaseSpec.decision l.spec identity (.ofNanos decided) = .renew) :
    l.holder? = some identity := by
  unfold LeaseSpec.decision at h
  cases hs : l.spec with
  | none =>
    rw [hs] at h
    cases h
  | some s =>
    rw [hs] at h
    simp only at h
    split at h
    · next hi => rw [Lease.holder?, hs]; exact hi
    · split at h <;> cases h

/-- What an attempt writes, and having read what. -/
inductive Writes (name : String) (p : Purpose) (identity : String) (found : Option Lease)
    (decided stamped : Int) : LeaseWrite → Prop
  /-- It creates the lease if there is none. -/
  | create (purpose : p = .acquire) (absent : found = none) :
    Writes name p identity found decided stamped (.create (.created name identity (.ofNanos stamped)))
  /-- It claims the lease that it holds or, to acquire it, finds free. -/
  | claim {l : Lease} {takeover : Bool} (purpose : p ≠ .release) (is : found = some l)
    (may : l.holder? = some identity ∨ p = .acquire ∧ Free l decided) :
    Writes name p identity found decided stamped
      (.replace (l.claimed identity (.ofNanos stamped) takeover))
  /-- It gives up the lease that it holds. -/
  | release {l : Lease} (purpose : p = .release) (is : found = some l)
    (holder : l.holder? = some identity) :
    Writes name p identity found decided stamped (.replace l.released)

theorem writes_of_write? {p : Purpose}
    (h : p.write? name identity found decided stamped = some write) :
    Writes name p identity found decided stamped write := by
  cases p with
  | acquire =>
    cases found with
    | none =>
      cases h
      exact .create rfl rfl
    | some l =>
      rw [Purpose.write?, acquireWrite] at h
      have may (hd : LeaseSpec.decision l.spec identity (.ofNanos decided) ≠ .wait) :=
        (free_or_holder_of_decision hd).imp_right fun hf => And.intro (rfl : Purpose.acquire = _) hf
      cases hd : LeaseSpec.decision l.spec identity (.ofNanos decided) with
      | wait =>
        rw [hd] at h
        cases h
      | renew =>
        rw [hd] at h may
        cases h
        exact .claim (by decide) rfl (may (by decide))
      | takeOver =>
        rw [hd] at h may
        cases h
        exact .claim (by decide) rfl (may (by decide))
  | renew =>
    cases found with
    | none => cases h
    | some l =>
      rw [Purpose.write?, Option.bind_some, renewWrite] at h
      split at h
      · next hd =>
        cases h
        exact .claim (by decide) rfl (.inl (holder_of_decision hd))
      · cases h
  | release =>
    cases found with
    | none => cases h
    | some l =>
      rw [Purpose.write?, Option.bind_some, releaseWrite] at h
      split at h
      · next hh =>
        cases h
        exact .release rfl rfl hh
      · cases h

/-! ## What holds of every world -/

/-- The lease has one of the first `n` versions that were given out. -/
def Versioned (n : Nat) (l : Lease) : Prop :=
  ∃ k ≤ n, l.metadata.resourceVersion = some (Nat.repr k)

theorem Versioned.ne {n k : Nat} (h : Versioned n l) (hk : n < k) :
    l.metadata.resourceVersion ≠ some (Nat.repr k) := by
  obtain ⟨m, hm, hv⟩ := h
  rw [hv]
  intro e
  have := Text.repr_injective (Option.some.inj e)
  omega

/-- A candidate leads, or an attempt to acquire the lease has succeeded and is about to end. -/
def World.Claims (w : World) (identity : String) : Prop :=
  w.leads identity = true ∨ ∃ i a, w.attempts i = some a ∧ a.identity = identity ∧
    a.purpose = .acquire ∧ a.awaited = true ∧ a.stage = .answered true

/-- The lease of this candidate is stored, as it was stamped last. -/
def World.HeldBy (w : World) (identity : String) : Prop :=
  ∃ l s, w.stored = some l ∧ l.spec = some s ∧ s.holderIdentity = some identity ∧
    s.renewTime = some ⟨(Instant.ofNanos (w.stamp identity)).micros⟩ ∧
    s.leaseDurationSeconds = some leaseSeconds

/-- What holds of every world that candidates get to. -/
structure Sound (w : World) : Prop where
  version : ∀ l, w.stored = some l → Versioned w.revision l
  /-- What has been read is stored, or has another version. -/
  copy : ∀ i a, w.attempts i = some a → ∀ l, a.found? = some l →
    Versioned w.revision l ∧ (w.IsCurrent l → w.stored = some l)
  /-- No decision is taken ahead of time. -/
  past : ∀ i a, w.attempts i = some a → ∀ t ∈ a.decided?, t ≤ w.clock
  /-- No candidate acquires the lease and releases it at the same time. -/
  apart : ∀ i j a b, w.attempts i = some a → w.attempts j = some b → a.awaited = true →
    b.awaited = true → a.identity = b.identity → a.purpose.excludes b.purpose = false
  /-- What may still give up the lease of a candidate that claims it comes too late. -/
  released : ∀ i a, w.attempts i = some a → a.purpose = .release → w.Claims a.identity →
    a.awaited = false ∧ ∀ l, a.found? = some l → ¬ w.IsCurrent l
  /-- The lease of a candidate that claims it is stored for as long as it counts. -/
  held : ∀ identity, w.Claims identity → w.clock ≤ w.stamp identity + World.leaseNanos →
    w.HeldBy identity

theorem Sound.of_initial (h : w.Initial) : Sound w := by
  have idle {i : Nat} {a : Attempt} (ha : w.attempts i = some a) : False := by
    rw [h.idle i] at ha
    cases ha
  have leaderless {identity : String} (hc : w.Claims identity) : False := by
    obtain hl | ⟨i, a, ha, -⟩ := hc
    · rw [h.leaderless] at hl
      cases hl
    · exact idle ha
  exact ⟨h.version, fun i a ha => (idle ha).elim, fun i a ha => (idle ha).elim,
    fun i j a b ha => (idle ha).elim, fun i a ha => (idle ha).elim,
    fun identity hc => (leaderless hc).elim⟩

/-! ## Steps of the candidates -/

/-- A step that leaves the server alone and lets no candidate claim more keeps the invariant, if it
holds of the attempts. -/
theorem Sound.of_quiet (h : Sound w) (hstored : w'.stored = w.stored)
    (hrevision : w'.revision = w.revision) (hstamp : w'.stamp = w.stamp)
    (hclock : w.clock ≤ w'.clock) (hclaims : ∀ identity, w'.Claims identity → w.Claims identity)
    (hattempts : ∀ i b, w'.attempts i = some b →
      (∀ l, b.found? = some l → Versioned w.revision l ∧ (w.IsCurrent l → w.stored = some l)) ∧
      (∀ t ∈ b.decided?, t ≤ w'.clock) ∧
      (b.purpose = .release → w.Claims b.identity →
        b.awaited = false ∧ ∀ l, b.found? = some l → ¬ w.IsCurrent l))
    (hapart : ∀ i j a b, w'.attempts i = some a → w'.attempts j = some b → a.awaited = true →
      b.awaited = true → a.identity = b.identity → a.purpose.excludes b.purpose = false) :
    Sound w' := by
  have hcurrent (l : Lease) : w'.IsCurrent l ↔ w.IsCurrent l := by
    rw [World.IsCurrent, hstored, World.IsCurrent]
  constructor
  case version =>
    rw [hstored, hrevision]
    exact h.version
  case copy =>
    intro i b hb l hl
    rw [hstored, hrevision, hcurrent]
    exact (hattempts i b hb).1 l hl
  case past => exact fun i b hb => (hattempts i b hb).2.1
  case apart => exact hapart
  case released =>
    intro i b hb hp hc
    obtain ⟨hawaited, hstale⟩ := (hattempts i b hb).2.2 hp (hclaims _ hc)
    exact ⟨hawaited, fun l hl => mt (hcurrent l).1 (hstale l hl)⟩
  case held =>
    intro identity hc ht
    rw [hstamp] at ht
    rw [World.HeldBy, hstored, hstamp]
    exact h.held identity (hclaims _ hc) (Int.le_trans hclock ht)

theorem set_attempts {i j : Nat} {o : Option Attempt} {b : Attempt}
    (h : (w.set i o).attempts j = some b) : j = i ∧ o = some b ∨ j ≠ i ∧ w.attempts j = some b := by
  change Function.update w.attempts i o j = some b at h
  by_cases hj : j = i
  · subst hj
    rw [Function.update_self] at h
    exact .inl ⟨rfl, h⟩
  · rw [Function.update_of_ne hj] at h
    exact .inr ⟨hj, h⟩

/-- What holds of an attempt that the invariant speaks of. -/
theorem Sound.attempt (h : Sound w) {i : Nat} (ha : w.attempts i = some a) :
    (∀ l, a.found? = some l → Versioned w.revision l ∧ (w.IsCurrent l → w.stored = some l)) ∧
      (∀ t ∈ a.decided?, t ≤ w.clock) ∧
      (a.purpose = .release → w.Claims a.identity →
        a.awaited = false ∧ ∀ l, a.found? = some l → ¬ w.IsCurrent l) :=
  ⟨h.copy i a ha, h.past i a ha, h.released i a ha⟩

theorem Sound.tick (h : Sound w) {t : Int} (ht : w.clock ≤ t) : Sound { w with clock := t } := by
  refine h.of_quiet rfl rfl rfl ht (fun _ hc => hc) (fun i b hb => ?_) h.apart
  obtain ⟨hfound, hpast, hreleased⟩ := h.attempt hb
  exact ⟨hfound, fun t' ht' => Int.le_trans (hpast t' ht') ht, hreleased⟩

/-- A candidate that claims the lease may believe that it leads, and any other that it does not. -/
theorem Sound.believe (h : Sound w) {leads : Bool} (hl : leads = true → w.Claims identity) :
    Sound (w.believe identity leads) := by
  refine h.of_quiet rfl rfl rfl (Int.le_refl _) (fun other hc => ?_) (fun i b => h.attempt) h.apart
  obtain hc | hc := hc
  · change Function.update w.leads identity leads other = true at hc
    by_cases ho : other = identity
    · subst ho
      rw [Function.update_self] at hc
      exact hl hc
    · rw [Function.update_of_ne ho] at hc
      exact .inl hc
  · exact .inr hc

theorem Sound.drop (h : Sound w) (i : Nat) : Sound (w.set i none) := by
  have old {j : Nat} {b : Attempt} (hb : (w.set i none).attempts j = some b) :
      w.attempts j = some b := by
    obtain ⟨-, hb⟩ | ⟨-, hb⟩ := set_attempts hb
    · cases hb
    · exact hb
  refine h.of_quiet rfl rfl rfl (Int.le_refl _) (fun identity hc => ?_)
    (fun j b hb => h.attempt (old hb)) fun j k b c hb hc => h.apart j k b c (old hb) (old hc)
  obtain hc | ⟨j, b, hb, hc⟩ := hc
  · exact .inl hc
  · exact .inr ⟨j, b, old hb, hc⟩

/-- An attempt goes on as `b`, unless it has succeeded by that. -/
theorem Sound.set (h : Sound w) {i : Nat} {b : Attempt} (ha : w.attempts i = some a)
    (hidentity : b.identity = a.identity) (hpurpose : b.purpose = a.purpose)
    (hawaited : b.awaited = true → a.awaited = true ∧ b.stage ≠ .answered true)
    (hfound : ∀ l, b.found? = some l → Versioned w.revision l ∧ (w.IsCurrent l → w.stored = some l))
    (hpast : ∀ t ∈ b.decided?, t ≤ w.clock) (hstale : a.awaited = true ∨ b.found? = none) :
    Sound (w.set i (some b)) := by
  -- whatever is awaited now was awaited before, by the same candidate and for the same purpose
  have old {j : Nat} {c : Attempt} (hc : (w.set i (some b)).attempts j = some c) :
      ∃ c', w.attempts j = some c' ∧ c'.identity = c.identity ∧ c'.purpose = c.purpose ∧
        (c.awaited = true → c'.awaited = true) := by
    rcases set_attempts hc with ⟨rfl, e⟩ | ⟨-, e⟩
    · cases e
      exact ⟨a, ha, hidentity.symm, hpurpose.symm, fun hb => (hawaited hb).1⟩
    · exact ⟨c, e, rfl, rfl, id⟩
  refine h.of_quiet rfl rfl rfl (Int.le_refl _) (fun identity hclaims => ?_) (fun j c hc => ?_)
    fun j k c d hc hd hca hda hid => ?_
  · obtain hl | ⟨j, c, hc, hid, hp, hca, hcs⟩ := hclaims
    · exact .inl hl
    · rcases set_attempts hc with ⟨-, e⟩ | ⟨-, e⟩
      · cases e
        exact absurd hcs (hawaited hca).2
      · exact .inr ⟨j, c, e, hid, hp, hca, hcs⟩
  · rcases set_attempts hc with ⟨rfl, e⟩ | ⟨-, e⟩
    · cases e
      refine ⟨hfound, hpast, fun hp hclaims => ?_⟩
      obtain ⟨hna, -⟩ := h.released j a ha (hpurpose.symm.trans hp) (hidentity ▸ hclaims)
      refine ⟨?_, fun l hl => ?_⟩
      · cases hb : b.awaited with
        | false => rfl
        | true => exact (hawaited hb).1.symm.trans hna
      · obtain hs | hs := hstale
        · cases hs.symm.trans hna
        · cases hs.symm.trans hl
    · exact h.attempt e
  · obtain ⟨c', hc', hcid, hcp, hc'a⟩ := old hc
    obtain ⟨d', hd', hdid, hdp, hd'a⟩ := old hd
    rw [← hcp, ← hdp]
    exact h.apart j k c' d' hc' hd' (hc'a hca) (hd'a hda) (hcid.trans (hid.trans hdid.symm))

theorem Purpose.excludes_comm (p q : Purpose) : p.excludes q = q.excludes p := by
  cases p <;> cases q <;> rfl

theorem Sound.start (h : Sound w) {i : Nat} {p : Purpose} (may : w.MayStart identity p)
    (hl : p = .release → w.leads identity = false) :
    Sound (w.set i (some { identity, purpose := p })) := by
  -- a candidate that starts to release the lease has nothing under way by which it claims it
  have unclaimed (hp : p = .release) (hc : w.Claims identity) : False := by
    obtain hc | ⟨j, b, hb, hid, hbp, hba, -⟩ := hc
    · cases hc.symm.trans (hl hp)
    · have := may j b hb hba hid
      rw [hp, hbp] at this
      cases this
  refine h.of_quiet rfl rfl rfl (Int.le_refl _) (fun other hclaims => ?_) (fun j c hc => ?_)
    fun j k c d hc hd hca hda hid => ?_
  · obtain hl | ⟨j, c, hc, hid, hp, hca, hcs⟩ := hclaims
    · exact .inl hl
    · rcases set_attempts hc with ⟨-, e⟩ | ⟨-, e⟩
      · cases e
        cases hcs
      · exact .inr ⟨j, c, e, hid, hp, hca, hcs⟩
  · rcases set_attempts hc with ⟨-, e⟩ | ⟨-, e⟩
    · cases e
      exact ⟨fun l hl => (by cases hl), fun t ht => (by cases ht),
        fun hp hc => (unclaimed hp hc).elim⟩
    · exact h.attempt e
  · rcases set_attempts hc with ⟨-, ec⟩ | ⟨-, ec⟩ <;>
      rcases set_attempts hd with ⟨-, ed⟩ | ⟨-, ed⟩
    · cases ec
      cases ed
      cases p <;> rfl
    · cases ec
      exact may k d ed hda hid.symm
    · cases ed
      rw [Purpose.excludes_comm]
      exact may j c ec hca hid
    · exact h.apart j k c d ec ed hca hda hid

/-! ## Accepted writes -/

/-- The server accepts a write only of what it has stored. -/
theorem Sound.stored_eq_found (h : Sound w) {i : Nat} (ha : w.attempts i = some a)
    (hs : a.stage = .ready found decided stamped)
    (hw : Writes name a.purpose a.identity found decided stamped write)
    (hacc : w.Accepts write) : w.stored = found := by
  have hfound : a.found? = found := by rw [Attempt.found?, hs]
  cases hw with
  | create _ habsent => exact Eq.trans hacc habsent.symm
  | claim _ his _ =>
    subst his
    exact (h.copy i a ha _ hfound).2 hacc
  | release _ his _ =>
    subst his
    exact (h.copy i a ha _ hfound).2 hacc

/-- While the lease of a candidate counts, no other writes over it. -/
theorem Sound.not_held_of_accepts (h : Sound w) {i : Nat} (ha : w.attempts i = some a)
    (hs : a.stage = .ready found decided stamped)
    (hw : Writes name a.purpose a.identity found decided stamped write) (hacc : w.Accepts write)
    (hne : identity ≠ a.identity) (ht : w.clock ≤ w.stamp identity + World.leaseNanos) :
    ¬ w.HeldBy identity := by
  rintro ⟨l, s, hl, hspec, hholder, hrenew, hduration⟩
  have hh : l.holder? = some identity := by rw [Lease.holder?, hspec]; exact hholder
  have hnot : l.holder? ≠ some a.identity := by
    rw [hh]
    exact fun e => hne (Option.some.inj e)
  have hfound := h.stored_eq_found ha hs hw hacc
  rw [hl] at hfound
  cases hw with
  | create _ habsent => cases hfound.trans habsent
  | release _ his hholder' =>
    cases hfound.trans his
    exact hnot hholder'
  | claim _ his hmay =>
    cases hfound.trans his
    obtain hm | ⟨-, hfree | ⟨s', hs', hexp⟩⟩ := hmay
    · exact hnot hm
    · cases hh.symm.trans hfree
    · -- it had expired when the candidate looked at the clock
      cases hspec.symm.trans hs'
      rw [LeaseSpec.isExpired, hrenew, hduration] at hexp
      have hlate := Instant.lt_of_expired (of_decide_eq_true hexp)
      have hpast := h.past i a ha decided (by rw [Attempt.decided?, hs]; rfl)
      omega

section Accept

variable {i version : Nat} {b : Attempt}

theorem accept_attempts {j : Nat} (hb : (w.accept i a write stamped version).attempts j = some b) :
    j = i ∧ b = { a with stage := .answered true } ∨ j ≠ i ∧ w.attempts j = some b :=
  (set_attempts hb).imp_left fun ⟨hj, e⟩ => ⟨hj, (Option.some.inj e).symm⟩

/-- Only the candidate whose attempt has succeeded may claim the lease anew. -/
theorem claims_of_accept (hc : (w.accept i a write stamped version).Claims identity) :
    w.Claims identity ∨ identity = a.identity ∧ a.purpose = .acquire ∧ a.awaited = true := by
  obtain hl | ⟨j, b, hb, hid, hp, hawaited, hs⟩ := hc
  · exact .inl (.inl hl)
  · obtain ⟨-, rfl⟩ | ⟨-, hb⟩ := accept_attempts hb
    · exact .inr ⟨hid.symm, hp, hawaited⟩
    · exact .inl (.inr ⟨j, b, hb, hid, hp, hawaited, hs⟩)

/-- What was read before a write is not what is stored after it. -/
theorem not_isCurrent_accept (hl : Versioned w.revision l) (hnew : w.revision < version) :
    ¬ (w.accept i a write stamped version).IsCurrent l := by
  rintro ⟨o, ho, hv⟩
  cases ho
  exact hl.ne hnew hv.symm

/-- A candidate that claims the lease has nothing under way that could give it up. -/
theorem Sound.not_claims_of_release (h : Sound w) (ha : w.attempts i = some a)
    (hs : a.stage = .ready found decided stamped)
    (hw : Writes name a.purpose a.identity found decided stamped write) (hacc : w.Accepts write)
    (hp : a.purpose = .release) : ¬ w.Claims a.identity := by
  intro hc
  have hfound : a.found? = found := by rw [Attempt.found?, hs]
  have hstale := (h.released i a ha hp hc).2
  cases hw with
  | create hp' _ => cases hp.symm.trans hp'
  | claim hp' _ _ => exact hp' hp
  | release _ his _ => exact hstale _ (hfound.trans his) hacc

/-- The lease that a candidate has claimed is stored as it was stamped. -/
theorem heldBy_accept (hw : Writes name a.purpose a.identity found decided stamped write)
    (hp : a.purpose ≠ .release) : (w.accept i a write stamped version).HeldBy a.identity := by
  have hstamp : (w.accept i a write stamped version).stamp a.identity = stamped := by
    show (if a.purpose = .release then w.stamp else Function.update w.stamp a.identity stamped)
      a.identity = stamped
    rw [if_neg hp, Function.update_self]
  rw [World.HeldBy, hstamp]
  cases hw with
  | create _ _ => exact ⟨_, _, rfl, rfl, rfl, rfl, rfl⟩
  | claim _ _ _ => exact ⟨_, _, rfl, rfl, rfl, rfl, rfl⟩
  | release hp' _ _ => exact absurd hp' hp

theorem Sound.accept (h : Sound w) (ha : w.attempts i = some a)
    (hs : a.stage = .ready found decided stamped)
    (hw : Writes name a.purpose a.identity found decided stamped write)
    (hacc : w.Accepts write) (hnew : w.revision < version) :
    Sound (w.accept i a write stamped version) := by
  constructor
  case version =>
    rintro l ⟨⟩
    exact ⟨version, Nat.le_refl _, rfl⟩
  case copy =>
    intro j b hb l hl
    obtain ⟨-, rfl⟩ | ⟨-, hb⟩ := accept_attempts hb
    · cases hl
    · obtain ⟨⟨k, hk, hv⟩, -⟩ := h.copy j b hb l hl
      refine ⟨⟨k, Nat.le_trans hk (Nat.le_of_lt hnew), hv⟩, fun hc => absurd hc ?_⟩
      exact not_isCurrent_accept ⟨k, hk, hv⟩ hnew
  case past =>
    intro j b hb t ht
    obtain ⟨-, rfl⟩ | ⟨-, hb⟩ := accept_attempts hb
    · cases ht
    · exact h.past j b hb t ht
  case apart =>
    have old {j : Nat} {b : Attempt}
        (hb : (w.accept i a write stamped version).attempts j = some b) : ∃ b',
        w.attempts j = some b' ∧ b'.identity = b.identity ∧ b'.purpose = b.purpose ∧
          b'.awaited = b.awaited := by
      obtain ⟨rfl, rfl⟩ | ⟨-, hb⟩ := accept_attempts hb
      · exact ⟨a, ha, rfl, rfl, rfl⟩
      · exact ⟨b, hb, rfl, rfl, rfl⟩
    intro j k b c hb hc hba hca hid
    obtain ⟨b', hb', hbid, hbp, hb'a⟩ := old hb
    obtain ⟨c', hc', hcid, hcp, hc'a⟩ := old hc
    rw [← hbp, ← hcp]
    exact h.apart j k b' c' hb' hc' (hb'a.trans hba) (hc'a.trans hca)
      (hbid.trans (hid.trans hcid.symm))
  case released =>
    intro j b hb hp hc
    obtain ⟨-, rfl⟩ | ⟨-, hb⟩ := accept_attempts hb
    · obtain hc | ⟨-, hp', -⟩ := claims_of_accept hc
      · exact (h.not_claims_of_release ha hs hw hacc hp hc).elim
      · cases hp.symm.trans hp'
    · refine ⟨?_, fun l hl => not_isCurrent_accept (h.copy j b hb l hl).1 hnew⟩
      obtain hc | ⟨hid, hp', hawaited⟩ := claims_of_accept hc
      · exact (h.released j b hb hp hc).1
      · -- an attempt to acquire the lease and one to release it are not awaited both
        cases hba : b.awaited with
        | false => rfl
        | true =>
          have := h.apart i j a b ha hb hawaited hba hid.symm
          rw [hp', hp] at this
          cases this
  case held =>
    intro identity hc ht
    by_cases hid : identity = a.identity
    · subst hid
      refine heldBy_accept hw fun hp => ?_
      obtain hc | ⟨-, hp', -⟩ := claims_of_accept hc
      · exact h.not_claims_of_release ha hs hw hacc hp hc
      · cases hp.symm.trans hp'
    · have hstamp : (w.accept i a write stamped version).stamp identity = w.stamp identity := by
        show (if a.purpose = .release then w.stamp else Function.update w.stamp a.identity stamped)
          identity = w.stamp identity
        split
        · rfl
        · rw [Function.update_of_ne hid]
      rw [hstamp] at ht
      obtain hc | ⟨hid', -⟩ := claims_of_accept hc
      · exact absurd (h.held identity hc ht) (h.not_held_of_accepts ha hs hw hacc hid ht)
      · exact absurd hid' hid

end Accept

/-! ## Runs -/

theorem Purpose.of_believes {p : Purpose} {result before : Bool}
    (h : p.believes result before = true) : before = true ∨ p = .acquire ∧ result = true := by
  cases p with
  | acquire => exact (Bool.or_eq_true_iff.1 h).imp_right fun hr => ⟨rfl, hr⟩
  | renew => exact .inl (Bool.and_eq_true_iff.1 h).1
  | release => exact .inl h

theorem Sound.step (h : Sound w) (hstep : World.Step name w w') : Sound w' := by
  cases hstep with
  | tick later => exact h.tick later
  | start free may =>
    refine (h.believe fun hl => .inl (Bool.and_eq_true_iff.1 hl).1).start may fun hp => ?_
    subst hp
    exact (Function.update_self ..).trans (Bool.and_false _)
  | @read i a is stage awaited =>
    refine h.set is rfl rfl (fun _ => ⟨awaited, nofun⟩) (fun l hl => ?_) nofun (.inl awaited)
    exact ⟨h.version l hl, fun _ => hl⟩
  | @decide i a found is stage awaited =>
    refine h.set is rfl rfl (fun _ => ⟨awaited, nofun⟩) (fun l hl => ?_) ?_ (.inl awaited)
    · exact h.copy i a is l (by rw [Attempt.found?, stage]; exact hl)
    · rintro t ⟨⟩
      exact Int.le_refl _
  | @stamp i a found decided is stage awaited =>
    refine h.set is rfl rfl (fun _ => ⟨awaited, nofun⟩) (fun l hl => ?_) ?_ (.inl awaited)
    · exact h.copy i a is l (by rw [Attempt.found?, stage]; exact hl)
    · intro t ht
      exact h.past i a is t (by rw [Attempt.decided?, stage]; exact ht)
  | accept is stage writes accepts new =>
    exact h.accept is stage (writes_of_write? writes) accepts new
  | refuse is stage =>
    refine h.set is rfl rfl (fun hb => ⟨hb, ?_⟩) (fun l hl => ?_) (fun t ht => ?_) (.inr rfl)
    · rintro ⟨⟩
    · cases hl
    · cases ht
  | @finish i a result is awaited stage =>
    refine Sound.drop (h.believe fun hl => ?_) i
    obtain hl | ⟨hp, rfl⟩ := Purpose.of_believes hl
    · exact .inl hl
    · obtain hs | ⟨hr, -⟩ := stage
      · exact .inr ⟨i, a, is, rfl, hp, awaited, hs⟩
      · cases hr
  | @abandon i a is awaited =>
    have hset : Sound (w.set i (some { a with awaited := false })) :=
      h.set is rfl rfl (fun hb => by cases hb) (h.copy i a is) (h.past i a is) (.inl awaited)
    refine hset.believe fun hl => ?_
    obtain hl | ⟨-, hr⟩ := Purpose.of_believes hl
    · exact .inl hl
    · cases hr

theorem Sound.run {w₀ : World} (h : Sound w₀)
    (hrun : Relation.ReflTransGen (World.Step name) w₀ w) : Sound w := by
  induction hrun with
  | refl => exact h
  | tail _ hstep ih => exact ih.step hstep

theorem set_believe_set {i : Nat} {o o' : Option Attempt} {leads : Bool} :
    ((w.set i o).believe identity leads).set i o' = (w.set i o').believe identity leads := by
  simp only [World.set, World.believe, Function.update_idem]

theorem write?_of_takeOver
    (h : LeaseSpec.decision l.spec identity (.ofNanos decided) = .takeOver) :
    Purpose.acquire.write? name identity (some l) decided stamped =
      some (.replace (l.claimed identity (.ofNanos stamped) true)) := by
  rw [Purpose.write?, acquireWrite, h]

/-- A candidate that nobody comes between gets as far as to send its write. -/
theorem send_run (identity : String) (p : Purpose) {i : Nat} (free : w.attempts i = none)
    (may : w.MayStart identity p) :
    Relation.ReflTransGen (World.Step name) w
      ((w.set i (some { identity, purpose := p, stage := .ready w.stored w.clock w.clock })).believe
        identity (w.leads identity && p ≠ .release)) := by
  refine .head (.start free may) (.head (.read (Function.update_self ..) rfl rfl) ?_)
  rw [set_believe_set]
  refine .head (.decide (Function.update_self ..) rfl rfl) ?_
  rw [set_believe_set]
  refine .head (.stamp (Function.update_self ..) rfl rfl) ?_
  rw [set_believe_set]
  exact .refl

/-- Its attempt ends when the server has accepted the write. -/
theorem finish_step {i : Nat} (free : w.attempts i = none) (awaited : a.awaited = true) (leads : Bool)
    (write : LeaseWrite) (stamped : Int) (version : Nat) :
    World.Step name
      (((w.set i (some a)).believe a.identity leads).accept i a write stamped version)
      { w with
        stored := some (write.lease.asStored version)
        revision := version
        leads := Function.update w.leads a.identity (a.purpose.believes true leads)
        stamp := if a.purpose = .release then w.stamp
          else Function.update w.stamp a.identity stamped } := by
  have hidle : Function.update w.attempts i none = w.attempts :=
    Function.update_eq_self_iff.2 free.symm
  have hstep : World.Step name
      (((w.set i (some a)).believe a.identity leads).accept i a write stamped version) _ :=
    .finish (Function.update_self ..) awaited (.inl rfl)
  simpa only [World.set, World.believe, World.accept, Function.update_idem, Function.update_self,
    hidle] using hstep

/-- It acquires the lease, if it may write it. -/
theorem acquire_run (identity : String) {i : Nat} (free : w.attempts i = none)
    (may : w.MayStart identity .acquire)
    (writes : Purpose.acquire.write? name identity w.stored w.clock w.clock = some write)
    (accepts : w.Accepts write) :
    Relation.ReflTransGen (World.Step name) w
      { w with
        stored := some (write.lease.asStored (w.revision + 1))
        revision := w.revision + 1
        leads := Function.update w.leads identity true
        stamp := Function.update w.stamp identity w.clock } := by
  have hfinish : World.Step name _ _ := finish_step
    (a := { identity, purpose := .acquire, stage := .ready w.stored w.clock w.clock }) free rfl
    (w.leads identity && true) write w.clock (w.revision + 1)
  rw [Purpose.believes, Bool.or_true, if_neg nofun] at hfinish
  refine (send_run identity .acquire free may).trans (.head ?_ (.single hfinish))
  exact .accept (Function.update_self ..) rfl writes accepts (Nat.lt_succ_self _)

/-- Nobody has begun, and there is no lease. -/
def vacant : World where
  clock := 0
  stored := none
  revision := 0
  attempts _ := none
  leads _ := false
  stamp _ := 0

/-- Whatever the candidates do, and however their steps interleave, two of them that act as leader at
one time are the same, and a renewal or a release is accepted only of the candidate whose lease is
stored. -/
theorem leader_unique {w₀ : World} (h₀ : w₀.Initial)
    (hrun : Relation.ReflTransGen (World.Step name) w₀ w) :
    (∀ identity other, w.Acts identity → w.Acts other → identity = other) ∧
      ∀ i a found decided stamped write, w.attempts i = some a → a.purpose ≠ .acquire →
        a.stage = .ready found decided stamped →
        a.purpose.write? name a.identity found decided stamped = some write → w.Accepts write →
        w.stored.bind Lease.holder? = some a.identity := by
  have h := (Sound.of_initial h₀).run hrun
  constructor
  · rintro identity other ⟨hl, ht⟩ ⟨hl', ht'⟩
    obtain ⟨l, s, hstored, hspec, hholder, -⟩ := h.held identity (.inl hl) ht
    obtain ⟨l', s', hstored', hspec', hholder', -⟩ := h.held other (.inl hl') ht'
    cases hstored.symm.trans hstored'
    cases hspec.symm.trans hspec'
    exact Option.some.inj (hholder.symm.trans hholder')
  · intro i a found decided stamped write ha hp hs hwrite hacc
    have hw := writes_of_write? hwrite
    rw [h.stored_eq_found ha hs hw hacc]
    cases hw with
    | create hp' _ => exact absurd hp' hp
    | release _ his hholder => rw [his]; exact hholder
    | claim _ his hmay =>
      obtain hm | ⟨hp', -⟩ := hmay
      · rw [his]
        exact hm
      · exact absurd hp' hp

/-- East has acquired the lease that west let expire, and west, who still believes that it leads, no
longer acts as leader. -/
theorem leader_unique_takeover : vacant.Initial ∧
    ∃ w, Relation.ReflTransGen (World.Step "leader") vacant w ∧ w.leads "west" = true ∧
      w.Acts "east" ∧ ∀ identity, w.Acts identity → identity = "east" := by
  have hvacant : vacant.Initial := ⟨fun _ => rfl, fun _ => rfl, fun l hl => by cases hl⟩
  have idle {w : World} {identity : String} (h : ∀ i, w.attempts i = none) :
      w.MayStart identity .acquire := fun i a ha => by cases (h i).symm.trans ha
  have hwest : Relation.ReflTransGen (World.Step "leader") vacant _ :=
    acquire_run "west" (i := 0) rfl (idle fun _ => rfl) rfl rfl
  have hexpired : LeaseSpec.decision ((Lease.created "leader" "west" (.ofNanos 0)).asStored 1).spec
      "east" (.ofNanos 16000000000) = .takeOver := by decide
  have heast := (hwest.tail (.tick (t := 16000000000) (by decide))).trans <|
    acquire_run "east" (i := 0) rfl (idle fun _ => rfl) (write?_of_takeOver hexpired)
      ⟨_, rfl, rfl⟩
  refine ⟨hvacant, _, heast, rfl, ?acts, fun identity h =>
    (leader_unique hvacant heast).1 identity "east" h ?acts⟩
  exact ⟨rfl, by decide⟩

end Election

end ControlPlane
