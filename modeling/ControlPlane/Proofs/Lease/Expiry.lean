import ControlPlane.Lease.Decision

/-!
# When a lease expires

A lease counts until more whole seconds than its duration have passed since it was renewed. The fraction
of a second is cut off towards zero, so a lease with a duration of no less than zero expires a second
after its duration is over, and one with a negative duration as soon as the time is past (`lt_tdiv_iff`).
What has expired stays so, and its holder renews it all the same (`decision_expires`).

All of this is exact but for leap seconds. A time inside one may count as a second earlier than a time
of another hour of the day, so each bound gives way by a second for each such time in it (`slack`). This
is not for nothing: a lease that was renewed inside a leap second and has expired late on a day counts
again from midnight on (`decision_counts_again`).
-/

namespace ControlPlane

namespace Instant

/-- Nanoseconds since 1970-01-01T00:00:00Z, a leap second counted on. -/
def nanos (t : Instant) : Int :=
  t.second * nanosPerSecond + t.nano

/-- By how much a difference from or to a time may be off: a second inside leap seconds, and nothing at
other times. -/
def slack (t : Instant) : Int :=
  if t.inLeapSecond then nanosPerSecond else 0

theorem slack_eq_zero {t : Instant} (h : t.inLeapSecond = false) : t.slack = 0 := by
  rw [slack, h, if_neg Bool.false_ne_true]

/-- Up to a second more has passed since a time inside a leap second, and up to a second less at one. -/
theorem since_bounds (t earlier : Instant) :
    t.nanos - earlier.nanos - t.slack ≤ t.since earlier ∧
      t.since earlier ≤ t.nanos - earlier.nanos + earlier.slack := by
  -- which of the two comes later in its day, and which lies inside a leap second
  simp only [since, nanos, slack, nanosPerSecond]
  repeat' split
  all_goals omega

theorem since_eq_sub {t earlier : Instant} (ht : t.inLeapSecond = false)
    (he : earlier.inLeapSecond = false) : t.since earlier = t.nanos - earlier.nanos := by
  obtain ⟨hleast, hmost⟩ := since_bounds t earlier
  rw [slack_eq_zero ht] at hleast
  rw [slack_eq_zero he] at hmost
  omega

end Instant

/-- More than so many seconds have passed, whole ones, the fraction being cut off towards zero. -/
theorem lt_tdiv_iff (seconds span : Int) :
    seconds < span.tdiv nanosPerSecond ↔
      if 0 ≤ seconds then (seconds + 1) * nanosPerSecond ≤ span
      else seconds * nanosPerSecond < span := by
  have hn : (nanosPerSecond : Int) = 1000000000 := rfl
  rw [hn]
  obtain hspan | hspan := Int.le_total 0 span
  · rw [Int.tdiv_eq_ediv_of_nonneg hspan]
    split <;> omega
  · -- the quotient of the opposite, which is rounded down
    have hopposite : span.tdiv 1000000000 = -(-span / 1000000000) := by
      rw [← Int.tdiv_eq_ediv_of_nonneg (by omega), Int.neg_tdiv, Int.neg_neg]
    rw [hopposite]
    split <;> omega

namespace LeaseSpec

/-- The seconds that the lease counts for, fifteen where it does not say. -/
def duration (s : LeaseSpec) : Int :=
  (s.leaseDurationSeconds.getD 15).toInt

/-- When the duration of the lease is over, in nanoseconds. -/
def deadline (s : LeaseSpec) (renewed : Instant) : Int :=
  renewed.nanos + s.duration * nanosPerSecond

/-- What another candidate than the holder does with a lease that was renewed at this time. -/
structure Expires (s : LeaseSpec) (identity : String) (renewed : Instant) : Prop where
  waits : ∀ now : Instant, now.nanos + renewed.slack ≤ s.deadline renewed →
    decision (some s) identity now = .wait
  takesOver : 0 ≤ s.duration → ∀ now : Instant,
    s.deadline renewed + nanosPerSecond + now.slack ≤ now.nanos →
      decision (some s) identity now = .takeOver
  stays : ∀ now later : Instant, now.nanos + renewed.slack + later.slack ≤ later.nanos →
    decision (some s) identity now = .takeOver → decision (some s) identity later = .takeOver
  /-- In the second between, the sign of the duration decides. -/
  exact : renewed.inLeapSecond = false → ∀ now : Instant, now.inLeapSecond = false →
    (decision (some s) identity now = .takeOver ↔
      if 0 ≤ s.duration then s.deadline renewed + nanosPerSecond ≤ now.nanos
      else s.deadline renewed < now.nanos)

variable {s : LeaseSpec} {holder identity : String} {renewed : MicroTime} {now : Instant}

theorem decision_of_holder (hholder : s.holderIdentity = some identity) (now : Instant) :
    decision (some s) identity now = .renew :=
  if_pos hholder

theorem decision_of_other (hholder : s.holderIdentity = some holder) (hne : holder ≠ identity)
    (now : Instant) :
    decision (some s) identity now = if s.isExpired now then .takeOver else .wait := by
  have hother : s.holderIdentity ≠ some identity := by
    rw [hholder]
    exact fun h => hne (Option.some.inj h)
  rw [decision, if_neg hother, hholder, Option.isNone_some, Bool.false_or]

theorem takeOver_iff (hholder : s.holderIdentity = some holder) (hne : holder ≠ identity) :
    decision (some s) identity now = .takeOver ↔ s.isExpired now = true := by
  rw [decision_of_other hholder hne]
  split <;> simp_all

theorem wait_iff (hholder : s.holderIdentity = some holder) (hne : holder ≠ identity) :
    decision (some s) identity now = .wait ↔ ¬ s.isExpired now = true := by
  rw [decision_of_other hholder hne]
  split <;> simp_all

theorem isExpired_iff (h : s.renewTime = some renewed) :
    s.isExpired now = true ↔
      if 0 ≤ s.duration then (s.duration + 1) * nanosPerSecond ≤ now.since renewed.instant
      else s.duration * nanosPerSecond < now.since renewed.instant := by
  rw [isExpired, h, ← lt_tdiv_iff]
  exact decide_eq_true_iff

/-- A lease that was taken over once enough time had passed is taken over whenever as much has. -/
theorem isExpired_of_since_le {later : Instant} (hrenewed : s.renewTime = some renewed)
    (hle : now.since renewed.instant ≤ later.since renewed.instant) (h : s.isExpired now = true) :
    s.isExpired later = true := by
  rw [isExpired_iff hrenewed] at h ⊢
  split <;> simp_all only [if_true, if_false] <;> omega

/-- A lease that another candidate holds expires when its duration is over. -/
theorem expires (hholder : s.holderIdentity = some holder) (hne : holder ≠ identity)
    (hrenewed : s.renewTime = some renewed) : s.Expires identity renewed.instant := by
  have hpositive : (0 : Int) < nanosPerSecond := by decide
  have hsum : (s.duration + 1) * nanosPerSecond = s.duration * nanosPerSecond + nanosPerSecond := by
    rw [Int.add_mul, Int.one_mul]
  have hmost (now : Instant) := (now.since_bounds renewed.instant).2
  have hleast (now : Instant) := (now.since_bounds renewed.instant).1
  refine ⟨fun now h => ?_, fun hd now h => ?_, fun now later hle h => ?_, fun hr now hnow => ?_⟩
  · rw [wait_iff hholder hne, isExpired_iff hrenewed, hsum]
    rw [deadline] at h
    have := hmost now
    split <;> omega
  · rw [takeOver_iff hholder hne, isExpired_iff hrenewed, if_pos hd, hsum]
    rw [deadline] at h
    have := hleast now
    omega
  · rw [takeOver_iff hholder hne] at h ⊢
    have := hmost now
    have := hleast later
    exact isExpired_of_since_le hrenewed (by omega) h
  · rw [takeOver_iff hholder hne, isExpired_iff hrenewed, Instant.since_eq_sub hnow hr, deadline, hsum]
    split <;> omega

/-- The holder of a lease renews it at any time. Any other candidate takes it over if it was never
renewed. If it was, the candidate waits until the duration is over and takes over from a second later on,
or at once where the duration is negative, and having expired the lease stays so; where one of the times
lies inside a leap second, each bound gives way by a second. -/
theorem decision_expires (hholder : s.holderIdentity = some holder) :
    (∀ now, decision (some s) holder now = .renew) ∧
    ∀ identity, holder ≠ identity →
      (s.renewTime = none → ∀ now, decision (some s) identity now = .takeOver) ∧
      ∀ renewed, s.renewTime = some renewed → s.Expires identity renewed.instant := by
  refine ⟨decision_of_holder hholder, fun identity hne => ⟨fun hnone now => ?_,
    fun renewed hrenewed => expires hholder hne hrenewed⟩⟩
  rw [takeOver_iff hholder hne, isExpired, hnone]

/-- A lease that west renewed at half past a second, and that does not say how long it counts. -/
def westLease : LeaseSpec where
  holderIdentity := some "west"
  renewTime := some ⟨⟨100, 500000000⟩⟩

/-- East waits until the fifteen seconds are over, and takes the lease over from the sixteenth on, also
inside a leap second, when west would still renew it. -/
theorem decision_expires_west :
    decision (some westLease) "east" ⟨115, 500000000⟩ = .wait ∧
      decision (some westLease) "east" ⟨116, 500000000⟩ = .takeOver ∧
      decision (some westLease) "east" ⟨119, 1500000000⟩ = .takeOver ∧
      decision (some westLease) "east" ⟨900, 1⟩ = .takeOver ∧
      decision (some westLease) "west" ⟨900, 1⟩ = .renew := by
  obtain ⟨hrenews, hothers⟩ := decision_expires (s := westLease) rfl
  have hexpires := (hothers "east" (by decide)).2 _ rfl
  have htaken := hexpires.takesOver (by decide) ⟨116, 500000000⟩ (by decide)
  exact ⟨hexpires.waits _ (by decide), htaken, hexpires.takesOver (by decide) _ (by decide),
    hexpires.stays _ _ (by decide) htaken, hrenews _⟩

/-- A lease that was renewed inside a leap second in the middle of a day. -/
def leapLease : LeaseSpec where
  holderIdentity := some "west"
  leaseDurationSeconds := some 41339
  renewTime := some ⟨⟨1483187459, 1500000000⟩⟩

/-- East may take it over before midnight, and has to wait again at midnight. -/
theorem decision_counts_again :
    let evening : Instant := ⟨1483228799, 600000000⟩
    let midnight : Instant := ⟨1483228800, 0⟩
    Rfc3339.parse? "2016-12-31T12:30:60.5Z" = leapLease.renewTime.map (·.instant) ∧
      Rfc3339.parse? "2016-12-31T23:59:59.6Z" = some evening ∧
      Rfc3339.parse? "2017-01-01T00:00:00Z" = some midnight ∧ evening.nanos < midnight.nanos ∧
      decision (some leapLease) "east" evening = .takeOver ∧
      decision (some leapLease) "east" midnight = .wait := by
  decide +kernel

-- inside a leap second of the next day a lease counts a second longer
example :
    let evening : Instant := ⟨1483221600, 0⟩
    let leap : Instant := ⟨1483228859, 1000000000⟩
    let lease : LeaseSpec :=
      { holderIdentity := some "west", leaseDurationSeconds := some 7259, renewTime := some ⟨evening⟩ }
    lease.deadline evening + nanosPerSecond ≤ leap.nanos ∧
      decision (some lease) "east" leap = .wait := by
  decide +kernel

end LeaseSpec

end ControlPlane
