import Mathlib.Data.List.TakeWhile
import Mathlib.Data.Nat.Digits.Defs
import ControlPlane.Proofs.Time.Calendar
import ControlPlane.Time.Rfc3339

/-!
# Instants written and read

An instant that the calendar reaches and that is written with whole seconds is read back with what finer
digits it had cut off (`parse?_text`), and it is written the same way again (`text_cut`). Whatever is read
is such an instant (`inRange_of_parse?`).
-/

namespace ControlPlane

namespace Instant

/-- The year of an instant. -/
def year (t : Instant) : Int :=
  (civilOfDay t.day).year

/-- The year is one that is written with four digits. -/
def InYears (t : Instant) : Prop :=
  0 ≤ t.year ∧ t.year ≤ 9999

instance : DecidablePred InYears := fun t => inferInstanceAs (Decidable (0 ≤ t.year ∧ t.year ≤ 9999))

/-- The calendar reaches the year. -/
def InRange (t : Instant) : Prop :=
  Rfc3339.yearInRange t.year = true

instance : DecidablePred InRange := fun t =>
  inferInstanceAs (Decidable (Rfc3339.yearInRange t.year = true))

/-- The calendar reaches the years that are written with four digits. -/
theorem InYears.inRange {t : Instant} (h : t.InYears) : t.InRange := by
  obtain ⟨hlow, hhigh⟩ := h
  rw [InRange, Rfc3339.yearInRange, Bool.and_eq_true, decide_eq_true_eq, decide_eq_true_eq]
  omega

/-- Nothing finer than a second: the beginning of a second, or of a leap second. -/
def IsWhole (t : Instant) : Prop :=
  t.nano = 0 ∨ t.nano = nanosPerSecond ∧ t.second % 60 = 59

instance : DecidablePred IsWhole := fun t =>
  inferInstanceAs (Decidable (t.nano = 0 ∨ t.nano = nanosPerSecond ∧ t.second % 60 = 59))

/-- What is left of an instant when it is written with whole seconds. A leap second that is not the
last of its minute is written as the next one. -/
def cut (t : Instant) : Instant :=
  if t.inLeapSecond then
    if t.second % 60 = 59 then ⟨t.second, nanosPerSecond⟩ else ⟨t.second + 1, 0⟩
  else ⟨t.second, 0⟩

theorem cut_eq_self {t : Instant} (h : t.IsWhole) : t.cut = t := by
  obtain ⟨s, n⟩ := t
  obtain rfl | ⟨rfl, h⟩ := h
  · rfl
  · exact if_pos h

end Instant

namespace Rfc3339

/-! ## Digits -/

theorem not_whiteSpace_of_isDigit {c : Char} (h : c.isDigit = true) :
    Text.whiteSpace.contains c = false := by
  simp only [Char.isDigit, Bool.and_eq_true, decide_eq_true_eq, ge_iff_le, UInt32.le_iff_toNat_le] at h
  simp only [Text.Ranges.contains, Text.whiteSpace, List.any_cons, List.any_nil, Bool.or_false,
    Bool.or_eq_false_iff, Bool.and_eq_false_iff, decide_eq_false_iff_not]
  change 48 ≤ c.toNat ∧ c.toNat ≤ 57 at h
  omega

variable {w n : Nat}

theorem length_padded (hw : 0 < w) (h : n < 10 ^ w) : (padded w n).length = w := by
  have := Nat.toDigits_length 10 n w hw h
  simp only [padded, List.length_append, List.length_replicate]
  omega

theorem isDigit_of_mem_padded {c : Char} (h : c ∈ padded w n) : c.isDigit = true := by
  rw [padded, List.mem_append, List.mem_replicate] at h
  obtain ⟨-, rfl⟩ | h := h
  · rfl
  · exact Nat.isDigit_of_mem_toDigits (by decide) (by decide) h

theorem decimalValue_padded (w n : Nat) : Text.decimalValue (padded w n) = n := by
  rw [padded, Text.decimalValue_replicate_append, Text.decimalValue_toDigits]

/-- Digits stand where they are written. -/
theorem exists_padded_eq_cons (hw : 0 < w) (h : n < 10 ^ w) :
    ∃ d ds, padded w n = d :: ds ∧ d.isDigit = true := by
  have hlen : 0 < (padded w n).length := by rwa [length_padded hw h]
  obtain ⟨d, ds, hd⟩ := List.exists_cons_of_length_pos hlen
  exact ⟨d, ds, hd, isDigit_of_mem_padded (hd ▸ List.mem_cons_self)⟩

theorem trimStart_padded (hw : 0 < w) (h : n < 10 ^ w) (rest : List Char) :
    Text.trimStart (padded w n ++ rest) = padded w n ++ rest := by
  obtain ⟨d, ds, hd, hdigit⟩ := exists_padded_eq_cons hw h
  rw [hd, List.cons_append, Text.trimStart, List.dropWhile_cons_of_neg]
  rw [not_whiteSpace_of_isDigit hdigit]
  exact Bool.false_ne_true

theorem number_padded (hw : 0 < w) (h : n < 10 ^ w) (rest : List Char) :
    number w (padded w n ++ rest) = some (n, rest) := by
  have hlen := length_padded hw h
  have htake : (padded w n ++ rest).take w = padded w n := List.take_left' hlen
  have hdigits : (padded w n).takeWhile Char.isDigit = padded w n :=
    List.takeWhile_eq_self_iff.2 fun c hc => isDigit_of_mem_padded hc
  obtain ⟨d, ds, hd, -⟩ := exists_padded_eq_cons hw h
  have hne : (padded w n).isEmpty = false := by rw [hd]; rfl
  simp only [number, trimStart_padded hw h, htake, hdigits, hne, Bool.false_eq_true, if_false,
    decimalValue_padded, hlen, List.drop_left' hlen]

theorem year_padded (h : n < 10 ^ 4) (rest : List Char) :
    year (padded 4 n ++ rest) = some ((n : Int), rest) := by
  have hnumber := number_padded (by decide) h rest
  obtain ⟨d, ds, hd, hdigit⟩ := exists_padded_eq_cons (by decide : 0 < 4) h
  have htrim := trimStart_padded (by decide : 0 < 4) h rest
  rw [hd, List.cons_append] at hnumber htrim ⊢
  simp only [year, htrim]
  split
  · next heq =>
    cases heq
    cases hdigit
  · next heq =>
    cases heq
    cases hdigit
  · rw [hnumber]
    rfl

/-- A year behind its sign, which a mark follows. -/
theorem year_signed {sign : Char} (hsign : sign = '-' ∨ sign = '+') (n : Nat) (rest : List Char) :
    year (sign :: (padded 4 n ++ '-' :: rest)) =
      some (if sign = '-' then -(n : Int) else n, '-' :: rest) := by
  have hdigits : (padded 4 n ++ '-' :: rest).takeWhile Char.isDigit = padded 4 n := by
    rw [List.takeWhile_append_of_pos fun c hc => isDigit_of_mem_padded hc,
      List.takeWhile_cons_of_neg (by decide), List.append_nil]
  have hne : (padded 4 n).isEmpty = false := by
    rw [List.isEmpty_eq_false_iff, padded]
    exact List.append_ne_nil_of_right_ne_nil _ Nat.toDigits_ne_nil
  have hdrop : (padded 4 n ++ '-' :: rest).drop (padded 4 n).length = '-' :: rest :=
    List.drop_left
  rcases hsign with rfl | rfl
  · have htrim : Text.trimStart ('-' :: (padded 4 n ++ '-' :: rest)) =
        '-' :: (padded 4 n ++ '-' :: rest) := List.dropWhile_cons_of_neg (by decide)
    simp [year, htrim, hdigits, hne, hdrop, decimalValue_padded]
  · have htrim : Text.trimStart ('+' :: (padded 4 n ++ '-' :: rest)) =
        '+' :: (padded 4 n ++ '-' :: rest) := List.dropWhile_cons_of_neg (by decide)
    simp [year, htrim, hdigits, hne, hdrop, decimalValue_padded]

/-- A year is read as it was written, with its sign or without one. -/
theorem year_yearText (y : Int) (rest : List Char) :
    year (yearText y ++ '-' :: rest) = some (y, '-' :: rest) := by
  unfold yearText
  split
  · next h =>
    rw [year_padded (by omega), Int.toNat_of_nonneg h.1]
  · next h =>
    by_cases hneg : y < 0
    · rw [if_pos hneg, List.cons_append, year_signed (.inl rfl), if_pos rfl]
      have hy : -(y.natAbs : Int) = y := by omega
      rw [hy]
    · rw [if_neg hneg, List.cons_append, year_signed (.inr rfl), if_neg (by decide)]
      have hy : (y.natAbs : Int) = y := by omega
      rw [hy]

theorem mark_cons {c : Char} (h : Text.whiteSpace.contains c = false) (rest : List Char) :
    mark c (c :: rest) = some rest := by
  have htrim : Text.trimStart (c :: rest) = c :: rest :=
    List.dropWhile_cons_of_neg (by rw [h]; exact Bool.false_ne_true)
  simp only [mark, htrim, if_true]

/-! ## Instants -/

/-- What is read, field by field, when the time is in UTC and has no fraction. -/
theorem parse?_eq_of_fields {s : String} {y : Int} {mo d h mi sec : Nat} {t : Instant}
    {r₁ r₂ r₃ r₄ r₅ r₆ r₇ r₈ r₉ : List Char} (hy : year s.toList = some (y, r₁))
    (h₁ : mark '-' r₁ = some r₂) (hmo : number 2 r₂ = some (mo, r₃)) (h₂ : mark '-' r₃ = some r₄)
    (hd : number 2 r₄ = some (d, 'T' :: r₅)) (hh : number 2 r₅ = some (h, r₆))
    (h₃ : mark ':' r₆ = some r₇) (hmi : number 2 r₇ = some (mi, r₈)) (h₄ : mark ':' r₈ = some r₉)
    (hsec : number 2 r₉ = some (sec, ['Z'])) (hvalid : (CivilDate.mk y mo d).isValid = true)
    (hrange : yearInRange y = true) (hhour : h < 24) (hminute : mi < 60) (hsecond : sec ≤ 60)
    (ht : ⟨dayOfCivil ⟨y, mo, d⟩ * 86400 + (h * 3600 + mi * 60 + (min sec 59 : Nat)),
      if sec = 60 then nanosPerSecond else 0⟩ = t) (hutc : yearInRange t.year = true) :
    parse? s = some t := by
  have hf : fraction ['Z'] = some (0, ['Z']) := rfl
  have ho : offset (Text.trimStart ['Z']) = some (0, []) := rfl
  have hend : (Text.trimStart []).isEmpty = true := rfl
  rw [parse?, hy]
  dsimp only [Option.bind_eq_bind, Option.bind_some]
  rw [h₁, Option.bind_some, hmo, Option.bind_some, h₂, Option.bind_some, hd, Option.bind_some]
  dsimp only
  rw [if_pos (.inl rfl), hh, Option.bind_some, h₃, Option.bind_some, hmi, Option.bind_some, h₄,
    Option.bind_some, hsec, Option.bind_some, hf, Option.bind_some, ho, Option.bind_some,
    Int.sub_zero, Nat.zero_add, ht, if_neg, if_pos]
  · exact hutc
  · simp [hvalid, hrange, hend]
    omega

/-- The second of the minute in which an instant lies, 60 in the leap second of a minute. -/
def secondOfMinute (t : Instant) : Nat :=
  t.secondOfDay.toNat % 60 + if t.inLeapSecond then 1 else 0

theorem secondOfMinute_le (t : Instant) : secondOfMinute t ≤ 60 := by
  rw [secondOfMinute]
  split <;> omega

theorem secondOfDay_lt (t : Instant) : t.secondOfDay.toNat < 86400 := by
  rw [Instant.secondOfDay]
  omega

/-- An instant is written field by field. -/
theorem toList_text (t : Instant) :
    (text .seconds t).toList = yearText t.year ++ '-' :: (padded 2 (civilOfDay t.day).month ++
      '-' :: (padded 2 (civilOfDay t.day).day ++ 'T' :: (padded 2 (t.secondOfDay.toNat / 3600) ++
      ':' :: (padded 2 (t.secondOfDay.toNat / 60 % 60) ++ ':' :: (padded 2 (secondOfMinute t) ++
      ['Z']))))) := by
  simp only [text, String.toList_ofList, Instant.year, secondOfMinute, List.append_assoc,
    List.cons_append, List.nil_append]

/-- The fields that are written of an instant make up what is left of it. -/
theorem fields_eq_cut (t : Instant) :
    (⟨t.day * 86400 + ((t.secondOfDay.toNat / 3600 : Nat) * 3600 +
        (t.secondOfDay.toNat / 60 % 60 : Nat) * 60 + (min (secondOfMinute t) 59 : Nat)),
      if secondOfMinute t = 60 then nanosPerSecond else 0⟩ : Instant) = t.cut := by
  have hlt := secondOfDay_lt t
  obtain ⟨clock, hclock⟩ : ∃ clock, clock = t.secondOfDay.toNat := ⟨_, rfl⟩
  have hsecond : t.second = t.day * 86400 + clock := by
    rw [hclock, Instant.day, Instant.secondOfDay]
    omega
  have hminute : t.second % 60 = (clock % 60 : Nat) := by omega
  simp only [secondOfMinute, ← hclock, Instant.cut, hminute] at hlt ⊢
  split
  · split_ifs <;> simp only [Instant.mk.injEq, and_true] <;> omega
  · rw [if_neg (by omega), Instant.mk.injEq]
    omega

theorem day_cut (t : Instant) : t.cut.day = t.day := by
  rw [← fields_eq_cut t]
  have hlt := secondOfDay_lt t
  have hle := secondOfMinute_le t
  simp only [Instant.day]
  omega

theorem lt_of_isValid {date : CivilDate} (h : date.isValid = true) :
    date.month < 10 ^ 2 ∧ date.day < 10 ^ 2 := by
  have hmax : daysInMonth date.year date.month ≤ 31 := by
    rw [daysInMonth]
    split_ifs <;> decide
  simp only [CivilDate.isValid, Bool.and_eq_true, decide_eq_true_eq] at h
  omega

/-- An instant that the calendar reaches is read back from its text, without what is finer than a
second. -/
theorem parse?_text {t : Instant} (h : t.InRange) : parse? (text .seconds t) = some t.cut := by
  have hvalid := isValid_civilOfDay t.day
  obtain ⟨hmonth, hday⟩ := lt_of_isValid hvalid
  have hdate : CivilDate.mk t.year (civilOfDay t.day).month (civilOfDay t.day).day =
      civilOfDay t.day := rfl
  have hlt := secondOfDay_lt t
  have hsec := secondOfMinute_le t
  refine parse?_eq_of_fields (toList_text t ▸ year_yearText _ _)
    (mark_cons rfl _) (number_padded (by decide) hmonth _) (mark_cons rfl _)
    (number_padded (by decide) hday _) (number_padded (by decide) (by omega) _)
    (mark_cons rfl _) (number_padded (by decide) (by omega) _) (mark_cons rfl _)
    (number_padded (by decide) (by omega) _) (hdate ▸ hvalid) h (by omega) (by omega) hsec ?_ ?_
  · rw [hdate, dayOfCivil_civilOfDay]
    exact fields_eq_cut t
  · rw [Instant.year, day_cut]
    exact h

/-- What is read is an instant that the calendar reaches. -/
theorem inRange_of_parse? {s : String} {t : Instant} (h : parse? s = some t) : t.InRange := by
  rw [parse?] at h
  iterate 5 obtain ⟨_, -, h⟩ := Option.bind_eq_some_iff.1 h
  dsimp only at h
  split at h
  · split at h
    · iterate 8 obtain ⟨_, -, h⟩ := Option.bind_eq_some_iff.1 h
      simp only [Option.ite_none_left_eq_some, Option.ite_none_right_eq_some] at h
      obtain ⟨-, hrange, ht⟩ := h
      cases ht
      exact hrange
    · cases h
  · cases h

/-- The text tells the day, the minute of the day and the second of the minute, and nothing else. -/
theorem text_congr {t u : Instant} (hday : u.day = t.day)
    (hminute : u.secondOfDay.toNat / 60 = t.secondOfDay.toNat / 60)
    (hsecond : secondOfMinute u = secondOfMinute t) : text .seconds u = text .seconds t := by
  have hhour : u.secondOfDay.toNat / 3600 = t.secondOfDay.toNat / 3600 := by omega
  simp only [secondOfMinute] at hsecond
  simp only [text, hday, hhour, hminute, hsecond]

/-- What is left of an instant is written as the instant is. -/
theorem text_cut (t : Instant) : text .seconds t.cut = text .seconds t := by
  obtain ⟨second, nano⟩ := t
  have hstart : nanosPerSecond ≠ 0 := by decide
  simp only [Instant.cut, Instant.inLeapSecond, decide_eq_true_eq]
  split_ifs with hleap hlast
  · refine text_congr rfl rfl ?_
    simp [secondOfMinute, Instant.inLeapSecond, Instant.secondOfDay, hleap]
  · refine text_congr ?_ ?_ ?_
    · simp only [Instant.day]
      omega
    · simp only [Instant.secondOfDay]
      omega
    · simp [secondOfMinute, Instant.inLeapSecond, Instant.secondOfDay, hleap, hstart]
      omega
  · refine text_congr rfl rfl ?_
    simp [secondOfMinute, Instant.inLeapSecond, Instant.secondOfDay, hleap, hstart]

end Rfc3339

end ControlPlane
