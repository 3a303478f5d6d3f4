import Mathlib.Algebra.BigOperators.Intervals
import Mathlib.Algebra.Order.BigOperators.Group.Finset
import ConfigArtifact.Canonical.Timestamp

/-! Civil times on the proleptic Gregorian calendar, as instants counted in
microseconds. -/

set_option autoImplicit false

namespace ConfigArtifact

/-- Positions in consecutive blocks are ordered by block, then inside the block. -/
theorem sum_Ico_add_lt {lengths : Nat → Nat} {start m n x y : Nat} (first : start ≤ m)
    (second : start ≤ n) (inside : 1 ≤ x ∧ x ≤ lengths m) (other : 1 ≤ y ∧ y ≤ lengths n) :
    ∑ i ∈ Finset.Ico start m, lengths i + x < ∑ i ∈ Finset.Ico start n, lengths i + y ↔
      m < n ∨ m = n ∧ x < y := by
  have later : ∀ {a b}, start ≤ a → a < b →
      ∑ i ∈ Finset.Ico start a, lengths i + lengths a ≤ ∑ i ∈ Finset.Ico start b, lengths i := by
    intro a b above before
    rw [← Finset.sum_Ico_succ_top above]
    exact Finset.sum_le_sum_of_subset (Finset.Ico_subset_Ico_right before)
  rcases Nat.lt_trichotomy m n with before | rfl | after
  · have := later first before
    omega
  · omega
  · have := later second after
    omega

theorem mul_add_lt {width a b x y : Nat} (inside : x < width) (other : y < width) :
    a * width + x < b * width + y ↔ a < b ∨ a = b ∧ x < y := by
  have later : ∀ {m n}, m < n → m * width + width ≤ n * width := by
    intro m n before
    rw [← Nat.succ_mul]
    exact Nat.mul_le_mul_right width before
  rcases Nat.lt_trichotomy a b with before | rfl | after
  · have := later before
    omega
  · omega
  · have := later after
    omega

def daysBeforeMonth (year month : Nat) : Nat := ∑ m ∈ Finset.Ico 1 month, daysInMonth year m

def daysInYear (year : Nat) : Nat := daysBeforeMonth year 13

/-- The number of a day, counted from the beginning of the year 0. -/
def ordinal (year month day : Nat) : Nat :=
  ∑ y ∈ Finset.Ico 0 year, daysInYear y + (daysBeforeMonth year month + day)

def IsDate (year month day : Nat) : Prop :=
  (1 ≤ month ∧ month ≤ 12) ∧ 1 ≤ day ∧ day ≤ daysInMonth year month

theorem daysInYear_after {year month day : Nat} (date : IsDate year month day) :
    1 ≤ daysBeforeMonth year month + day ∧ daysBeforeMonth year month + day ≤ daysInYear year := by
  obtain ⟨months, days⟩ := date
  have later : daysBeforeMonth year month + daysInMonth year month ≤ daysInYear year := by
    rw [daysBeforeMonth, ← Finset.sum_Ico_succ_top months.1]
    exact Finset.sum_le_sum_of_subset (Finset.Ico_subset_Ico_right (Nat.succ_le_succ months.2))
  omega

theorem ordinal_lt {year month day year' month' day' : Nat} (date : IsDate year month day)
    (other : IsDate year' month' day') :
    ordinal year month day < ordinal year' month' day' ↔
      year < year' ∨ year = year' ∧ (month < month' ∨ month = month' ∧ day < day') := by
  rw [ordinal, ordinal, sum_Ico_add_lt (Nat.zero_le _) (Nat.zero_le _) (daysInYear_after date)
    (daysInYear_after other)]
  apply or_congr_right
  apply and_congr_right
  rintro rfl
  exact sum_Ico_add_lt date.1.1 other.1.1 date.2 other.2

theorem ordinal_inj {year month day year' month' day' : Nat} (date : IsDate year month day)
    (other : IsDate year' month' day') :
    ordinal year month day = ordinal year' month' day' ↔
      year = year' ∧ month = month' ∧ day = day' := by
  constructor
  · intro same
    have notBefore := (ordinal_lt date other).not.mp (by omega)
    have notAfter := (ordinal_lt other date).not.mp (by omega)
    omega
  · rintro ⟨rfl, rfl, rfl⟩
    rfl

theorem CivilTime.isDate (time : CivilTime) : IsDate time.year time.month time.day :=
  ⟨time.month_range, time.day_range⟩

theorem CivilTime.microsecondOfDay_lt (time : CivilTime) : time.microsecondOfDay < 86400000000 := by
  have hour := time.hour_range
  have minute := time.minute_range
  have second := time.second_range
  have microsecond := time.microsecond_range
  unfold microsecondOfDay
  omega

/-- The instant a civil time in UTC stands for, in microseconds. -/
def CivilTime.instant (time : CivilTime) : Nat :=
  ordinal time.year time.month time.day * 86400000000 + time.microsecondOfDay

def CivilTime.fields (time : CivilTime) : List Nat :=
  [time.year, time.month, time.day, time.hour, time.minute, time.second, time.microsecond]

theorem CivilTime.microsecondOfDay_lt_iff (a b : CivilTime) :
    a.microsecondOfDay < b.microsecondOfDay ↔
      [a.hour, a.minute, a.second, a.microsecond] <
        [b.hour, b.minute, b.second, b.microsecond] := by
  have minutes := a.minute_range
  have seconds := a.second_range
  have microseconds := a.microsecond_range
  have minutes' := b.minute_range
  have seconds' := b.second_range
  have microseconds' := b.microsecond_range
  simp only [List.cons_lt_cons_iff, List.not_lt_nil, and_false, or_false]
  unfold microsecondOfDay
  omega

/-- Time passes as the fields do, the year first. -/
theorem CivilTime.instant_lt (a b : CivilTime) : a.instant < b.instant ↔ a.fields < b.fields := by
  rw [instant, instant, mul_add_lt a.microsecondOfDay_lt b.microsecondOfDay_lt,
    ordinal_lt a.isDate b.isDate, ordinal_inj a.isDate b.isDate, microsecondOfDay_lt_iff]
  simp only [fields, List.cons_lt_cons_iff, and_or_left, or_assoc, and_assoc]

theorem CivilTime.fields_inj {a b : CivilTime} (same : a.fields = b.fields) : a = b := by
  cases a
  cases b
  simpa [fields] using same

theorem CivilTime.instant_inj {a b : CivilTime} : a.instant = b.instant ↔ a = b := by
  constructor
  · intro same
    have notBefore := (instant_lt a b).not.mp (by omega)
    have notAfter := (instant_lt b a).not.mp (by omega)
    exact fields_inj (List.le_antisymm (List.not_lt.mp notAfter) (List.not_lt.mp notBefore))
  · exact congrArg instant

/-- The clock reading of a day's microsecond is the one that counts up to it. -/
theorem CivilTime.at_eq_some {year month day microseconds : Nat} {time : CivilTime}
    (date : IsDate year month day) (inDay : microseconds < 86400000000) :
    CivilTime.at year month day microseconds = some time ↔
      time.instant = ordinal year month day * 86400000000 + microseconds := by
  constructor
  · intro created
    unfold CivilTime.at CivilTime.create at created
    split at created
    · cases created
      unfold instant microsecondOfDay
      dsimp only
      omega
    · cases created
  · intro same
    have clock := time.microsecondOfDay_lt
    have days : ordinal time.year time.month time.day = ordinal year month day := by
      unfold instant at same
      omega
    have moment : time.microsecondOfDay = microseconds := by
      unfold instant at same
      omega
    obtain ⟨rfl, rfl, rfl⟩ := (ordinal_inj time.isDate date).mp days
    have self := time.create_self
    have minute := time.minute_range
    have second := time.second_range
    have microsecond := time.microsecond_range
    unfold microsecondOfDay at moment
    have hours : microseconds / 3600000000 = time.hour := by omega
    have minutes : microseconds / 60000000 % 60 = time.minute := by omega
    have seconds : microseconds / 1000000 % 60 = time.second := by omega
    have rest : microseconds % 1000000 = time.microsecond := by omega
    rw [CivilTime.at, hours, minutes, seconds, rest, self]

theorem daysInMonth_pos (year month : Nat) : 1 ≤ daysInMonth year month := by
  unfold daysInMonth
  split
  · split <;> omega
  · split <;> omega

theorem daysBeforeMonth_succ {year month : Nat} (first : 1 ≤ month) :
    daysBeforeMonth year (month + 1) = daysBeforeMonth year month + daysInMonth year month :=
  Finset.sum_Ico_succ_top first _

/-- The last day of December is followed by the first of January. -/
theorem ordinal_newYear (year : Nat) : ordinal (year + 1) 1 1 = ordinal year 12 31 + 1 := by
  have december : daysInYear year = daysBeforeMonth year 12 + 31 :=
    daysBeforeMonth_succ (by decide)
  have january : daysBeforeMonth (year + 1) 1 = 0 := by simp [daysBeforeMonth]
  rw [ordinal, ordinal, Finset.sum_Ico_succ_top (Nat.zero_le year), december, january]

theorem nextDay_ordinal {year month day : Nat} (date : IsDate year month day)
    {next : Nat × Nat × Nat} (stepped : nextDay year month day = next) :
    IsDate next.1 next.2.1 next.2.2 ∧
      ordinal next.1 next.2.1 next.2.2 = ordinal year month day + 1 := by
  obtain ⟨months, days⟩ := date
  subst stepped
  unfold nextDay
  split
  · next inside =>
    dsimp only
    refine ⟨⟨months, Nat.le_add_left 1 day, inside⟩, ?_⟩
    simp only [ordinal]
    omega
  · split
    · next last earlier =>
      dsimp only
      have later : 1 ≤ month + 1 ∧ month + 1 ≤ 12 := ⟨Nat.le_add_left 1 month, earlier⟩
      refine ⟨⟨later, le_refl 1, daysInMonth_pos year (month + 1)⟩, ?_⟩
      simp only [ordinal, daysBeforeMonth_succ months.1]
      omega
    · next last december =>
      dsimp only
      obtain rfl : month = 12 := by omega
      have length : daysInMonth year 12 = 31 := rfl
      obtain rfl : day = 31 := by omega
      have january : 1 ≤ 1 ∧ 1 ≤ 12 := by decide
      exact ⟨⟨january, le_refl 1, daysInMonth_pos (year + 1) 1⟩, ordinal_newYear year⟩

theorem previousDay_ordinal {year month day : Nat} (date : IsDate year month day)
    (past : 1 ≤ year) {previous : Nat × Nat × Nat}
    (stepped : previousDay year month day = previous) :
    IsDate previous.1 previous.2.1 previous.2.2 ∧
      ordinal previous.1 previous.2.1 previous.2.2 + 1 = ordinal year month day := by
  obtain ⟨months, days⟩ := date
  subst stepped
  unfold previousDay
  split
  · next inside =>
    dsimp only
    have earlier : day - 1 ≤ daysInMonth year month := by omega
    refine ⟨⟨months, Nat.le_sub_one_of_lt inside, earlier⟩, ?_⟩
    simp only [ordinal]
    omega
  · split
    · next first later =>
      obtain ⟨earlier, rfl⟩ : ∃ earlier, month = earlier + 1 := ⟨month - 1, by omega⟩
      simp only [Nat.add_sub_cancel]
      have start : 1 ≤ earlier := by omega
      have range : 1 ≤ earlier ∧ earlier ≤ 12 := by omega
      refine ⟨⟨range, daysInMonth_pos year earlier, le_refl _⟩, ?_⟩
      simp only [ordinal, daysBeforeMonth_succ start]
      omega
    · next first january =>
      obtain rfl : month = 1 := by omega
      obtain rfl : day = 1 := by omega
      obtain ⟨earlier, rfl⟩ : ∃ earlier, year = earlier + 1 := ⟨year - 1, by omega⟩
      simp only [Nat.add_sub_cancel]
      have december : (1 ≤ 12 ∧ 12 ≤ 12) ∧ 1 ≤ 31 ∧ 31 ≤ 31 := by decide
      exact ⟨december, (ordinal_newYear earlier).symm⟩

/-- `astimezone(UTC)` finds the civil time of the instant, if the calendar has one. -/
theorem CivilTime.toUtc_eq_some {time utc : CivilTime} {offset : Int}
    (range : -86400000000 < offset ∧ offset < 86400000000) :
    time.toUtc offset = some utc ↔ (utc.instant : Int) = time.instant - offset := by
  have clock := time.microsecondOfDay_lt
  have past := time.year_range.1
  unfold toUtc
  dsimp only
  split
  · cases stepped : previousDay time.year time.month time.day with
    | mk year rest =>
      obtain ⟨date, before⟩ := previousDay_ordinal time.isDate past stepped
      rw [at_eq_some date (by omega)]
      dsimp only at before ⊢
      simp only [instant] at before ⊢
      omega
  · split
    · rw [at_eq_some time.isDate (by omega)]
      simp only [instant]
      omega
    · cases stepped : nextDay time.year time.month time.day with
      | mk year rest =>
        obtain ⟨date, after⟩ := nextDay_ordinal time.isDate stepped
        rw [at_eq_some date (by omega)]
        dsimp only at after ⊢
        simp only [instant] at after ⊢
        omega

end ConfigArtifact
