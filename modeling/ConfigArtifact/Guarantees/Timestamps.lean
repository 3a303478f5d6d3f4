import ConfigArtifact.Canonical.Spelling

/-! Normalized timestamps: one text for one instant, ordered as time is. -/

set_option autoImplicit false

namespace ConfigArtifact

def DateTime.instant (value : DateTime) : Option Int :=
  value.utcoffset.map fun offset => value.civil.instant - offset

/-- `d` stands for a digit, every other character for itself. -/
def StandsFor (template c : Char) : Prop :=
  if template = 'd' then (asciiDigit c).isSome else c = template

def IsNormalized (text : String) : Prop :=
  List.Forall₂ StandsFor "dddd-dd-ddTdd:dd:dd.ddddddZ".toList text.toList

theorem padded_standsFor (width n : Nat) :
    List.Forall₂ StandsFor (List.replicate width 'd') (padded width n) := by
  induction width generalizing n with
  | zero => exact .nil
  | succ width ih =>
    rw [List.replicate_succ', padded]
    apply List.rel_append (ih (n / 10))
    have digit := (digit_facts (n % 10) (Nat.mod_lt n (by decide))).2.1
    exact .cons (by simp [StandsFor, digit]) .nil

theorem field_standsFor (width n : Nat) {c : Char} {template text : List Char}
    (literal : c ≠ 'd') (rest : List.Forall₂ StandsFor template text) :
    List.Forall₂ StandsFor (List.replicate width 'd' ++ c :: template)
      (padded width n ++ c :: text) := by
  apply List.rel_append (padded_standsFor width n)
  exact .cons (by simp [StandsFor, literal]) rest

theorem CivilTime.toList_strftime (time : CivilTime) :
    time.strftime.toList = padded 4 time.year ++ '-' :: (padded 2 time.month ++ '-' ::
      (padded 2 time.day ++ 'T' :: (padded 2 time.hour ++ ':' :: (padded 2 time.minute ++ ':' ::
        (padded 2 time.second ++ '.' :: (padded 6 time.microsecond ++ ['Z'])))))) :=
  String.toList_ofList

theorem CivilTime.strftime_normalized (time : CivilTime) : IsNormalized time.strftime := by
  have fraction : List.Forall₂ StandsFor (List.replicate 6 'd' ++ ['Z'])
      (padded 6 time.microsecond ++ ['Z']) := field_standsFor 6 _ (by decide) .nil
  have clock := field_standsFor 2 time.hour (c := ':') (by decide)
    (field_standsFor 2 time.minute (c := ':') (by decide)
      (field_standsFor 2 time.second (c := '.') (by decide) fraction))
  have date := field_standsFor 4 time.year (c := '-') (by decide)
    (field_standsFor 2 time.month (c := '-') (by decide)
      (field_standsFor 2 time.day (c := 'T') (by decide) clock))
  have template : "dddd-dd-ddTdd:dd:dd.ddddddZ".toList = List.replicate 4 'd' ++ '-' ::
      (List.replicate 2 'd' ++ '-' :: (List.replicate 2 'd' ++ 'T' :: (List.replicate 2 'd' ++
        ':' :: (List.replicate 2 'd' ++ ':' :: (List.replicate 2 'd' ++ '.' ::
          (List.replicate 6 'd' ++ ['Z'])))))) := rfl
  rw [IsNormalized, template, time.toList_strftime]
  exact date

theorem digitChar_lt : ∀ m < 10, ∀ n < 10,
    (digitChar m < digitChar n ↔ m < n) ∧ (digitChar m = digitChar n ↔ m = n) := by decide

/-- Numbers of one width are ordered as their texts are. -/
theorem padded_append_lt {width m n : Nat} (small : m < 10 ^ width) (other : n < 10 ^ width)
    (rest after : List Char) :
    padded width m ++ rest < padded width n ++ after ↔ m < n ∨ m = n ∧ rest < after := by
  induction width generalizing m n rest after with
  | zero => simp_all [padded]
  | succ width ih =>
    have front : m / 10 < 10 ^ width := by rw [Nat.pow_succ] at small; omega
    have otherFront : n / 10 < 10 ^ width := by rw [Nat.pow_succ] at other; omega
    have digits := digitChar_lt (m % 10) (Nat.mod_lt m (by decide)) (n % 10)
      (Nat.mod_lt n (by decide))
    rw [padded, padded, List.append_assoc, List.append_assoc, ih front otherFront,
      List.singleton_append, List.singleton_append, List.cons_lt_cons_iff, digits.1, digits.2]
    have less : m < n ↔ m / 10 < n / 10 ∨ m / 10 = n / 10 ∧ m % 10 < n % 10 := by omega
    have same : m = n ↔ m / 10 = n / 10 ∧ m % 10 = n % 10 := by omega
    rw [less, same]
    simp only [and_or_left, or_assoc, and_assoc]

theorem CivilTime.strftime_lt (a b : CivilTime) : a.strftime < b.strftime ↔ a.fields < b.fields := by
  have days := daysInMonth_le a.year a.month
  have days' := daysInMonth_le b.year b.month
  have separator : ∀ {c : Char} {text other : List Char},
      c :: text < c :: other ↔ text < other := by
    intro c text other
    simp
  rw [String.lt_iff, a.toList_strftime, b.toList_strftime,
    padded_append_lt (by have := a.year_range; omega) (by have := b.year_range; omega),
    separator, padded_append_lt (by have := a.month_range; omega) (by have := b.month_range; omega),
    separator, padded_append_lt (by have := a.day_range; omega) (by have := b.day_range; omega),
    separator, padded_append_lt (by have := a.hour_range; omega) (by have := b.hour_range; omega),
    separator,
    padded_append_lt (by have := a.minute_range; omega) (by have := b.minute_range; omega),
    separator,
    padded_append_lt (by have := a.second_range; omega) (by have := b.second_range; omega),
    separator, padded_append_lt a.microsecond_range b.microsecond_range]
  simp only [fields, List.cons_lt_cons_iff, List.not_lt_nil, and_false, or_false,
    Char.lt_irrefl]

theorem CivilTime.strftime_inj {a b : CivilTime} : a.strftime = b.strftime ↔ a = b := by
  constructor
  · intro same
    have read := strptime_strftime a
    rw [same, strptime_strftime b] at read
    exact (Option.some.inj read).symm
  · exact congrArg strftime

/-- An accepted text denotes one instant, and is written back in the one form. -/
theorem utcTimestamp_reads {value : JsonValue} {text : String}
    (accepted : utcTimestamp value = .ok text) :
    ∃ time : CivilTime, (∀ instant, Denotes value instant ↔ instant = time.instant) ∧
      text = time.strftime := by
  obtain ⟨selected, bounded, parsed⟩ := bind_ok.mp accepted
  obtain ⟨rfl, -⟩ := boundedString_ok bounded
  split at parsed
  · next time read =>
    cases parsed
    exact ⟨time, fun instant => denotes_iff read, rfl⟩
  · cases parsed

theorem denotes_strftime (time : CivilTime) (instant : Nat) :
    Denotes (.str time.strftime) instant ↔ instant = time.instant :=
  denotes_iff (strptime_strftime time)

theorem utcTimestampOfDatetime_strftime {value : DateTime} {time : CivilTime}
    (same : value.instant = some (time.instant : Int)) :
    utcTimestampOfDatetime value = .ok time.strftime := by
  obtain ⟨offset, aware, shifted⟩ := Option.map_eq_some_iff.mp same
  have utc : value.civil.toUtc offset = some time :=
    (CivilTime.toUtc_eq_some (value.offset_range offset aware)).mpr shifted.symm
  simp [utcTimestampOfDatetime, aware, utc]

/-- A normalized timestamp has one form for each instant, whatever spelling it
came from, and texts of that form are ordered as their instants are. -/
theorem utcTimestamp_canonical {value : JsonValue} {text : String}
    (accepted : utcTimestamp value = .ok text) :
    IsNormalized text ∧ utcTimestamp (.str text) = .ok text ∧
      ∃ instant, (∀ moment, Denotes value moment ↔ moment = instant) ∧
        (∀ moment, Denotes (.str text) moment ↔ moment = instant) ∧
        (∀ {other : JsonValue} {otherText : String}, utcTimestamp other = .ok otherText →
          ∃ otherInstant, (∀ moment, Denotes other moment ↔ moment = otherInstant) ∧
            (text = otherText ↔ instant = otherInstant) ∧
            (text < otherText ↔ instant < otherInstant)) ∧
        ∀ {moment : DateTime}, moment.instant = some (instant : Int) →
          utcTimestampOfDatetime moment = .ok text := by
  obtain ⟨time, reads, rfl⟩ := utcTimestamp_reads accepted
  refine ⟨time.strftime_normalized, utcTimestamp_strftime time, time.instant, reads,
    denotes_strftime time, ?_, utcTimestampOfDatetime_strftime⟩
  intro other otherText otherAccepted
  obtain ⟨otherTime, otherReads, rfl⟩ := utcTimestamp_reads otherAccepted
  refine ⟨otherTime.instant, otherReads, ?_, ?_⟩
  · rw [CivilTime.strftime_inj, CivilTime.instant_inj]
  · rw [CivilTime.strftime_lt, CivilTime.instant_lt]

/-- Two spellings of one instant, and a later instant. -/
theorem utcTimestamp_canonical_spellings :
    utcTimestamp (.str "2026-1-2T3:04:05.12z") = .ok "2026-01-02T03:04:05.120000Z" ∧
      utcTimestamp (.str "2026-01-02T03:04:05.120Z") = .ok "2026-01-02T03:04:05.120000Z" ∧
      (∀ moment, Denotes (.str "2026-1-2T3:04:05.12z") moment ↔ moment = 63934628645120000) ∧
      (∀ moment, Denotes (.str "2026-01-02T03:04:05.120Z") moment ↔ moment = 63934628645120000) ∧
      (∀ moment, Denotes (.str "2026-01-02T03:04:06Z") moment ↔ moment = 63934628646000000) ∧
      IsNormalized "2026-01-02T03:04:05.120000Z" ∧
      "2026-01-02T03:04:05.120000Z" < "2026-01-02T03:04:06.000000Z" := by
  have short : utcTimestamp (.str "2026-1-2T3:04:05.12z") = .ok "2026-01-02T03:04:05.120000Z" := rfl
  have long : utcTimestamp (.str "2026-01-02T03:04:05.120Z") = .ok "2026-01-02T03:04:05.120000Z" :=
    rfl
  have later : utcTimestamp (.str "2026-01-02T03:04:06Z") = .ok "2026-01-02T03:04:06.000000Z" := rfl
  obtain ⟨normalized, -, instant, denotes, -, compared, -⟩ := utcTimestamp_canonical short
  obtain ⟨same, sameDenotes, equal, -⟩ := compared long
  obtain ⟨next, nextDenotes, -, order⟩ := compared later
  obtain rfl := equal.mp rfl
  obtain ⟨time, read, counted⟩ : ∃ time, strptime "2026-1-2T3:04:05.12z".toList = some time ∧
      time.instant = 63934628645120000 := ⟨_, rfl, by decide +kernel⟩
  obtain ⟨after, readAfter, countedAfter⟩ : ∃ time,
      strptime "2026-01-02T03:04:06Z".toList = some time ∧ time.instant = 63934628646000000 :=
    ⟨_, rfl, by decide +kernel⟩
  have first : 63934628645120000 = instant :=
    (denotes _).mp ((denotes_iff read).mpr counted.symm)
  have second : 63934628646000000 = next :=
    (nextDenotes _).mp ((denotes_iff readAfter).mpr countedAfter.symm)
  rw [← first] at denotes sameDenotes order
  rw [← second] at nextDenotes order
  exact ⟨short, long, denotes, sameDenotes, nextDenotes, normalized, order.mpr (by decide)⟩

end ConfigArtifact
