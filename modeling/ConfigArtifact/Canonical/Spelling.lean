import Mathlib.Data.Nat.Digits.Defs
import Mathlib.Tactic.Ring
import ConfigArtifact.Canonical.Calendar

/-! The times that texts in the RFC 3339 layout spell, whatever reads them. -/

set_option autoImplicit false

namespace ConfigArtifact

/-- A decimal digit of any script, and its value. -/
def IsDigit (c : Char) (d : Nat) : Prop := d < 10 ∧ ∃ start ∈ digitZeros, c.toNat = start + d

/-- Digits written most significant first, and the number they stand for. -/
def IsNumeral (digits : List Char) (n : Nat) : Prop :=
  digits ≠ [] ∧ ∃ ds, List.Forall₂ IsDigit digits ds ∧ n = Nat.ofDigits 10 ds.reverse

/-- A day may stand after a blank. -/
def IsDayField (field : List Char) (day : Nat) : Prop :=
  IsNumeral field day ∨ ∃ digits, field = ' ' :: digits ∧ IsNumeral digits day

/-- The civil time a text in the RFC 3339 layout spells, field by field. The
fraction is a decimal one: its numeral over a power of ten, in seconds. -/
inductive Spells : List Char → CivilTime → Prop
  | whole {time : CivilTime} {year month day hour minute second : List Char} {t z : Char}
      (years : IsNumeral year time.year) (months : IsNumeral month time.month)
      (days : IsDayField day time.day) (hours : IsNumeral hour time.hour)
      (minutes : IsNumeral minute time.minute) (seconds : IsNumeral second time.second)
      (microseconds : time.microsecond = 0) (letterT : t ∈ ['T', 't']) (letterZ : z ∈ ['Z', 'z']) :
      Spells (year ++ '-' :: (month ++ '-' :: (day ++ t :: (hour ++ ':' :: (minute ++ ':' ::
        (second ++ [z])))))) time
  | fractional {time : CivilTime} {year month day hour minute second fraction : List Char}
      {t z : Char} {n : Nat}
      (years : IsNumeral year time.year) (months : IsNumeral month time.month)
      (days : IsDayField day time.day) (hours : IsNumeral hour time.hour)
      (minutes : IsNumeral minute time.minute) (seconds : IsNumeral second time.second)
      (fractions : IsNumeral fraction n)
      (microseconds : time.microsecond * 10 ^ fraction.length = n * 1000000)
      (letterT : t ∈ ['T', 't']) (letterZ : z ∈ ['Z', 'z']) :
      Spells (year ++ '-' :: (month ++ '-' :: (day ++ t :: (hour ++ ':' :: (minute ++ ':' ::
        (second ++ '.' :: (fraction ++ [z]))))))) time

/-- The instant a text denotes, in microseconds. -/
def Denotes (value : JsonValue) (instant : Nat) : Prop :=
  ∃ text time, value = .str text ∧ Spells text.toList time ∧ instant = time.instant

theorem digitZeros_apart : ∀ a ∈ digitZeros, ∀ b ∈ digitZeros,
    a = b ∨ a + 10 ≤ b ∨ b + 10 ≤ a := by decide +kernel

theorem IsDigit.unique {c : Char} {d e : Nat} (first : IsDigit c d) (second : IsDigit c e) :
    d = e := by
  obtain ⟨small, start, member, same⟩ := first
  obtain ⟨small', start', member', same'⟩ := second
  have apart := digitZeros_apart start member start' member'
  omega

theorem decimalDigit_isDigit {c : Char} {d : Nat} (read : decimalDigit c = some d) :
    IsDigit c d := by
  obtain ⟨start, found, rfl⟩ := Option.map_eq_some_iff.mp read
  have inside := List.find?_some found
  simp only [Bool.and_eq_true, decide_eq_true_eq] at inside
  exact ⟨by omega, start, List.mem_of_find?_eq_some found, by omega⟩

theorem asciiDigit_isDigit {c : Char} {d : Nat} (read : asciiDigit c = some d) : IsDigit c d := by
  unfold asciiDigit at read
  split at read
  · next range =>
    cases read
    simp only [Bool.and_eq_true, decide_eq_true_eq, Char.le_def] at range
    have low : '0'.toNat ≤ c.toNat := range.1
    have high : c.toNat ≤ '9'.toNat := range.2
    have first : '0'.toNat = 48 := rfl
    have last : '9'.toNat = 57 := rfl
    exact ⟨by omega, 48, by decide, by omega⟩
  · cases read

/-- Reading digit by digit adds up the number the digits stand for. -/
theorem foldlM_isNumeral {read : Char → Option Nat}
    (reads : ∀ {c d}, read c = some d → IsDigit c d) (digits : List Char) {start n : Nat}
    (folded : digits.foldlM (fun value c => (read c).map (value * 10 + ·)) start = some n) :
    ∃ ds, List.Forall₂ IsDigit digits ds ∧
      n = start * 10 ^ digits.length + Nat.ofDigits 10 ds.reverse := by
  induction digits generalizing start with
  | nil =>
    cases folded
    exact ⟨[], .nil, by simp⟩
  | cons c digits ih =>
    rw [List.foldlM_cons] at folded
    obtain ⟨next, step, rest⟩ := Option.bind_eq_some_iff.mp folded
    obtain ⟨d, digit, rfl⟩ := Option.map_eq_some_iff.mp step
    obtain ⟨ds, matched, sum⟩ := ih rest
    refine ⟨d :: ds, .cons (reads digit) matched, ?_⟩
    have width : ds.length = digits.length := matched.length_eq.symm
    simp [sum, Nat.ofDigits_append, width, pow_succ]
    ring

theorem digitsValue_isNumeral {read : Char → Option Nat}
    (reads : ∀ {c d}, read c = some d → IsDigit c d) {digits : List Char} {n : Nat}
    (nonempty : digits ≠ []) (value : digitsValue read digits = some n) : IsNumeral digits n := by
  obtain ⟨ds, matched, sum⟩ := foldlM_isNumeral reads digits value
  exact ⟨nonempty, ds, matched, by simpa using sum⟩

theorem isNumeral_singleton {c : Char} {d : Nat} (digit : IsDigit c d) : IsNumeral [c] d :=
  ⟨by simp, [d], .cons digit .nil, by simp⟩

theorem readYear_isNumeral {digits : List Char} {n : Nat} (read : readYear digits = some n) :
    IsNumeral digits n := by
  unfold readYear at read
  split at read
  · next width => exact digitsValue_isNumeral decimalDigit_isDigit (by aesop) read
  · cases read

theorem readMonth_isNumeral {digits : List Char} {n : Nat} (read : readMonth digits = some n) :
    IsNumeral digits n := by
  unfold readMonth at read
  split at read
  · exact isNumeral_singleton (asciiDigit_isDigit (Option.filter_eq_some_iff.mp read).1)
  · exact digitsValue_isNumeral asciiDigit_isDigit (by simp) (Option.filter_eq_some_iff.mp read).1
  · cases read

theorem readDay_isDayField {digits : List Char} {n : Nat} (read : readDay digits = some n) :
    IsDayField digits n := by
  unfold readDay at read
  split at read
  · exact .inl (isNumeral_singleton (asciiDigit_isDigit (Option.filter_eq_some_iff.mp read).1))
  · next a b =>
    split at read
    · next lead =>
      have digit := asciiDigit_isDigit (Option.filter_eq_some_iff.mp read).1
      rcases Bool.or_eq_true_iff.mp lead with blank | zeroed
      · obtain rfl := of_decide_eq_true blank
        exact .inr ⟨[b], rfl, isNumeral_singleton digit⟩
      · obtain rfl := of_decide_eq_true zeroed
        have leading : IsDigit '0' 0 := ⟨by decide, 48, by decide, rfl⟩
        exact .inl ⟨by simp, [0, n], .cons leading (.cons digit .nil), by simp [Nat.ofDigits]⟩
    · left
      split at read
      · exact digitsValue_isNumeral decimalDigit_isDigit (by simp) read
      · split at read
        · exact digitsValue_isNumeral asciiDigit_isDigit (by simp)
            (Option.filter_eq_some_iff.mp read).1
        · cases read
  · cases read

theorem readHour_isNumeral {digits : List Char} {n : Nat} (read : readHour digits = some n) :
    IsNumeral digits n := by
  unfold readHour at read
  split at read
  · exact isNumeral_singleton (decimalDigit_isDigit read)
  · split at read
    · exact digitsValue_isNumeral decimalDigit_isDigit (by simp) read
    · split at read
      · exact digitsValue_isNumeral asciiDigit_isDigit (by simp)
          (Option.filter_eq_some_iff.mp read).1
      · cases read
  · cases read

theorem readSixty_isNumeral {digits : List Char} {n : Nat} (read : readSixty digits = some n) :
    IsNumeral digits n := by
  unfold readSixty at read
  split at read
  · exact isNumeral_singleton (decimalDigit_isDigit read)
  · split at read
    · exact digitsValue_isNumeral decimalDigit_isDigit (by simp) read
    · cases read
  · cases read

/-- Padding on the right reads the numeral as a decimal fraction. -/
theorem readFraction_isFraction {digits : List Char} {n : Nat}
    (read : readFraction digits = some n) :
    ∃ numerator, IsNumeral digits numerator ∧ n * 10 ^ digits.length = numerator * 1000000 := by
  unfold readFraction at read
  split at read
  · next width =>
    simp only [Bool.and_eq_true, decide_eq_true_eq] at width
    obtain ⟨numerator, value, rfl⟩ := Option.map_eq_some_iff.mp read
    have nonempty : digits ≠ [] := List.length_pos_iff.mp width.1
    refine ⟨numerator, digitsValue_isNumeral asciiDigit_isDigit nonempty value, ?_⟩
    rw [mul_assoc, ← pow_add, Nat.sub_add_cancel width.2]
    norm_num
  · cases read

theorem splitAtFirst_ok {separator : Char → Bool} {text front rest : List Char}
    (split : splitAtFirst separator text = some (front, rest)) :
    ∃ c, separator c = true ∧ text = front ++ c :: rest := by
  induction text generalizing front with
  | nil => cases split
  | cons d text ih =>
    unfold splitAtFirst at split
    split at split
    · next ends =>
      cases split
      exact ⟨d, ends, rfl⟩
    · obtain ⟨⟨tail, after⟩, found, same⟩ := Option.map_eq_some_iff.mp split
      cases same
      obtain ⟨c, ends, rfl⟩ := ih found
      exact ⟨c, ends, rfl⟩

theorem readField_ok {separator : Char → Bool} {read : List Char → Option Nat}
    {text rest : List Char} {value : Nat}
    (field : readField separator read text = some (value, rest)) :
    ∃ front c, read front = some value ∧ separator c = true ∧ text = front ++ c :: rest := by
  obtain ⟨⟨front, after⟩, split, found⟩ := Option.bind_eq_some_iff.mp field
  obtain ⟨number, reads, same⟩ := Option.bind_eq_some_iff.mp found
  cases same
  obtain ⟨c, ends, rfl⟩ := splitAtFirst_ok split
  exact ⟨front, c, reads, ends, rfl⟩

/-- A field that ends with one character, read with it. -/
theorem readField_literal {literal : Char} {read : List Char → Option Nat}
    {text rest : List Char} {value : Nat}
    (field : readField (· = literal) read text = some (value, rest)) :
    ∃ front, read front = some value ∧ text = front ++ literal :: rest := by
  obtain ⟨front, c, reads, ends, rfl⟩ := readField_ok field
  obtain rfl := of_decide_eq_true ends
  exact ⟨front, reads, rfl⟩

theorem CivilTime.create_ok {year month day hour minute second microsecond : Nat}
    {time : CivilTime}
    (created : CivilTime.create year month day hour minute second microsecond = some time) :
    time.year = year ∧ time.month = month ∧ time.day = day ∧ time.hour = hour ∧
      time.minute = minute ∧ time.second = second ∧ time.microsecond = microsecond := by
  unfold create at created
  split at created
  · cases created
    simp
  · cases created

/-- What `strptime` accepts spells the time it returns, under both templates. -/
theorem spells_of_strptime {text : List Char} {time : CivilTime}
    (read : strptime text = some time) : Spells text time := by
  obtain ⟨⟨year, afterYear⟩, years, atMonth⟩ := Option.bind_eq_some_iff.mp read
  obtain ⟨⟨month, afterMonth⟩, months, atDay⟩ := Option.bind_eq_some_iff.mp atMonth
  obtain ⟨⟨day, afterDay⟩, days, atHour⟩ := Option.bind_eq_some_iff.mp atDay
  obtain ⟨⟨hour, afterHour⟩, hours, atMinute⟩ := Option.bind_eq_some_iff.mp atHour
  obtain ⟨⟨minute, afterMinute⟩, minutes, atSecond⟩ := Option.bind_eq_some_iff.mp atMinute
  clear read atMonth atDay atHour atMinute
  obtain ⟨yearDigits, isYear, layout⟩ := readField_literal years
  obtain ⟨monthDigits, isMonth, rfl⟩ := readField_literal months
  obtain ⟨dayField, t, isDay, letterT, rfl⟩ := readField_ok days
  obtain ⟨hourDigits, isHour, rfl⟩ := readField_literal hours
  obtain ⟨minuteDigits, isMinute, rfl⟩ := readField_literal minutes
  have tee : t ∈ ['T', 't'] := by simpa [isT] using letterT
  dsimp only at atSecond
  -- The template is chosen by the point in the text.
  split at atSecond
  · obtain ⟨⟨second, afterSecond⟩, seconds, atFraction⟩ := Option.bind_eq_some_iff.mp atSecond
    obtain ⟨⟨microsecond, afterFraction⟩, fractions, atEnd⟩ := Option.bind_eq_some_iff.mp atFraction
    clear atSecond atFraction
    obtain ⟨secondDigits, isSecond, rfl⟩ := readField_literal seconds
    obtain ⟨fraction, z, isFraction, letterZ, rfl⟩ := readField_ok fractions
    have zed : z ∈ ['Z', 'z'] := by simpa [isZ] using letterZ
    obtain ⟨numerator, numeral, scaled⟩ := readFraction_isFraction isFraction
    dsimp only at atEnd
    split at atEnd
    · next ended =>
      obtain ⟨rfl, rfl, rfl, rfl, rfl, rfl, rfl⟩ := CivilTime.create_ok atEnd
      rw [layout, ended]
      exact .fractional (readYear_isNumeral isYear) (readMonth_isNumeral isMonth)
        (readDay_isDayField isDay) (readHour_isNumeral isHour) (readSixty_isNumeral isMinute)
        (readSixty_isNumeral isSecond) numeral scaled tee zed
    · cases atEnd
  · obtain ⟨⟨second, afterSecond⟩, seconds, atEnd⟩ := Option.bind_eq_some_iff.mp atSecond
    clear atSecond
    obtain ⟨secondDigits, z, isSecond, letterZ, rfl⟩ := readField_ok seconds
    have zed : z ∈ ['Z', 'z'] := by simpa [isZ] using letterZ
    dsimp only at atEnd
    split at atEnd
    · next ended =>
      obtain ⟨rfl, rfl, rfl, rfl, rfl, rfl, whole⟩ := CivilTime.create_ok atEnd
      rw [layout, ended]
      exact .whole (readYear_isNumeral isYear) (readMonth_isNumeral isMonth)
        (readDay_isDayField isDay) (readHour_isNumeral isHour) (readSixty_isNumeral isMinute)
        (readSixty_isNumeral isSecond) whole tee zed
    · cases atEnd

/-! A text spells one time: its fields end at the separators, and a field's
digits stand for one number. -/

theorem IsNumeral.unique {digits : List Char} {m n : Nat} (first : IsNumeral digits m)
    (second : IsNumeral digits n) : m = n := by
  obtain ⟨-, ds, matched, rfl⟩ := first
  obtain ⟨-, es, matched', rfl⟩ := second
  have same : ds = es := by
    induction matched generalizing es with
    | nil => cases matched'; rfl
    | cons digit _ ih =>
      cases matched' with
      | cons digit' rest => rw [digit.unique digit', ih _ rest]
  rw [same]

/-- The characters of fields: digits, and the blank before a day. -/
def InField (c : Char) : Prop := c = ' ' ∨ ∃ d, IsDigit c d

theorem IsNumeral.inField {digits : List Char} {n : Nat} (numeral : IsNumeral digits n) :
    ∀ c ∈ digits, InField c := by
  obtain ⟨-, ds, matched, -⟩ := numeral
  clear * - matched
  induction matched with
  | nil => simp
  | cons digit _ ih => exact List.forall_mem_cons.mpr ⟨.inr ⟨_, digit⟩, ih⟩

theorem separators_outside : ∀ c ∈ ['-', 'T', 't', ':', '.', 'Z', 'z'], c ≠ ' ' ∧
    ∀ start ∈ digitZeros, c.toNat < start ∨ start + 10 ≤ c.toNat := by
  simp [digitZeros]

theorem not_inField {c : Char} (member : c ∈ ['-', 'T', 't', ':', '.', 'Z', 'z']) :
    ¬InField c := by
  rintro (rfl | ⟨d, small, start, block, same⟩)
  · exact (separators_outside ' ' member).1 rfl
  · have := (separators_outside c member).2 start block
    omega

theorem IsDayField.inField {field : List Char} {day : Nat} (isDay : IsDayField field day) :
    ∀ c ∈ field, InField c := by
  rcases isDay with numeral | ⟨digits, rfl, numeral⟩
  · exact numeral.inField
  · exact List.forall_mem_cons.mpr ⟨.inl rfl, numeral.inField⟩

theorem IsDayField.unique {field : List Char} {m n : Nat} (first : IsDayField field m)
    (second : IsDayField field n) : m = n := by
  have blank : ∀ {digits : List Char} {n : Nat}, ¬IsNumeral (' ' :: digits) n := by
    rintro digits n ⟨-, ds, matched, -⟩
    cases matched with
    | cons digit _ =>
      obtain ⟨small, start, block, same⟩ := digit
      have above : ∀ start ∈ digitZeros, ' '.toNat < start := by decide
      have := above start block
      omega
  rcases first with first | ⟨digits, rfl, first⟩
  · rcases second with second | ⟨digits, rfl, second⟩
    · exact first.unique second
    · exact (blank first).elim
  · rcases second with second | ⟨digits', same, second⟩
    · exact (blank second).elim
    · cases same
      exact first.unique second

/-- Where a field ends is determined. -/
theorem field_unique {front other rest after : List Char} {c d : Char}
    (same : front ++ c :: rest = other ++ d :: after) (inside : ∀ e ∈ front, InField e)
    (inside' : ∀ e ∈ other, InField e) (ends : c ∈ ['-', 'T', 't', ':', '.', 'Z', 'z'])
    (ends' : d ∈ ['-', 'T', 't', ':', '.', 'Z', 'z']) :
    front = other ∧ c = d ∧ rest = after := by
  induction front generalizing other with
  | nil =>
    cases other with
    | nil => simpa using same
    | cons e other =>
      cases same
      exact (not_inField ends (inside' _ List.mem_cons_self)).elim
  | cons e front ih =>
    cases other with
    | nil =>
      cases same
      exact (not_inField ends' (inside _ List.mem_cons_self)).elim
    | cons e' other =>
      rw [List.cons_append, List.cons_append] at same
      obtain ⟨rfl, tails⟩ := List.cons.inj same
      obtain ⟨rfl, rfl, rfl⟩ := ih tails (fun x member => inside x (List.mem_cons_of_mem _ member))
        fun x member => inside' x (List.mem_cons_of_mem _ member)
      exact ⟨rfl, rfl, rfl⟩

theorem CivilTime.eq_of_fields {a b : CivilTime} (years : a.year = b.year)
    (months : a.month = b.month) (days : a.day = b.day) (hours : a.hour = b.hour)
    (minutes : a.minute = b.minute) (seconds : a.second = b.second)
    (microseconds : a.microsecond = b.microsecond) : a = b :=
  CivilTime.fields_inj (by simp [fields, years, months, days, hours, minutes, seconds, microseconds])

theorem letterT_ends {t : Char} (letter : t ∈ ['T', 't']) :
    t ∈ ['-', 'T', 't', ':', '.', 'Z', 'z'] := by
  simp only [List.mem_cons, List.not_mem_nil, or_false] at letter
  rcases letter with rfl | rfl <;> decide

theorem letterZ_ends {z : Char} (letter : z ∈ ['Z', 'z']) :
    z ∈ ['-', 'T', 't', ':', '.', 'Z', 'z'] ∧ z ≠ '.' := by
  simp only [List.mem_cons, List.not_mem_nil, or_false] at letter
  rcases letter with rfl | rfl <;> decide

/-- The fields up to the minutes, and what stands after them. -/
theorem layout_unique {year month day hour minute year' month' day' hour' minute' : List Char}
    {rest rest' : List Char} {t t' : Char} {a b : CivilTime}
    (same : year ++ '-' :: (month ++ '-' :: (day ++ t :: (hour ++ ':' :: (minute ++ ':' :: rest)))) =
      year' ++ '-' :: (month' ++ '-' :: (day' ++ t' :: (hour' ++ ':' :: (minute' ++ ':' :: rest')))))
    (years : IsNumeral year a.year) (years' : IsNumeral year' b.year)
    (months : IsNumeral month a.month) (months' : IsNumeral month' b.month)
    (days : IsDayField day a.day) (days' : IsDayField day' b.day)
    (hours : IsNumeral hour a.hour) (hours' : IsNumeral hour' b.hour)
    (minutes : IsNumeral minute a.minute) (minutes' : IsNumeral minute' b.minute)
    (letter : t ∈ ['T', 't']) (letter' : t' ∈ ['T', 't']) :
    (a.year = b.year ∧ a.month = b.month ∧ a.day = b.day ∧ a.hour = b.hour ∧
      a.minute = b.minute) ∧ rest = rest' := by
  have dash : '-' ∈ ['-', 'T', 't', ':', '.', 'Z', 'z'] := by decide
  have colon : ':' ∈ ['-', 'T', 't', ':', '.', 'Z', 'z'] := by decide
  obtain ⟨rfl, -, same⟩ := field_unique same years.inField years'.inField dash dash
  obtain ⟨rfl, -, same⟩ := field_unique same months.inField months'.inField dash dash
  obtain ⟨rfl, -, same⟩ := field_unique same days.inField days'.inField (letterT_ends letter)
    (letterT_ends letter')
  obtain ⟨rfl, -, same⟩ := field_unique same hours.inField hours'.inField colon colon
  obtain ⟨rfl, -, same⟩ := field_unique same minutes.inField minutes'.inField colon colon
  exact ⟨⟨years.unique years', months.unique months', days.unique days', hours.unique hours',
    minutes.unique minutes'⟩, same⟩

theorem Spells.unique {text : List Char} {a b : CivilTime} (first : Spells text a)
    (second : Spells text b) : a = b := by
  have point : '.' ∈ ['-', 'T', 't', ':', '.', 'Z', 'z'] := by decide
  generalize spelled : text = other at second
  cases first with
  | whole years months days hours minutes seconds microseconds letterT letterZ =>
    cases second with
    | whole years' months' days' hours' minutes' seconds' microseconds' letterT' letterZ' =>
      obtain ⟨⟨y, mo, d, h, mi⟩, same⟩ := layout_unique spelled years years' months months' days days'
        hours hours' minutes minutes' letterT letterT'
      obtain ⟨rfl, -, -⟩ := field_unique same seconds.inField seconds'.inField
        (letterZ_ends letterZ).1 (letterZ_ends letterZ').1
      exact CivilTime.eq_of_fields y mo d h mi (seconds.unique seconds')
        (microseconds.trans microseconds'.symm)
    | fractional years' months' days' hours' minutes' seconds' fractions' _ letterT' letterZ' =>
      obtain ⟨-, same⟩ := layout_unique spelled years years' months months' days days'
        hours hours' minutes minutes' letterT letterT'
      -- With a point on one side only, the seconds would end differently.
      obtain ⟨-, z, -⟩ := field_unique same seconds.inField seconds'.inField
        (letterZ_ends letterZ).1 point
      exact ((letterZ_ends letterZ).2 z).elim
  | fractional years months days hours minutes seconds fractions microseconds letterT letterZ =>
    cases second with
    | whole years' months' days' hours' minutes' seconds' _ letterT' letterZ' =>
      obtain ⟨-, same⟩ := layout_unique spelled years years' months months' days days'
        hours hours' minutes minutes' letterT letterT'
      obtain ⟨-, z, -⟩ := field_unique same seconds.inField seconds'.inField point
        (letterZ_ends letterZ').1
      exact ((letterZ_ends letterZ').2 z.symm).elim
    | fractional years' months' days' hours' minutes' seconds' fractions' microseconds' letterT'
        letterZ' =>
      obtain ⟨⟨y, mo, d, h, mi⟩, same⟩ := layout_unique spelled years years' months months' days days'
        hours hours' minutes minutes' letterT letterT'
      obtain ⟨rfl, -, same⟩ := field_unique same seconds.inField seconds'.inField point point
      obtain ⟨rfl, -, -⟩ := field_unique same fractions.inField fractions'.inField
        (letterZ_ends letterZ).1 (letterZ_ends letterZ').1
      rw [fractions'.unique fractions, ← microseconds] at microseconds'
      have scaled := Nat.eq_of_mul_eq_mul_right (by positivity) microseconds'
      exact CivilTime.eq_of_fields y mo d h mi (seconds.unique seconds') scaled.symm

/-- A text that `strptime` accepts denotes the instant of the time read, and no other. -/
theorem denotes_iff {text : String} {time : CivilTime} (read : strptime text.toList = some time)
    {instant : Nat} : Denotes (.str text) instant ↔ instant = time.instant := by
  have spells := spells_of_strptime read
  constructor
  · rintro ⟨spelled, other, same, otherSpells, rfl⟩
    cases same
    rw [otherSpells.unique spells]
  · rintro rfl
    exact ⟨text, time, rfl, spells, rfl⟩

end ConfigArtifact
