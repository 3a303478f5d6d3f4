import ConfigArtifact.Canonical.Text

/-! UTC timestamps as `datetime.strptime` reads and `strftime` writes them. -/

set_option autoImplicit false

namespace ConfigArtifact

def isLeap (year : Nat) : Bool := year % 4 = 0 && (year % 100 ≠ 0 || year % 400 = 0)

def daysInMonth (year month : Nat) : Nat :=
  if month = 2 then (if isLeap year then 29 else 28)
  else if month = 4 || month = 6 || month = 9 || month = 11 then 30 else 31

/-- A `datetime` without zone: the fields `datetime(...)` accepts. -/
structure CivilTime where
  year : Nat
  month : Nat
  day : Nat
  hour : Nat
  minute : Nat
  second : Nat
  microsecond : Nat
  year_range : 1 ≤ year ∧ year ≤ 9999
  month_range : 1 ≤ month ∧ month ≤ 12
  day_range : 1 ≤ day ∧ day ≤ daysInMonth year month
  hour_range : hour < 24
  minute_range : minute < 60
  second_range : second < 60
  microsecond_range : microsecond < 1000000
  deriving DecidableEq

def CivilTime.create (year month day hour minute second microsecond : Nat) : Option CivilTime :=
  if valid : (1 ≤ year ∧ year ≤ 9999) ∧ (1 ≤ month ∧ month ≤ 12) ∧
      (1 ≤ day ∧ day ≤ daysInMonth year month) ∧ hour < 24 ∧ minute < 60 ∧ second < 60 ∧
      microsecond < 1000000 then
    some ⟨year, month, day, hour, minute, second, microsecond, valid.1, valid.2.1, valid.2.2.1,
      valid.2.2.2.1, valid.2.2.2.2.1, valid.2.2.2.2.2.1, valid.2.2.2.2.2.2⟩
  else none

theorem CivilTime.create_self (time : CivilTime) :
    CivilTime.create time.year time.month time.day time.hour time.minute time.second
      time.microsecond = some time := by
  simp [create, time.year_range, time.month_range, time.day_range, time.hour_range,
    time.minute_range, time.second_range, time.microsecond_range]

def digitChar (n : Nat) : Char := Char.ofNat ('0'.toNat + n)

/-- A number written with leading zeros. -/
def padded : Nat → Nat → List Char
  | 0, _ => []
  | width + 1, n => padded width (n / 10) ++ [digitChar (n % 10)]

def CivilTime.strftime (time : CivilTime) : String :=
  String.ofList <| padded 4 time.year ++ '-' :: (padded 2 time.month ++ '-' ::
    (padded 2 time.day ++ 'T' :: (padded 2 time.hour ++ ':' :: (padded 2 time.minute ++ ':' ::
      (padded 2 time.second ++ '.' :: (padded 6 time.microsecond ++ ['Z']))))))

/-- The zeros of the decimal digit blocks of Unicode 15. -/
def digitZeros : List Nat :=
  [0x30, 0x660, 0x6f0, 0x7c0, 0x966, 0x9e6, 0xa66, 0xae6, 0xb66, 0xbe6, 0xc66, 0xce6, 0xd66, 0xde6,
   0xe50, 0xed0, 0xf20, 0x1040, 0x1090, 0x17e0, 0x1810, 0x1946, 0x19d0, 0x1a80, 0x1a90, 0x1b50,
   0x1bb0, 0x1c40, 0x1c50, 0xa620, 0xa8d0, 0xa900, 0xa9d0, 0xa9f0, 0xaa50, 0xabf0, 0xff10, 0x104a0,
   0x10d30, 0x11066, 0x110f0, 0x11136, 0x111d0, 0x112f0, 0x11450, 0x114d0, 0x11650, 0x116c0,
   0x11730, 0x118e0, 0x11950, 0x11c50, 0x11d50, 0x11da0, 0x11f50, 0x16a60, 0x16ac0, 0x16b50,
   0x1d7ce, 0x1d7d8, 0x1d7e2, 0x1d7ec, 0x1d7f6, 0x1e140, 0x1e2f0, 0x1e4f0, 0x1e950, 0x1fbf0]

/-- `\d`, with the digit's value. -/
def decimalDigit (c : Char) : Option Nat :=
  (digitZeros.find? fun start => start ≤ c.toNat && c.toNat < start + 10).map fun start =>
    c.toNat - start

/-- `[0-9]`, with the digit's value. -/
def asciiDigit (c : Char) : Option Nat :=
  if '0' ≤ c && c ≤ '9' then some (c.toNat - '0'.toNat) else none

def digitsValue (read : Char → Option Nat) (text : List Char) : Option Nat :=
  text.foldlM (fun value c => (read c).map (value * 10 + ·)) 0

/-- `%Y` -/
def readYear (text : List Char) : Option Nat :=
  if text.length = 4 then digitsValue decimalDigit text else none

/-- `%m` -/
def readMonth : List Char → Option Nat
  | [a] => (asciiDigit a).filter (1 ≤ ·)
  | [a, b] => (digitsValue asciiDigit [a, b]).filter fun month => 1 ≤ month && month ≤ 12
  | _ => none

/-- `%d`: the second digit after a leading 1 or 2 may be any decimal digit. -/
def readDay : List Char → Option Nat
  | [a] => (asciiDigit a).filter (1 ≤ ·)
  | [a, b] =>
    if a = ' ' || a = '0' then (asciiDigit b).filter (1 ≤ ·)
    else if a = '1' || a = '2' then digitsValue decimalDigit [a, b]
    else if a = '3' then (digitsValue asciiDigit [a, b]).filter (· ≤ 31)
    else none
  | _ => none

/-- `%H` -/
def readHour : List Char → Option Nat
  | [a] => decimalDigit a
  | [a, b] =>
    if a = '0' || a = '1' then digitsValue decimalDigit [a, b]
    else if a = '2' then (digitsValue asciiDigit [a, b]).filter (· ≤ 23)
    else none
  | _ => none

/-- `%M`, and `%S` up to 59: `strptime` also reads the seconds 60 and 61, which
`datetime` then refuses. -/
def readSixty : List Char → Option Nat
  | [a] => decimalDigit a
  | [a, b] => if '0' ≤ a && a ≤ '5' then digitsValue decimalDigit [a, b] else none
  | _ => none

/-- `%f`: one to six digits, padded on the right. -/
def readFraction (text : List Char) : Option Nat :=
  if 1 ≤ text.length && text.length ≤ 6 then
    (digitsValue asciiDigit text).map (· * 10 ^ (6 - text.length))
  else none

/-- The text before the first separator, and the text after it. -/
def splitAtFirst (separator : Char → Bool) : List Char → Option (List Char × List Char)
  | [] => none
  | c :: rest =>
    if separator c then some ([], rest)
    else (splitAtFirst separator rest).map fun (front, after) => (c :: front, after)

/-- One field and the literal that ends it. No field contains its separator, so
the field is what stands before the first one. -/
def readField (separator : Char → Bool) (read : List Char → Option Nat) (text : List Char) :
    Option (Nat × List Char) := do
  let (front, rest) ← splitAtFirst separator text
  let value ← read front
  some (value, rest)

/-- Matching ignores case, also in the literals `T` and `Z`. -/
def isT (c : Char) : Bool := c = 'T' || c = 't'
def isZ (c : Char) : Bool := c = 'Z' || c = 'z'

def strptime (text : List Char) : Option CivilTime := do
  let (year, rest) ← readField (· = '-') readYear text
  let (month, rest) ← readField (· = '-') readMonth rest
  let (day, rest) ← readField isT readDay rest
  let (hour, rest) ← readField (· = ':') readHour rest
  let (minute, rest) ← readField (· = ':') readSixty rest
  if text.contains '.' then
    let (second, rest) ← readField (· = '.') readSixty rest
    let (microsecond, rest) ← readField isZ readFraction rest
    if rest = [] then CivilTime.create year month day hour minute second microsecond else none
  else
    let (second, rest) ← readField isZ readSixty rest
    if rest = [] then CivilTime.create year month day hour minute second 0 else none

def utcTimestamp (value : JsonValue) : Except PyError String := do
  let selected ← boundedString value "timestamp" 64
  match strptime selected.toList with
  | some parsed => .ok parsed.strftime
  | none =>
    .error (.valueError "timestamp must be UTC RFC 3339 with optional microseconds")

/-- A `datetime`: its own clock reading and its offset from UTC in microseconds. -/
structure DateTime where
  civil : CivilTime
  utcoffset : Option Int
  offset_range : ∀ offset ∈ utcoffset, -86400000000 < offset ∧ offset < 86400000000

def CivilTime.microsecondOfDay (time : CivilTime) : Nat :=
  ((time.hour * 60 + time.minute) * 60 + time.second) * 1000000 + time.microsecond

def CivilTime.at (year month day microseconds : Nat) : Option CivilTime :=
  CivilTime.create year month day (microseconds / 3600000000) (microseconds / 60000000 % 60)
    (microseconds / 1000000 % 60) (microseconds % 1000000)

def nextDay (year month day : Nat) : Nat × Nat × Nat :=
  if day < daysInMonth year month then (year, month, day + 1)
  else if month < 12 then (year, month + 1, 1) else (year + 1, 1, 1)

def previousDay (year month day : Nat) : Nat × Nat × Nat :=
  if 1 < day then (year, month, day - 1)
  else if 1 < month then (year, month - 1, daysInMonth year (month - 1))
  else (year - 1, 12, 31)

/-- `value.astimezone(UTC)`; the offset moves the date by one day at most. -/
def CivilTime.toUtc (time : CivilTime) (offset : Int) : Option CivilTime :=
  let shifted := (time.microsecondOfDay : Int) - offset
  if shifted < 0 then
    let (year, month, day) := previousDay time.year time.month time.day
    CivilTime.at year month day (shifted + 86400000000).toNat
  else if shifted < 86400000000 then
    CivilTime.at time.year time.month time.day shifted.toNat
  else
    let (year, month, day) := nextDay time.year time.month time.day
    CivilTime.at year month day (shifted - 86400000000).toNat

/-- `utc_timestamp` of a `datetime`. -/
def utcTimestampOfDatetime (value : DateTime) : Except PyError String :=
  match value.utcoffset with
  | none => .error (.valueError "timestamp must be timezone-aware")
  | some offset =>
    match value.civil.toUtc offset with
    | some utc => .ok utc.strftime
    -- The instant is in no year that a `datetime` has.
    | none => .error (.other "OverflowError")

theorem length_padded (width n : Nat) : (padded width n).length = width := by
  induction width generalizing n with
  | zero => rfl
  | succ width ih => simp [padded, ih]

theorem digit_facts : ∀ d < 10, decimalDigit (digitChar d) = some d ∧
    asciiDigit (digitChar d) = some d ∧ digitChar d ∉ ['-', 'T', 't', ':', '.', 'Z', 'z'] ∧
    isControl (digitChar d) = false ∧ (digitChar d).utf8Size = 1 := by decide

theorem mem_padded {width n : Nat} {c : Char} (member : c ∈ padded width n) :
    ∃ d < 10, c = digitChar d := by
  induction width generalizing n with
  | zero => cases member
  | succ width ih =>
    rcases List.mem_append.mp member with member | member
    · exact ih member
    · exact ⟨n % 10, Nat.mod_lt _ (by decide), List.mem_singleton.mp member⟩

theorem digitsValue_padded {read : Char → Option Nat}
    (reads : ∀ d < 10, read (digitChar d) = some d) (width n : Nat) (fits : n < 10 ^ width) :
    digitsValue read (padded width n) = some n := by
  induction width generalizing n with
  | zero => simp [padded, digitsValue, show n = 0 by simpa using fits]
  | succ width ih =>
    have higher : n / 10 < 10 ^ width := by
      rw [Nat.pow_succ] at fits
      omega
    have front := ih (n / 10) higher
    unfold digitsValue at front ⊢
    rw [padded, List.foldlM_append, front]
    simp [reads (n % 10) (Nat.mod_lt _ (by decide))]
    omega

theorem splitAtFirst_append {separator : Char → Bool} {front : List Char} {c : Char}
    (rest : List Char) (inside : ∀ d ∈ front, separator d = false) (ends : separator c = true) :
    splitAtFirst separator (front ++ c :: rest) = some (front, rest) := by
  induction front with
  | nil => simp [splitAtFirst, ends]
  | cons d front ih =>
    have tail := ih fun e member => inside e (List.mem_cons_of_mem d member)
    simp [splitAtFirst, inside d List.mem_cons_self, tail]

theorem readField_padded {separator : Char → Bool} {read : List Char → Option Nat}
    {width n : Nat} {c : Char} (rest : List Char)
    (digits : ∀ d < 10, separator (digitChar d) = false) (ends : separator c = true)
    (reads : read (padded width n) = some n) :
    readField separator read (padded width n ++ c :: rest) = some (n, rest) := by
  have inside : ∀ e ∈ padded width n, separator e = false := by
    intro e member
    obtain ⟨d, small, rfl⟩ := mem_padded member
    exact digits d small
  simp [readField, splitAtFirst_append rest inside ends, reads]

theorem readMonth_padded : ∀ m < 13, 1 ≤ m → readMonth (padded 2 m) = some m := by decide
theorem readDay_padded : ∀ d < 32, 1 ≤ d → readDay (padded 2 d) = some d := by decide
theorem readHour_padded : ∀ h < 24, readHour (padded 2 h) = some h := by decide
theorem readSixty_padded : ∀ m < 60, readSixty (padded 2 m) = some m := by decide

theorem readYear_padded {year : Nat} (small : year < 10000) :
    readYear (padded 4 year) = some year := by
  simp [readYear, length_padded, digitsValue_padded (fun d h => (digit_facts d h).1) 4 year small]

theorem readFraction_padded {microsecond : Nat} (small : microsecond < 1000000) :
    readFraction (padded 6 microsecond) = some microsecond := by
  simp [readFraction, length_padded,
    digitsValue_padded (fun d h => (digit_facts d h).2.1) 6 microsecond small]

theorem daysInMonth_le (year month : Nat) : daysInMonth year month ≤ 31 := by
  unfold daysInMonth
  split
  · split <;> omega
  · split <;> omega

/-- What `strftime` writes, `strptime` reads back. -/
theorem strptime_strftime (time : CivilTime) : strptime time.strftime.toList = some time := by
  have dash : ∀ d < 10, decide (digitChar d = '-') = false := by decide
  have colon : ∀ d < 10, decide (digitChar d = ':') = false := by decide
  have dot : ∀ d < 10, decide (digitChar d = '.') = false := by decide
  have letterT : ∀ d < 10, isT (digitChar d) = false := by decide
  have letterZ : ∀ d < 10, isZ (digitChar d) = false := by decide
  have year := readYear_padded (Nat.lt_succ_of_le time.year_range.2)
  have month := readMonth_padded _ (Nat.lt_succ_of_le time.month_range.2) time.month_range.1
  have dayBound := (time.day_range.2).trans (daysInMonth_le time.year time.month)
  have day := readDay_padded _ (Nat.lt_succ_of_le dayBound) time.day_range.1
  have hour := readHour_padded _ time.hour_range
  have minute := readSixty_padded _ time.minute_range
  have second := readSixty_padded _ time.second_range
  have fraction := readFraction_padded time.microsecond_range
  unfold strptime CivilTime.strftime
  simp only [String.toList_ofList]
  rw [readField_padded _ dash rfl year]
  simp only [Option.bind_eq_bind, Option.bind_some]
  rw [readField_padded _ dash rfl month]
  simp only [Option.bind_some]
  rw [readField_padded _ letterT rfl day]
  simp only [Option.bind_some]
  rw [readField_padded _ colon rfl hour]
  simp only [Option.bind_some]
  rw [readField_padded _ colon rfl minute]
  simp only [Option.bind_some]
  rw [if_pos (by simp), readField_padded _ dot rfl second]
  simp only [Option.bind_some]
  rw [readField_padded _ letterZ rfl fraction]
  simp [time.create_self]

theorem padded_printable {width n : Nat} {c : Char} (member : c ∈ padded width n) :
    c.utf8Size = 1 ∧ isControl c = false := by
  obtain ⟨d, small, rfl⟩ := mem_padded member
  exact ⟨(digit_facts d small).2.2.2.2, (digit_facts d small).2.2.2.1⟩

theorem isBounded_strftime (time : CivilTime) : isBounded time.strftime 64 = true := by
  refine isBounded_ofList (by simp) (by simp [length_padded]) ?_
  intro c member
  have literal : ∀ d ∈ ['-', 'T', ':', '.', 'Z'], d.utf8Size = 1 ∧ isControl d = false := by
    simp only [List.forall_mem_cons, List.not_mem_nil]
    refine ⟨⟨rfl, rfl⟩, ⟨rfl, rfl⟩, ⟨rfl, rfl⟩, ⟨rfl, rfl⟩, ⟨rfl, rfl⟩, ?_⟩
    intro d impossible
    cases impossible
  simp only [List.mem_append, List.mem_cons, List.not_mem_nil, or_false] at member
  rcases member with h | h | h | h | h | h | h | h | h | h | h | h | h | h
  all_goals first | exact padded_printable h | exact literal c (by simp [h])

/-- A normalized timestamp is left as it is. -/
theorem utcTimestamp_strftime (time : CivilTime) :
    utcTimestamp (.str time.strftime) = .ok time.strftime := by
  simp [utcTimestamp, boundedString, isBounded_strftime, strptime_strftime, bind, Except.bind]

theorem utcTimestamp_ok {value : JsonValue} {text : String}
    (accepted : utcTimestamp value = .ok text) : ∃ time : CivilTime, text = time.strftime := by
  obtain ⟨selected, -, parsed⟩ := bind_ok.mp accepted
  split at parsed
  · cases parsed
    exact ⟨_, rfl⟩
  · cases parsed

theorem utcTimestamp_idempotent {value : JsonValue} {text : String}
    (accepted : utcTimestamp value = .ok text) : utcTimestamp (.str text) = .ok text := by
  obtain ⟨time, rfl⟩ := utcTimestamp_ok accepted
  exact utcTimestamp_strftime time

theorem utcTimestampOfDatetime_ok {value : DateTime} {text : String}
    (accepted : utcTimestampOfDatetime value = .ok text) :
    utcTimestamp (.str text) = .ok text := by
  unfold utcTimestampOfDatetime at accepted
  split at accepted
  · cases accepted
  · split at accepted
    · cases accepted; exact utcTimestamp_strftime _
    · cases accepted

example : utcTimestamp (.str "2026-1-2T3:04:05.12z") = .ok "2026-01-02T03:04:05.120000Z" := by rfl

end ConfigArtifact
