import ContractMate.LexicographicText

/-!
# Civil time

Dates of the proleptic Gregorian calendar with a time of day, the instants that they
denote, and the texts that show both in the same order.
-/

open PythonText LexicographicText

namespace CivilTime

def isLeap (year : Nat) : Bool :=
  year % 4 = 0 && (year % 100 ≠ 0 || year % 400 = 0)

/-- `_DAYS_BEFORE_MONTH`, in a year that is not a leap year. -/
def daysBefore : Nat → Nat
  | 1 => 0
  | 2 => 31
  | 3 => 59
  | 4 => 90
  | 5 => 120
  | 6 => 151
  | 7 => 181
  | 8 => 212
  | 9 => 243
  | 10 => 273
  | 11 => 304
  | 12 => 334
  | _ => 365

/-- `_days_before_month`. -/
def daysBeforeMonth (year month : Nat) : Nat :=
  daysBefore month + if 2 < month ∧ isLeap year then 1 else 0

/-- `_days_in_month`. -/
def daysInMonth (year month : Nat) : Nat :=
  daysBeforeMonth year (month + 1) - daysBeforeMonth year month

/-- `_days_before_year`. -/
def daysBeforeYear (year : Nat) : Nat :=
  let before := year - 1
  before * 365 + before / 4 - before / 100 + before / 400

/-- `datetime`, in UTC. -/
structure DateTime where
  year : Nat
  month : Nat
  day : Nat
  hour : Nat
  minute : Nat
  second : Nat
  microsecond : Nat
  year_range : 1 ≤ year ∧ year ≤ 9999 := by decide
  month_range : 1 ≤ month ∧ month ≤ 12 := by decide
  day_range : 1 ≤ day ∧ day ≤ daysInMonth year month := by decide
  hour_lt : hour < 24 := by decide
  minute_lt : minute < 60 := by decide
  second_lt : second < 60 := by decide
  microsecond_lt : microsecond < 1000000 := by decide
deriving DecidableEq

namespace DateTime

theorem no_microsecond : 0 < 1000000 := by
  decide

variable (time : DateTime)

/-- `toordinal()`. -/
def ordinal : Nat :=
  daysBeforeYear time.year + daysBeforeMonth time.year time.month + time.day

def secondOfDay : Nat :=
  (time.hour * 60 + time.minute) * 60 + time.second

/-- The microseconds since the first ordinal. -/
def instant : Int :=
  (time.ordinal * 86400 + time.secondOfDay) * 1000000 + time.microsecond

/-- The beginning of the second. -/
def wholeSecond : DateTime :=
  { time with microsecond := 0, microsecond_lt := no_microsecond }

/-- `%Y-%m-%d`. -/
def dateText : Text :=
  padded 4 time.year ++ '-' :: (padded 2 time.month ++ '-' :: padded 2 time.day)

/-- `%H:%M:%S`. -/
def clockText : Text :=
  padded 2 time.hour ++ ':' :: (padded 2 time.minute ++ ':' :: padded 2 time.second)

end DateTime

/-! ## The calendar -/

theorem daysBeforeYear_succ {year : Nat} (positive : 1 ≤ year) :
    daysBeforeYear (year + 1) = daysBeforeYear year + daysBeforeMonth year 13 := by
  obtain ⟨before, rfl⟩ := Nat.exists_eq_add_of_le' positive
  have fewer : before / 100 ≤ before / 4 := Nat.div_le_div_left (by decide) (by decide)
  have hundredth : (before + 1) % 100 = 0 → (before + 1) % 4 = 0 := by omega
  have fourHundredth : (before + 1) % 400 = 0 → (before + 1) % 100 = 0 := by omega
  simp only [daysBeforeYear, daysBeforeMonth, daysBefore, isLeap, Nat.add_sub_cancel,
    Nat.succ_div, Nat.dvd_iff_mod_eq_zero]
  generalize before / 4 = fourths, before / 100 = hundredths, before / 400 = longest at *
  by_cases four : (before + 1) % 4 = 0 <;> by_cases hundred : (before + 1) % 100 = 0 <;>
    by_cases fourHundred : (before + 1) % 400 = 0 <;>
    simp_all <;> omega

theorem daysBeforeMonth_succ (year : Nat) {month : Nat} (month_range : 1 ≤ month ∧ month ≤ 12) :
    daysBeforeMonth year (month + 1) = daysBeforeMonth year month + daysInMonth year month := by
  have increases : daysBeforeMonth year month ≤ daysBeforeMonth year (month + 1) := by
    obtain ⟨least, greatest⟩ := month_range
    interval_cases month <;> simp [daysBeforeMonth, daysBefore]
    split <;> omega
  rw [daysInMonth]
  omega

theorem daysBeforeMonth_mono (year : Nat) {first second : Nat} (least : 1 ≤ first)
    (ordered : first ≤ second) (greatest : second ≤ 13) :
    daysBeforeMonth year first ≤ daysBeforeMonth year second := by
  induction second, ordered using Nat.le_induction with
  | base => exact Nat.le_refl _
  | succ second ordered induction =>
      have month_range : 1 ≤ second ∧ second ≤ 12 := ⟨by omega, by omega⟩
      have step := daysBeforeMonth_succ year month_range
      have earlier := induction (by omega)
      omega

theorem daysBeforeYear_mono {first second : Nat} (least : 1 ≤ first) (ordered : first ≤ second) :
    daysBeforeYear first ≤ daysBeforeYear second := by
  induction second, ordered using Nat.le_induction with
  | base => exact Nat.le_refl _
  | succ second ordered induction =>
      have positive : 1 ≤ second := by omega
      have step := daysBeforeYear_succ positive
      omega

namespace DateTime

variable {first second : DateTime}

/-- A date lies in its month. -/
theorem ordinal_range (time : DateTime) :
    daysBeforeYear time.year + daysBeforeMonth time.year time.month < time.ordinal ∧
      time.ordinal ≤ daysBeforeYear time.year + daysBeforeMonth time.year (time.month + 1) := by
  have day := time.day_range
  have month := daysBeforeMonth_succ time.year time.month_range
  rw [ordinal]
  omega

theorem ordinal_lt_of_year (earlier : first.year < second.year) :
    first.ordinal < second.ordinal := by
  have ends : first.month + 1 ≤ 13 := by
    have month := first.month_range
    omega
  have inYear := daysBeforeMonth_mono first.year (Nat.le_add_left 1 _) ends (Nat.le_refl 13)
  have next := daysBeforeYear_succ first.year_range.1
  have years := daysBeforeYear_mono (by omega : 1 ≤ first.year + 1) (by omega :
    first.year + 1 ≤ second.year)
  have front := first.ordinal_range
  have back := second.ordinal_range
  omega

theorem ordinal_lt_of_month (sameYear : first.year = second.year)
    (earlier : first.month < second.month) : first.ordinal < second.ordinal := by
  have ends : second.month ≤ 13 := by
    have month := second.month_range
    omega
  have inYear := daysBeforeMonth_mono first.year (Nat.le_add_left 1 _) earlier ends
  have front := first.ordinal_range
  have back := second.ordinal_range
  rw [← sameYear] at back
  omega

/-- Ordinals order dates by year, month and day. -/
theorem ordinal_lt_iff :
    first.ordinal < second.ordinal ↔
      first.year < second.year ∨ first.year = second.year ∧
        (first.month < second.month ∨ first.month = second.month ∧ first.day < second.day) := by
  rcases Nat.lt_trichotomy first.year second.year with less | sameYear | greater
  · simp [less, ordinal_lt_of_year less]
  · rcases Nat.lt_trichotomy first.month second.month with less | sameMonth | greater
    · simp [sameYear, less, ordinal_lt_of_month sameYear less]
    · simp [ordinal, sameYear, sameMonth]
    · have later := ordinal_lt_of_month sameYear.symm greater
      omega
  · have later := ordinal_lt_of_year greater
    omega

theorem secondOfDay_lt (time : DateTime) : time.secondOfDay < 86400 := by
  have hour := time.hour_lt
  have minute := time.minute_lt
  have second := time.second_lt
  rw [secondOfDay]
  omega

/-! ## Texts -/

section Widths

variable (time : DateTime)

theorem year_fits : time.year < 10 ^ (3 + 1) := by
  have range := time.year_range
  omega

theorem month_fits : time.month < 10 ^ (1 + 1) := by
  have range := time.month_range
  omega

theorem day_fits : time.day < 10 ^ (1 + 1) := by
  have day := time.day_range
  have longest : daysInMonth time.year time.month ≤ 31 := by
    have range := time.month_range
    generalize time.month = month at range
    obtain ⟨least, greatest⟩ := range
    interval_cases month <;> simp [daysInMonth, daysBeforeMonth, daysBefore]
    all_goals split <;> omega
  omega

theorem hour_fits : time.hour < 10 ^ (1 + 1) := by
  have range := time.hour_lt
  omega

theorem minute_fits : time.minute < 10 ^ (1 + 1) := by
  have range := time.minute_lt
  omega

theorem second_fits : time.second < 10 ^ (1 + 1) := by
  have range := time.second_lt
  omega

theorem length_dateText : time.dateText.length = 10 := by
  rw [dateText]
  simp [length_padded 3 time.year_fits, length_padded 1 time.month_fits,
    length_padded 1 time.day_fits]

theorem length_clockText : time.clockText.length = 8 := by
  rw [clockText]
  simp [length_padded 1 time.hour_fits, length_padded 1 time.minute_fits,
    length_padded 1 time.second_fits]

end Widths

/-- Two fields of one width before a separator and the rest. -/
theorem field_lt_iff (width : Nat) {front back : Nat} (separator : Char)
    (frontFits : front < 10 ^ (width + 1)) (backFits : back < 10 ^ (width + 1))
    (rest other : Text) :
    padded (width + 1) front ++ separator :: rest < padded (width + 1) back ++ separator :: other ↔
      front < back ∨ front = back ∧ rest < other := by
  have widths : (padded (width + 1) front).length = (padded (width + 1) back).length := by
    rw [length_padded width frontFits, length_padded width backFits]
  rw [append_lt_append_iff widths, padded_lt_iff width frontFits backFits,
    padded_inj width frontFits backFits, List.cons_lt_cons_iff]
  simp

/-- Dates are ordered as texts. -/
theorem dateText_lt_iff : first.dateText < second.dateText ↔ first.ordinal < second.ordinal := by
  rw [ordinal_lt_iff, dateText, dateText, field_lt_iff 3 '-' first.year_fits second.year_fits,
    field_lt_iff 1 '-' first.month_fits second.month_fits,
    padded_lt_iff 1 first.day_fits second.day_fits]

theorem clockText_lt_iff :
    first.clockText < second.clockText ↔ first.secondOfDay < second.secondOfDay := by
  rw [clockText, clockText, field_lt_iff 1 ':' first.hour_fits second.hour_fits,
    field_lt_iff 1 ':' first.minute_fits second.minute_fits,
    padded_lt_iff 1 first.second_fits second.second_fits, secondOfDay, secondOfDay]
  have minutes := first.minute_lt
  have otherMinutes := second.minute_lt
  have seconds := first.second_lt
  have otherSeconds := second.second_lt
  omega

/-- In a linear order what is ordered alike is equal alike. -/
theorem eq_iff_of_lt_iff {α : Type} [LinearOrder α] {text other : α} {number instead : Nat}
    (less : text < other ↔ number < instead) (greater : other < text ↔ instead < number) :
    text = other ↔ number = instead := by
  rw [eq_iff_le_not_lt, ← not_lt, greater, less]
  omega

theorem dateText_inj : first.dateText = second.dateText ↔ first.ordinal = second.ordinal :=
  eq_iff_of_lt_iff dateText_lt_iff dateText_lt_iff

theorem clockText_inj :
    first.clockText = second.clockText ↔ first.secondOfDay = second.secondOfDay :=
  eq_iff_of_lt_iff clockText_lt_iff clockText_lt_iff

/-- Instants are ordered by day, second and microsecond. -/
theorem instant_le_iff :
    first.instant ≤ second.instant ↔
      first.ordinal < second.ordinal ∨ first.ordinal = second.ordinal ∧
        (first.secondOfDay < second.secondOfDay ∨ first.secondOfDay = second.secondOfDay ∧
          first.microsecond ≤ second.microsecond) := by
  have seconds := first.secondOfDay_lt
  have otherSeconds := second.secondOfDay_lt
  have microseconds := first.microsecond_lt
  have otherMicroseconds := second.microsecond_lt
  rw [instant, instant]
  omega

end DateTime

end CivilTime
