import Mathlib.Tactic.IntervalCases
import PromptStudio.Form.Reader
import PromptStudio.Proofs.Text.Digits

set_option autoImplicit false

namespace PromptStudio

namespace Moment

structure IsDate (y m d : Nat) : Prop where
  year : y < 10000
  month : 1 ≤ m ∧ m ≤ 12
  day : 1 ≤ d ∧ d ≤ daysInMonth y m

/-- A day and a time of it; the distance from universal time is in whole minutes and below a day. -/
structure Valid (m : Moment) : Prop where
  date : IsDate m.year m.month m.day
  hour : m.hour < 24
  minute : m.minute < 60
  second : m.second < 60
  microsecond : m.microsecond < 1000000
  offset : ∀ seconds, m.offset = some seconds →
    seconds.natAbs < 86400 ∧ seconds.natAbs % 60 = 0

def daysBefore (year : Nat) : Nat := 365 * year + year / 4 - year / 100 + year / 400

-- The days of an era up to the given one, without those that leap years add.
def evenDays (dayOfEra : Nat) : Nat :=
  dayOfEra - dayOfEra / 1460 + dayOfEra / 36524 - dayOfEra / 146096

theorem evenDays_mono {a b : Nat} (le : a ≤ b) (inside : b < 146097) : evenDays a ≤ evenDays b := by
  induction b, le using Nat.le_induction with
  | base => exact le_rfl
  | succ b _ ih =>
    have step : evenDays b ≤ evenDays (b + 1) := by
      unfold evenDays
      omega
    exact (ih (by omega)).trans step

theorem evenDays_daysBefore : ∀ year < 400, 365 * year ≤ evenDays (daysBefore year) := by
  decide +kernel

-- Were the day in a later year, that year's even days would have been counted too.
theorem lt_daysBefore {dayOfEra : Nat} (inside : dayOfEra < 146097) :
    dayOfEra < daysBefore (evenDays dayOfEra / 365 + 1) := by
  by_contra late
  have year : evenDays dayOfEra / 365 + 1 < 400 := by
    by_contra all
    have last : evenDays dayOfEra / 365 + 1 = 400 := by
      unfold evenDays at all ⊢
      omega
    rw [last] at late
    exact late inside
  have counted := evenDays_daysBefore _ year
  have sooner := evenDays_mono (Nat.not_lt.mp late) inside
  omega

theorem isLeap_iff {year : Nat} :
    isLeap year = true ↔ year % 4 = 0 ∧ (year % 100 ≠ 0 ∨ year % 400 = 0) := by
  simp [isLeap]

-- Months of 31 and 30 days alternate from March on, in two runs of five and a rest; only the last
-- day of a leap year is the 29th of February.
theorem monthDay_inside {dayOfYear marchMonth month year : Nat} (inside : dayOfYear ≤ 365)
    (march : marchMonth = (5 * dayOfYear + 2) / 153)
    (named : month = if marchMonth < 10 then marchMonth + 3 else marchMonth - 9)
    (leap : dayOfYear = 365 → isLeap year = true) :
    (1 ≤ month ∧ month ≤ 12) ∧ dayOfYear - (153 * marchMonth + 2) / 5 + 1 ≤
      daysInMonth year month := by
  have bound : marchMonth ≤ 11 := by omega
  interval_cases marchMonth <;> simp only [Nat.reduceLT, Nat.reduceAdd, Nat.reduceSub, if_true,
    if_false, Nat.lt_irrefl] at named <;> subst named <;> simp only [daysInMonth]
  all_goals first | omega | skip
  by_cases last : dayOfYear = 365
  · rw [if_pos (leap last)]
    omega
  · split <;> omega

theorem leap_of_last {dayOfEra year : Nat} (few : year < 400)
    (before : dayOfEra < daysBefore (year + 1)) :
    dayOfEra - (365 * year + year / 4 - year / 100) ≤ 365 ∧
      (dayOfEra - (365 * year + year / 4 - year / 100) = 365 → isLeap (year + 1) = true) := by
  unfold daysBefore at before
  rw [isLeap_iff]
  omega

theorem isDate_counted {era : Int} {dayOfEra year dayOfYear marchMonth month written : Nat}
    (inside : dayOfEra < 146097) (years : year = evenDays dayOfEra / 365)
    (counted : dayOfYear = dayOfEra - (365 * year + year / 4 - year / 100))
    (march : marchMonth = (5 * dayOfYear + 2) / 153)
    (named : month = if marchMonth < 10 then marchMonth + 3 else marchMonth - 9)
    (shown : written = ((year : Int) + era * 400 + (if month ≤ 2 then 1 else 0)).toNat)
    (soon : era < 24 ∨ era = 24 ∧ dayOfEra ≤ 146036) :
    IsDate written month (dayOfYear - (153 * marchMonth + 2) / 5 + 1) := by
  have few : year < 400 := by
    unfold evenDays at years
    omega
  have before : dayOfEra < daysBefore (year + 1) := years ▸ lt_daysBefore inside
  obtain ⟨short, leap⟩ := leap_of_last few before
  rw [← counted] at short leap
  have leap : dayOfYear = 365 → isLeap written = true := by
    intro full
    have february : month = 2 := by
      split at named <;> omega
    have next := isLeap_iff.mp (leap full)
    rw [february, if_pos le_rfl] at shown
    rw [isLeap_iff]
    omega
  obtain ⟨months, most⟩ := monthDay_inside short march named leap
  refine ⟨?_, months, Nat.le_add_left .., most⟩
  split at shown <;> split at named <;> omega

theorem isDate_dateOfDays {days : Int} (first : -719528 ≤ days) (last : days ≤ 2932896) :
    IsDate (dateOfDays days).1 (dateOfDays days).2.1 (dateOfDays days).2.2 := by
  have era : Int.fdiv (days + 719468) 146097 = (days + 719468) / 146097 :=
    Int.fdiv_eq_ediv_of_nonneg _ (by decide)
  have inside : (days + 719468 - Int.fdiv (days + 719468) 146097 * 146097).toNat < 146097 := by
    omega
  exact isDate_counted inside rfl rfl rfl rfl rfl (by omega)

variable {text : List Char} {y m d : Nat}

theorem mapM_asciiDigit?_some {digits : List Nat} (read : text.mapM asciiDigit? = some digits) :
    digits.length = text.length ∧ ∀ digit ∈ digits, digit < 10 := by
  induction text generalizing digits with
  | nil =>
    cases read
    simp
  | cons c rest ih =>
    rw [List.mapM_cons] at read
    obtain ⟨digit, first, read⟩ := Option.bind_eq_some_iff.mp read
    obtain ⟨later, others, read⟩ := Option.bind_eq_some_iff.mp read
    cases read
    obtain ⟨same, small⟩ := ih others
    exact ⟨congrArg (· + 1) same, List.forall_mem_cons.mpr ⟨asciiDigit?_lt first, small⟩⟩

theorem figures?_lt {n width : Nat} (read : figures? text = some n)
    (short : text.length ≤ width) : n < 10 ^ width := by
  obtain ⟨digits, figures, rfl⟩ := Option.map_eq_some_iff.mp read
  obtain ⟨same, small⟩ := mapM_asciiDigit?_some figures
  exact (digitsValue_lt small).trans_le (Nat.pow_le_pow_right (by decide) (same ▸ short))

theorem dateOf_isDate (read : dateOf text = .ok (y, m, d)) : IsDate y m d := by
  unfold dateOf at read
  dsimp only at read
  repeat' split at read
  all_goals try cases read
  rename_i years _ months _ inside
  simp only [Bool.or_eq_true, decide_eq_true_eq, not_or, Nat.not_lt] at months inside
  exact ⟨figures?_lt years (List.length_take_le 4 text), months, inside⟩

theorem microsecondsOf_lt {microsecond : Nat} (read : microsecondsOf text = some microsecond) :
    microsecond < 1000000 := by
  unfold microsecondsOf at read
  split at read
  next => cases read
  next => exact figures?_lt read (List.length_take_le 6 _)

theorem clockOf?_bounds {clock : Clock} {rest : List Char}
    (read : clockOf? text = some (clock, rest)) :
    clock.hour < 24 ∧ clock.minute < 60 ∧ clock.second < 60 ∧ clock.microsecond < 1000000 := by
  unfold clockOf? at read
  obtain ⟨hour, -, read⟩ := Option.bind_eq_some_iff.mp read
  obtain ⟨minute, -, read⟩ := Option.bind_eq_some_iff.mp read
  dsimp only at read
  split at read
  next => cases read
  next inside =>
    simp only [Bool.or_eq_true, decide_eq_true_eq, not_or, Nat.not_lt] at inside
    obtain ⟨⟨⟨-, hours⟩, minutes⟩, -⟩ := inside
    have hours : hour < 24 := Nat.lt_succ_of_le hours
    have minutes : minute < 60 := Nat.lt_succ_of_le minutes
    split at read
    next =>
      obtain ⟨second, -, read⟩ := Option.bind_eq_some_iff.mp read
      split at read
      next => cases read
      next inside =>
        simp only [Bool.or_eq_true, decide_eq_true_eq, not_or, Nat.not_lt] at inside
        have seconds : second < 60 := Nat.lt_succ_of_le inside.2
        split at read
        next =>
          split at read
          next =>
            obtain ⟨microsecond, fraction, read⟩ := Option.bind_eq_some_iff.mp read
            cases read
            exact ⟨hours, minutes, seconds, microsecondsOf_lt fraction⟩
          next =>
            cases read
            exact ⟨hours, minutes, seconds, Nat.succ_pos _⟩
        next =>
          cases read
          exact ⟨hours, minutes, seconds, Nat.succ_pos _⟩
    next =>
      cases read
      exact ⟨hours, minutes, Nat.succ_pos _, Nat.succ_pos _⟩

theorem offsetOf?_bounds {offset : Option Int} (read : offsetOf? text = some offset) :
    ∀ seconds, offset = some seconds → seconds.natAbs < 86400 ∧ seconds.natAbs % 60 = 0 := by
  unfold offsetOf? at read
  extract_lets shift at read
  have shifted {negative : Bool} {rest : List Char} (read : shift negative rest = some offset) :
      ∀ seconds, offset = some seconds → seconds.natAbs < 86400 ∧ seconds.natAbs % 60 = 0 := by
    obtain ⟨hours, -, read⟩ := Option.bind_eq_some_iff.mp read
    obtain ⟨minutes, -, read⟩ := Option.bind_eq_some_iff.mp read
    dsimp only [] at read
    repeat' split at read
    all_goals try (cases read; done)
    all_goals
      cases read
      rintro _ ⟨rfl⟩
      cases negative <;> simp [signed] <;> omega
  split at read
  next => cases read; nofun
  next => cases read; rintro _ ⟨rfl⟩; decide
  next => cases read; rintro _ ⟨rfl⟩; decide
  next => exact shifted read
  next => exact shifted read
  next => exact shifted read
  next => cases read

theorem Valid.of_dateTimeOf? {m : Moment} (read : dateTimeOf? text = some m) : m.Valid := by
  unfold dateTimeOf? at read
  obtain ⟨⟨year, month, day⟩, found, read⟩ := Option.bind_eq_some_iff.mp read
  obtain ⟨mark, -, read⟩ := Option.bind_eq_some_iff.mp read
  dsimp only at read
  split at read
  next => cases read
  next =>
    obtain ⟨⟨clock, rest⟩, time, read⟩ := Option.bind_eq_some_iff.mp read
    obtain ⟨offset, distance, read⟩ := Option.bind_eq_some_iff.mp read
    cases read
    have date : dateOf text = .ok (year, month, day) := by
      cases given : dateOf text with
      | error _ =>
        rw [given] at found
        cases found
      | ok date =>
        rw [given] at found
        exact congrArg Except.ok (Option.some.inj found)
    obtain ⟨hour, minute, second, microsecond⟩ := clockOf?_bounds time
    exact ⟨dateOf_isDate date, hour, minute, second, microsecond, offsetOf?_bounds distance⟩

theorem Valid.of_seconds {count : Int} {microseconds : Nat} {m : Moment}
    (read : ofSeconds count microseconds = .ok m) : m.Valid := by
  unfold ofSeconds at read
  extract_lets large seconds extra total moved at read
  split at read
  next => cases read
  next early =>
    split at read
    next => cases read
    next late =>
      cases read
      have rest : Int.fmod moved 86400 = moved % 86400 := Int.fmod_eq_emod_of_nonneg _ (by decide)
      have days : Int.fdiv moved 86400 = moved / 86400 :=
        Int.fdiv_eq_ediv_of_nonneg _ (by decide)
      constructor
      case date => exact isDate_dateOfDays (by omega) (by omega)
      case hour => dsimp only; omega
      case minute => dsimp only; omega
      case second => exact Nat.mod_lt _ (by decide)
      case microsecond => exact Nat.mod_lt _ (by decide)
      case offset =>
        rintro _ ⟨rfl⟩
        decide

theorem Valid.of_number {x : Binary64} {m : Moment} (read : ofNumber x = .ok m) : m.Valid := by
  cases x with
  | nan => cases read
  | infinity _ => cases read
  | negativeZero => exact @Valid.of_seconds 0 0 m read
  | finite q => exact .of_seconds read

theorem Valid.of_text {m : Moment} (read : ofText text = .ok m) : m.Valid := by
  unfold ofText at read
  split at read
  next moment written =>
    cases read
    exact .of_dateTimeOf? written
  next =>
    split at read
    next count _ =>
      split at read
      next moment counted =>
        cases read
        exact .of_number counted
      next =>
        cases given : dateOf text <;> rw [given] at read <;> cases read
    next =>
      cases given : dateOf text with
      | error _ => rw [given] at read; cases read
      | ok date =>
        obtain ⟨year, month, day⟩ := date
        rw [given] at read
        change (if _ then _ else _) = _ at read
        split at read
        next => cases read
        next =>
          cases read
          exact ⟨dateOf_isDate given, Nat.succ_pos _, Nat.succ_pos _, Nat.succ_pos _,
            Nat.succ_pos _, nofun⟩

theorem valid_of_moment {v : Json} {m : Moment} (read : Reader.moment v = .ok m) : m.Valid := by
  unfold Reader.moment at read
  split at read
  next => split at read <;> cases read; exact .of_text (by assumption)
  next => split at read <;> cases read; exact .of_seconds (by assumption)
  next => split at read <;> cases read; exact .of_number (by assumption)
  next => cases read

end Moment

end PromptStudio
