import PromptStudio.Number.Layout
import PromptStudio.Text.Numeral

set_option autoImplicit false

/-!
# Moments

A date and a time of day, with the distance from universal time where it is known.
-/

namespace PromptStudio

structure Moment where
  year : Nat
  month : Nat
  day : Nat
  hour : Nat := 0
  minute : Nat := 0
  second : Nat := 0
  microsecond : Nat := 0
  -- Seconds east of universal time.
  offset : Option Int := none
  deriving DecidableEq, Inhabited

namespace Moment

/-- Why a text names no date. -/
inductive Refusal where
  | tooShort
  | yearCharacter
  | monthCharacter
  | dayCharacter
  | dateSeparator
  | monthRange
  | dayRange
  | extraCharacters
  | beforeYears
  | afterYears
  | notNumber
  deriving DecidableEq, Inhabited

def Refusal.message : Refusal → String
  | .tooShort => "input is too short"
  | .yearCharacter => "invalid character in year"
  | .monthCharacter => "invalid character in month"
  | .dayCharacter => "invalid character in day"
  | .dateSeparator => "invalid date separator, expected `-`"
  | .monthRange => "month value is outside expected range of 1-12"
  | .dayRange => "day value is outside expected range"
  | .extraCharacters => "unexpected extra characters at the end of the input"
  | .beforeYears => "dates before 0000 are not supported as unix timestamps"
  | .afterYears => "dates after 9999 are not supported as unix timestamps"
  | .notNumber => "NaN values not permitted"

def isLeap (year : Nat) : Bool := year % 4 == 0 && (year % 100 != 0 || year % 400 == 0)

def daysInMonth (year month : Nat) : Nat :=
  match month with
  | 2 => if isLeap year then 29 else 28
  | 4 => 30
  | 6 => 30
  | 9 => 30
  | 11 => 30
  | _ => 31

def figures? (text : List Char) : Option Nat := (text.mapM asciiDigit?).map digitsValue

def dateOf (text : List Char) : Except Refusal (Nat × Nat × Nat) := do
  if text.length < 10 then throw .tooShort
  let some year := figures? (text.take 4) | throw .yearCharacter
  if text[4]? != some '-' then throw .dateSeparator
  let some month := figures? ((text.drop 5).take 2) | throw .monthCharacter
  if text[7]? != some '-' then throw .dateSeparator
  let some day := figures? ((text.drop 8).take 2) | throw .dayCharacter
  if month < 1 || 12 < month then throw .monthRange
  if day < 1 || daysInMonth year month < day then throw .dayRange
  return (year, month, day)

structure Clock where
  hour : Nat
  minute : Nat
  second : Nat
  microsecond : Nat

-- Digits after the sixth are dropped.
def microsecondsOf (digits : List Char) : Option Nat :=
  if digits.isEmpty then none
  else figures? ((digits ++ List.replicate 6 '0').take 6)

-- Hours and minutes, then seconds and their fraction if present, and what follows.
def clockOf? (text : List Char) : Option (Clock × List Char) := do
  let hour ← figures? (text.take 2)
  let minute ← figures? ((text.drop 3).take 2)
  if text.length < 5 || 23 < hour || 59 < minute || text[2]? != some ':' then none
  match text.drop 5 with
  | ':' :: rest =>
    let second ← figures? (rest.take 2)
    if rest.length < 2 || 59 < second then none
    match rest.drop 2 with
    | point :: rest' =>
      if point == '.' || point == ',' then
        let microsecond ← microsecondsOf (rest'.takeWhile Char.isDigit)
        some (⟨hour, minute, second, microsecond⟩, rest'.dropWhile Char.isDigit)
      else some (⟨hour, minute, second, 0⟩, point :: rest')
    | [] => some (⟨hour, minute, second, 0⟩, [])
  | rest => some (⟨hour, minute, 0, 0⟩, rest)

def offsetOf? (text : List Char) : Option (Option Int) :=
  let shift (negative : Bool) (rest : List Char) : Option (Option Int) := do
    let hours ← figures? (rest.take 2)
    let tail := match rest.drop 2 with
      | ':' :: tail => tail
      | tail => tail
    let minutes ← figures? tail
    if rest.length < 2 || tail.length != 2 || 59 < minutes then none
    let seconds := hours * 3600 + minutes * 60
    if 86400 ≤ seconds then none
    some (some (signed negative seconds))
  match text with
  | [] => some none
  | ['Z'] => some (some 0)
  | ['z'] => some (some 0)
  | '+' :: rest => shift false rest
  | '-' :: rest => shift true rest
  | '−' :: rest => shift true rest
  | _ => none

def isDateTimeMark (c : Char) : Bool := c == 'T' || c == 't' || c == ' ' || c == '_'

def dateTimeOf? (text : List Char) : Option Moment := do
  let (year, month, day) ← (dateOf text).toOption
  let mark ← text[10]?
  if !isDateTimeMark mark then none
  let (clock, rest) ← clockOf? (text.drop 11)
  let offset ← offsetOf? rest
  some { year, month, day, hour := clock.hour, minute := clock.minute, second := clock.second,
         microsecond := clock.microsecond, offset }

-- Years are counted from March, so that the day that comes and goes is the last of its year.
def dateOfDays (days : Int) : Nat × Nat × Nat :=
  let shifted := days + 719468
  let era := Int.fdiv shifted 146097
  let dayOfEra := (shifted - era * 146097).toNat
  let yearOfEra := (dayOfEra - dayOfEra / 1460 + dayOfEra / 36524 - dayOfEra / 146096) / 365
  let dayOfYear := dayOfEra - (365 * yearOfEra + yearOfEra / 4 - yearOfEra / 100)
  let marchMonth := (5 * dayOfYear + 2) / 153
  let day := dayOfYear - (153 * marchMonth + 2) / 5 + 1
  let month := if marchMonth < 10 then marchMonth + 3 else marchMonth - 9
  let year := (yearOfEra : Int) + era * 400 + (if month ≤ 2 then 1 else 0)
  (year.toNat, month, day)

def daysOfDate (year month day : Nat) : Int :=
  let y : Int := if month ≤ 2 then (year : Int) - 1 else year
  let era := Int.fdiv y 400
  let yearOfEra := y - era * 400
  let marchMonth : Int := if 2 < month then (month : Int) - 3 else (month : Int) + 9
  let dayOfYear := (153 * marchMonth + 2) / 5 + (day : Int) - 1
  let dayOfEra := yearOfEra * 365 + yearOfEra / 4 - yearOfEra / 100 + dayOfYear
  era * 146097 + dayOfEra - 719468

-- A count beyond 20 000 000 000 is taken for milliseconds.
def ofSeconds (count : Int) (microseconds : Nat) : Except Refusal Moment :=
  let large := decide (20000000000 < count.natAbs)
  let seconds := if large then Int.fdiv count 1000 else count
  let extra := if large then (Int.fmod count 1000).toNat * 1000 else 0
  let total := microseconds + extra
  let seconds := seconds + (total / 1000000 : Nat)
  if seconds < -62167219200 then .error .beforeYears
  else if 253402300799 < seconds then .error .afterYears
  else
    let days := Int.fdiv seconds 86400
    let rest := (Int.fmod seconds 86400).toNat
    let (year, month, day) := dateOfDays days
    .ok { year, month, day, hour := rest / 3600, minute := rest % 3600 / 60, second := rest % 60,
          microsecond := total % 1000000, offset := some 0 }

def ofNumber : Binary64 → Except Refusal Moment
  | .nan => .error .notNumber
  | .infinity negative => .error (if negative then .beforeYears else .afterYears)
  | .negativeZero => ofSeconds 0 0
  | .finite q =>
    let whole := if q < 0 then -(-q).floor else q.floor
    let part := if q < 0 then (whole : Rat) - q else q - (whole : Rat)
    let microseconds := (part * 1000000 + 1 / 2).floor.toNat
    ofSeconds q.floor microseconds

-- A moment as a form field spells it: a date with a time, a count of seconds, or a date.
def ofText (text : List Char) : Except Refusal Moment :=
  match dateTimeOf? text with
  | some moment => .ok moment
  | none =>
    match decimalOf? asciiDigit? (splitSign text).1 (splitSign text).2 with
    | some count =>
      match ofNumber count with
      | .ok moment => .ok moment
      | .error _ => (dateOf text).bind fun _ => .error .extraCharacters
    | none => do
      let (year, month, day) ← dateOf text
      if 10 < text.length then throw .extraCharacters
      return { year, month, day }

def padded (width n : Nat) : List Char :=
  let digits := decimalDigits n
  List.replicate (width - digits.length) '0' ++ digits

def offsetChars (offset : Int) : List Char :=
  let seconds := offset.natAbs
  (if offset < 0 then '-' else '+') :: padded 2 (seconds / 3600) ++ ':' ::
    padded 2 (seconds % 3600 / 60)

def writeWith (mark : Char) (universal : List Char) (m : Moment) : String :=
  String.ofList <|
    padded 4 m.year ++ '-' :: padded 2 m.month ++ '-' :: padded 2 m.day ++ mark ::
    padded 2 m.hour ++ ':' :: padded 2 m.minute ++ ':' :: padded 2 m.second ++
    (if m.microsecond = 0 then [] else '.' :: padded 6 m.microsecond) ++
    match m.offset with
    | none => []
    | some offset => if offset = 0 then universal else offsetChars offset

-- As data: a `T` between date and time, and `Z` for universal time.
def iso (m : Moment) : String := m.writeWith 'T' ['Z']

def spaced (m : Moment) : String := m.writeWith ' ' (offsetChars 0)

-- Digits only, as in the name of a file.
def stamp (m : Moment) : String :=
  String.ofList (padded 4 m.year ++ padded 2 m.month ++ padded 2 m.day ++ '_' ::
    padded 2 m.hour ++ padded 2 m.minute ++ padded 2 m.second)

def part? (m : Moment) (name : String) : Option Nat :=
  [("year", m.year), ("month", m.month), ("day", m.day), ("hour", m.hour), ("minute", m.minute),
    ("second", m.second), ("microsecond", m.microsecond)].lookup name

def localCount (m : Moment) : Int :=
  (daysOfDate m.year m.month m.day * 86400 + (m.hour * 3600 + m.minute * 60 + m.second : Nat)) *
    1000000 + m.microsecond

-- The same instant; a moment with a distance from universal time is never one without.
def same (a b : Moment) : Bool :=
  match a.offset, b.offset with
  | none, none => a.localCount == b.localCount
  | some x, some y => a.localCount - x * 1000000 == b.localCount - y * 1000000
  | _, _ => false

end Moment

end PromptStudio
