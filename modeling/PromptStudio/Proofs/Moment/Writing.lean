import Mathlib.Data.Nat.Digits.Defs
import PromptStudio.Proofs.Json.Numeral
import PromptStudio.Proofs.Moment.Validity

set_option autoImplicit false

namespace PromptStudio

namespace Moment

variable {n width y m d : Nat} {rest : List Char}

theorem length_padded (wide : 0 < width) (small : n < 10 ^ width) :
    (padded width n).length = width := by
  have short : (decimalDigits n).length ≤ width := Nat.toDigits_length 10 n width wide small
  rw [padded, List.length_append, List.length_replicate]
  omega

theorem isDigit_padded (width n : Nat) : ∀ c ∈ padded width n, c.isDigit = true := by
  intro c inside
  rcases List.mem_append.mp inside with filler | figure
  · rw [List.eq_of_mem_replicate filler]
    rfl
  · exact isDigit_of_mem_decimalDigits figure

theorem mapM_asciiDigit?_eq_filterMap {text : List Char}
    (figures : ∀ c ∈ text, c.isDigit = true) :
    text.mapM asciiDigit? = some (text.filterMap asciiDigit?) := by
  induction text with
  | nil => rfl
  | cons c rest ih =>
    have figure : asciiDigit? c = some (c.toNat - 48) := if_pos (figures c (List.mem_cons_self ..))
    rw [List.mapM_cons, figure, ih fun c inside => figures c (List.mem_cons_of_mem _ inside),
      List.filterMap_cons_some figure]
    rfl

theorem digitsValue_zeros (count : Nat) (digits : List Nat) :
    digitsValue (List.replicate count 0 ++ digits) = digitsValue digits := by
  induction count with
  | zero => rfl
  | succ count ih =>
    rw [List.replicate_succ, List.cons_append]
    exact ih

theorem figures?_padded (width n : Nat) : figures? (padded width n) = some n := by
  have figure : asciiDigit? '0' = some 0 := rfl
  rw [figures?, mapM_asciiDigit?_eq_filterMap (isDigit_padded width n), Option.map_some, padded,
    List.filterMap_append, List.filterMap_replicate_of_some figure, digitsValue_zeros,
    digitsValue_decimalDigits]

theorem two_figures (small : n < 100) :
    ∃ a b, padded 2 n = [a, b] ∧ figures? [a, b] = some n := by
  match same : padded 2 n, length_padded Nat.two_pos small with
  | [a, b], _ => exact ⟨a, b, rfl, same ▸ figures?_padded 2 n⟩

theorem four_figures (small : n < 10000) :
    ∃ a b c e, padded 4 n = [a, b, c, e] ∧ figures? [a, b, c, e] = some n := by
  match same : padded 4 n, length_padded (Nat.succ_pos 3) small with
  | [a, b, c, e], _ => exact ⟨a, b, c, e, rfl, same ▸ figures?_padded 4 n⟩

theorem dateOf_written (date : IsDate y m d) (rest : List Char) :
    dateOf (padded 4 y ++ '-' :: padded 2 m ++ '-' :: padded 2 d ++ rest) = .ok (y, m, d) := by
  obtain ⟨year, ⟨first, last⟩, begun, ended⟩ := date
  have days : d ≤ 31 := ended.trans (by unfold daysInMonth; split <;> (try split) <;> decide)
  obtain ⟨a, b, c, e, yearText, readYear⟩ := four_figures year
  obtain ⟨m₁, m₂, monthText, readMonth⟩ := two_figures (show m < 100 by omega)
  obtain ⟨d₁, d₂, dayText, readDay⟩ := two_figures (show d < 100 by omega)
  rw [yearText, monthText, dayText]
  have months : ¬(m = 0 ∨ 12 < m) := by omega
  have inside : ¬(d = 0 ∨ daysInMonth y m < d) := by omega
  simp [dateOf, readYear, readMonth, readDay, months, inside]
  rw [if_neg (by omega)]
  rfl

theorem microsecondsOf_written (small : n < 1000000) : microsecondsOf (padded 6 n) = some n := by
  have length := length_padded (Nat.succ_pos 5) small
  have filled : (padded 6 n).isEmpty = false := by
    rw [List.isEmpty_eq_false_iff, ← List.length_pos_iff, length]
    decide
  have front : (padded 6 n ++ List.replicate 6 '0').take 6 = padded 6 n := List.take_left' length
  rw [microsecondsOf, filled, front, figures?_padded]
  rfl

def Ended (rest : List Char) : Prop :=
  ∀ c ∈ rest.head?, c.isDigit = false ∧ c ≠ '.' ∧ c ≠ ','

theorem Ended.figures (ended : Ended rest) :
    rest.takeWhile Char.isDigit = [] ∧ rest.dropWhile Char.isDigit = rest := by
  cases rest with
  | nil => exact ⟨rfl, rfl⟩
  | cons c more => simp [(ended c rfl).1]

def fractionChars (microsecond : Nat) : List Char :=
  if microsecond = 0 then [] else '.' :: padded 6 microsecond

theorem clockOf?_written {clock : Clock} (hour : clock.hour < 24) (minute : clock.minute < 60)
    (second : clock.second < 60) (microsecond : clock.microsecond < 1000000) (ended : Ended rest) :
    clockOf? (padded 2 clock.hour ++ ':' :: padded 2 clock.minute ++ ':' :: padded 2 clock.second ++
      fractionChars clock.microsecond ++ rest) = some (clock, rest) := by
  obtain ⟨h₁, h₂, hourText, readHour⟩ := two_figures (show clock.hour < 100 by omega)
  obtain ⟨m₁, m₂, minuteText, readMinute⟩ := two_figures (show clock.minute < 100 by omega)
  obtain ⟨s₁, s₂, secondText, readSecond⟩ := two_figures (show clock.second < 100 by omega)
  have hours : ¬23 < clock.hour := by omega
  have minutes : ¬59 < clock.minute := by omega
  have seconds : ¬59 < clock.second := by omega
  rw [hourText, minuteText, secondText]
  by_cases whole : clock.microsecond = 0
  case pos =>
    simp [clockOf?, fractionChars, whole, readHour, readMinute, readSecond, hours, minutes, seconds]
    cases rest with
    | nil => simp [← whole]
    | cons c more =>
      obtain ⟨-, point, comma⟩ := ended c rfl
      simp [point, comma, ← whole]
  case neg =>
    obtain ⟨ends, all⟩ := ended.figures
    have digits := isDigit_padded 6 clock.microsecond
    have figures : (padded 6 clock.microsecond ++ rest).takeWhile Char.isDigit =
        padded 6 clock.microsecond := by
      rw [List.takeWhile_append_of_pos digits, ends, List.append_nil]
    have after : (padded 6 clock.microsecond ++ rest).dropWhile Char.isDigit = rest := by
      rw [List.dropWhile_append_of_pos digits, all]
    simp [clockOf?, fractionChars, whole, readHour, readMinute, readSecond, hours, minutes, seconds]
    rw [figures, after, microsecondsOf_written microsecond]
    rfl

def distanceChars : Option Int → List Char
  | none => []
  | some offset => if offset = 0 then ['Z'] else offsetChars offset

theorem ended_distanceChars (offset : Option Int) : Ended (distanceChars offset) := by
  intro c first
  unfold distanceChars at first
  cases offset with
  | none => cases first
  | some seconds =>
    dsimp only at first
    split at first
    next => cases first; decide
    next =>
      unfold offsetChars at first
      by_cases west : seconds < 0 <;> simp [west] at first <;> subst first <;> decide

theorem offsetOf?_written {offset : Option Int}
    (whole : ∀ seconds, offset = some seconds → seconds.natAbs < 86400 ∧ seconds.natAbs % 60 = 0) :
    offsetOf? (distanceChars offset) = some offset := by
  cases offset with
  | none => rfl
  | some seconds =>
    obtain ⟨below, full⟩ := whole seconds rfl
    unfold distanceChars
    dsimp only
    split
    next whole => rw [whole]; rfl
    next =>
      obtain ⟨h₁, h₂, hourText, readHour⟩ :=
        two_figures (show seconds.natAbs / 3600 < 100 by omega)
      obtain ⟨m₁, m₂, minuteText, readMinute⟩ :=
        two_figures (show seconds.natAbs % 3600 / 60 < 100 by omega)
      have minutes : ¬59 < seconds.natAbs % 3600 / 60 := by omega
      have sum : seconds.natAbs / 3600 * 3600 + seconds.natAbs % 3600 / 60 * 60 =
          seconds.natAbs := by omega
      have inside : ¬86400 ≤ seconds.natAbs := by omega
      unfold offsetChars
      dsimp only
      rw [hourText, minuteText]
      by_cases west : seconds < 0
      case pos =>
        have back : signed true seconds.natAbs = seconds := by
          simp only [signed, if_true]
          omega
        simp [west, offsetOf?, readHour, readMinute, minutes, sum, inside, back]
      case neg =>
        have back : signed false seconds.natAbs = seconds := by
          simp only [signed, Bool.false_eq_true, if_false]
          omega
        simp [west, offsetOf?, readHour, readMinute, minutes, sum, inside, back]

def dateChars (y m d : Nat) : List Char :=
  padded 4 y ++ '-' :: padded 2 m ++ '-' :: padded 2 d

theorem length_dateChars (date : IsDate y m d) : (dateChars y m d).length = 10 := by
  obtain ⟨year, ⟨first, last⟩, begun, ended⟩ := date
  have days : d ≤ 31 := ended.trans (by unfold daysInMonth; split <;> (try split) <;> decide)
  simp [dateChars, length_padded (Nat.succ_pos 3) year,
    length_padded Nat.two_pos (show m < 10 ^ 2 by omega),
    length_padded Nat.two_pos (show d < 10 ^ 2 by omega)]

theorem iso_chars (m : Moment) :
    m.iso.toList = dateChars m.year m.month m.day ++ 'T' ::
      (padded 2 m.hour ++ ':' :: padded 2 m.minute ++ ':' :: padded 2 m.second ++
        fractionChars m.microsecond ++ distanceChars m.offset) := by
  rw [iso, writeWith, String.toList_ofList]
  cases m.offset <;> simp [dateChars, fractionChars, distanceChars]

theorem dateTimeOf?_iso {m : Moment} (valid : m.Valid) : dateTimeOf? m.iso.toList = some m := by
  have length := length_dateChars valid.date
  have time := @clockOf?_written _ ⟨m.hour, m.minute, m.second, m.microsecond⟩ valid.hour
    valid.minute valid.second valid.microsecond (ended_distanceChars m.offset)
  have distance := offsetOf?_written valid.offset
  generalize clockText : padded 2 m.hour ++ ':' :: padded 2 m.minute ++ ':' :: padded 2 m.second ++
    fractionChars m.microsecond ++ distanceChars m.offset = clock at time
  have date : dateOf (dateChars m.year m.month m.day ++ 'T' :: clock) =
      .ok (m.year, m.month, m.day) := dateOf_written valid.date ('T' :: clock)
  have mark : (dateChars m.year m.month m.day ++ 'T' :: clock)[10]? = some 'T' := by
    rw [List.getElem?_append_right length.le, length]
    rfl
  have behind : (dateChars m.year m.month m.day ++ 'T' :: clock).drop 11 = clock := by
    rw [List.drop_append, length, List.drop_eq_nil_of_le (length.le.trans (by decide))]
    rfl
  rw [iso_chars, clockText, dateTimeOf?, date, mark, behind]
  simp [Except.toOption, isDateTimeMark, time, distance]

theorem moment_iso {m : Moment} (valid : m.Valid) : Reader.moment (.str m.iso) = .ok m := by
  rw [Reader.moment, ofText, dateTimeOf?_iso valid]

end Moment

end PromptStudio
