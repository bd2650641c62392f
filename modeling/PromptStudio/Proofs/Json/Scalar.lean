import Mathlib.Data.List.TakeWhile
import PromptStudio.Json.Reader

set_option autoImplicit false

namespace PromptStudio.Json

def inNumber (c : Char) : Bool := c.isAlphanum || c == '+' || c == '-' || c == '.'

def Apart (rest : List Char) : Prop := ∀ c ∈ rest.head?, inNumber c = false

theorem inNumber_of_isDigit {c : Char} (digit : c.isDigit = true) : inNumber c = true := by
  simp [inNumber, Char.isAlphanum, digit]

theorem isGap_of_inNumber {c : Char} (number : inNumber c = true) : isGap c = false := by
  rw [← Bool.not_eq_true]
  intro gap
  have spaces : c = ' ' ∨ c = '\t' ∨ c = '\n' ∨ c = '\r' := by simpa [isGap, or_assoc] using gap
  rcases spaces with rfl | rfl | rfl | rfl <;> exact absurd number (by decide)

theorem skipGap_of_inNumber {text : List Char} (number : ∀ c ∈ text, inNumber c = true) :
    skipGap text = text := by
  cases text with
  | nil => rfl
  | cons c rest => simp [skipGap, isGap_of_inNumber (number c (by simp))]

section Apart

variable {rest : List Char}

theorem Apart.ne (apart : Apart rest) {c : Char} (number : inNumber c = true) (more : List Char) :
    rest ≠ c :: more := by
  rintro rfl
  simp [apart c rfl] at number

theorem takeWhile_isDigit_apart (apart : Apart rest) (text : List Char) :
    (text ++ rest).takeWhile Char.isDigit = text.takeWhile Char.isDigit := by
  induction text with
  | nil =>
    cases rest with
    | nil => rfl
    | cons c more =>
      have other : c.isDigit = false := by
        rw [← Bool.not_eq_true]
        exact fun digit => apart.ne (inNumber_of_isDigit digit) more rfl
      simp [other]
  | cons c text ih => simp [List.takeWhile_cons, ih]

theorem dropWhile_isDigit_apart (apart : Apart rest) (text : List Char) :
    (text ++ rest).dropWhile Char.isDigit = text.dropWhile Char.isDigit ++ rest := by
  have whole := List.takeWhile_append_dropWhile (p := Char.isDigit) (l := text ++ rest)
  rw [takeWhile_isDigit_apart apart] at whole
  have front := List.takeWhile_append_dropWhile (p := Char.isDigit) (l := text)
  have joined : text.takeWhile Char.isDigit ++ (text ++ rest).dropWhile Char.isDigit =
      text.takeWhile Char.isDigit ++ (text.dropWhile Char.isDigit ++ rest) := by
    rw [whole, ← List.append_assoc, front]
  exact List.append_cancel_left joined

theorem splitSign_append (apart : Apart rest) (text : List Char) :
    splitSign (text ++ rest) = ((splitSign text).1, (splitSign text).2 ++ rest) := by
  cases text with
  | nil =>
    have minus := apart.ne (c := '-') (by decide)
    have plus := apart.ne (c := '+') (by decide)
    cases rest with
    | nil => rfl
    | cons c more => simp_all [splitSign]
  | cons c text => simp only [List.cons_append, splitSign]; split <;> simp_all

theorem readPower_append (apart : Apart rest) (text : List Char) :
    readPower (text ++ rest) = ((readPower text).1, (readPower text).2 ++ rest) := by
  cases text with
  | nil =>
    have small := apart.ne (c := 'e') (by decide)
    have large := apart.ne (c := 'E') (by decide)
    cases rest with
    | nil => rfl
    | cons c more => simp_all [readPower]
  | cons c text =>
    simp only [List.cons_append, readPower, splitSign_append apart, takeWhile_isDigit_apart apart,
      dropWhile_isDigit_apart apart]
    split <;> (try split) <;> simp

theorem readFraction_append (apart : Apart rest) (text : List Char) :
    readFraction (text ++ rest) = ((readFraction text).1, (readFraction text).2 ++ rest) := by
  cases text with
  | nil =>
    have point := apart.ne (c := '.') (by decide)
    cases rest with
    | nil => rfl
    | cons c more => simp_all [readFraction]
  | cons c text =>
    by_cases point : c = '.'
    next =>
      subst point
      simp only [List.cons_append, readFraction, takeWhile_isDigit_apart apart,
        dropWhile_isDigit_apart apart]
      split <;> simp
    next => simp [readFraction, point]

theorem readWhole?_of_ne {text : List Char} (first : text.head? ≠ some '0') :
    readWhole? text =
      if (text.takeWhile Char.isDigit).isEmpty then none
      else some (text.takeWhile Char.isDigit, text.dropWhile Char.isDigit) := by
  unfold readWhole?
  split
  next => simp at first
  next => rfl

theorem readWhole?_append (apart : Apart rest) (text : List Char) :
    readWhole? (text ++ rest) =
      (readWhole? text).map fun (digits, more) => (digits, more ++ rest) := by
  by_cases first : text.head? = some '0'
  next =>
    obtain ⟨more, rfl⟩ := List.head?_eq_some_iff.mp first
    rfl
  next =>
    have other : (text ++ rest).head? ≠ some '0' := by
      cases text with
      | nil =>
        intro leads
        obtain ⟨more, same⟩ := List.head?_eq_some_iff.mp leads
        exact apart.ne (by decide) more same
      | cons c text => simpa using first
    rw [readWhole?_of_ne first, readWhole?_of_ne other, takeWhile_isDigit_apart apart,
      dropWhile_isDigit_apart apart]
    split <;> rfl

def unsignedNumber? (negative : Bool) (body : List Char) : Option (Json × List Char) :=
  match readWhole? body with
  | none => none
  | some (whole, rest) =>
    let (fraction, rest) := readFraction rest
    let (power, rest) := readPower rest
    let value (digits : List Char) : Nat := digitsValue (digits.filterMap asciiDigit?)
    match fraction, power with
    | none, none =>
      if whole.length ≤ digitLimit then some (.int (signed negative (value whole)), rest)
      else none
    | fraction, power =>
      let fraction := fraction.getD []
      some (.float (.ofDecimal negative (value (whole ++ fraction))
        (power.getD 0 - fraction.length)), rest)

theorem readNumber?_negative (body : List Char) :
    readNumber? ('-' :: body) = unsignedNumber? true body := rfl

theorem readNumber?_unsigned {text : List Char} (first : text.head? ≠ some '-') :
    readNumber? text = unsignedNumber? false text := by
  unfold readNumber?
  split
  next signed =>
    split at signed
    next => simp at first
    next => cases signed; rfl

theorem unsignedNumber?_append (apart : Apart rest) (negative : Bool) (body : List Char) :
    unsignedNumber? negative (body ++ rest) =
      (unsignedNumber? negative body).map fun (v, more) => (v, more ++ rest) := by
  unfold unsignedNumber?
  rw [readWhole?_append apart]
  cases readWhole? body with
  | none => rfl
  | some parts =>
    simp only [Option.map_some, readFraction_append apart, readPower_append apart]
    split
    next => split <;> rfl
    next => rfl

theorem readNumber?_append (apart : Apart rest) (text : List Char) :
    readNumber? (text ++ rest) = (readNumber? text).map fun (v, more) => (v, more ++ rest) := by
  by_cases first : text.head? = some '-'
  next =>
    obtain ⟨body, rfl⟩ := List.head?_eq_some_iff.mp first
    exact unsignedNumber?_append apart true body
  next =>
    have other : (text ++ rest).head? ≠ some '-' := by
      cases text with
      | nil =>
        intro minus
        obtain ⟨more, same⟩ := List.head?_eq_some_iff.mp minus
        exact apart.ne (by decide) more same
      | cons c text => simpa using first
    rw [readNumber?_unsigned first, readNumber?_unsigned other]
    exact unsignedNumber?_append apart false text

theorem isPrefixOf_append (apart : Apart rest) {word : List Char}
    (number : ∀ c ∈ word, inNumber c = true) (text : List Char) :
    word.isPrefixOf (text ++ rest) = word.isPrefixOf text := by
  induction word generalizing text with
  | nil => simp
  | cons c word ih =>
    cases text with
    | nil =>
      cases rest with
      | nil => rfl
      | cons d more =>
        have other : c ≠ d := by
          rintro rfl
          exact apart.ne (number c (by simp)) more rfl
        simp [List.isPrefixOf, other]
    | cons d text =>
      simp only [List.cons_append, List.isPrefixOf]
      rw [ih (fun c inside => number c (by simp [inside]))]

theorem afterWord?_append (apart : Apart rest) {word : String}
    (number : ∀ c ∈ word.toList, inNumber c = true) (text : List Char) :
    afterWord? word (text ++ rest) = (afterWord? word text).map (· ++ rest) := by
  unfold afterWord?
  rw [isPrefixOf_append apart number]
  split
  next start =>
    have inside := (List.isPrefixOf_iff_prefix.mp start).length_le
    rw [String.length_toList] at inside
    rw [List.drop_append_of_le_length inside]
    rfl
  next => rfl

theorem readNamed?_append (apart : Apart rest) (text : List Char) :
    readNamed? (text ++ rest) = (readNamed? text).map fun (v, more) => (v, more ++ rest) := by
  have number : ∀ entry ∈ namedValues, entry.1.toList.all inNumber = true := by decide
  unfold readNamed?
  generalize namedValues = entries at number
  induction entries with
  | nil => rfl
  | cons entry entries ih =>
    have later := ih fun entry inside => number entry (List.mem_cons_of_mem _ inside)
    have word := List.all_eq_true.mp (number entry (by simp))
    simp only [List.findSome?_cons, afterWord?_append apart word, later]
    cases afterWord? entry.1 text <;> rfl

def readScalar? (text : List Char) : Option (Json × List Char) :=
  (readNamed? text).or (readNumber? text)

theorem readScalar?_append (apart : Apart rest) (text : List Char) :
    readScalar? (text ++ rest) = (readScalar? text).map fun (v, more) => (v, more ++ rest) := by
  rw [readScalar?, readNamed?_append apart, readNumber?_append apart, readScalar?, Option.map_or]

end Apart

section Suffix

variable {v : Json} {text rest : List Char}

theorem readPower_suffix (text : List Char) : (readPower text).2 <:+ text := by
  have unsigned (more : List Char) : (splitSign more).2 <:+ more := by
    unfold splitSign
    split <;> simp
  cases text with
  | nil => simp [readPower]
  | cons e more =>
    have behind := ((List.dropWhile_suffix Char.isDigit).trans (unsigned more)).trans
      (List.suffix_cons e more)
    simp only [readPower]
    split
    next => split <;> first | exact List.suffix_rfl | exact behind
    next => exact List.suffix_rfl

theorem readFraction_suffix (text : List Char) : (readFraction text).2 <:+ text := by
  unfold readFraction
  split
  next more =>
    have behind := (List.dropWhile_suffix Char.isDigit).trans (List.suffix_cons '.' more)
    simp only
    split <;> first | exact List.suffix_rfl | exact behind
  next => exact List.suffix_rfl

theorem readWhole?_suffix {digits : List Char} (found : readWhole? text = some (digits, rest)) :
    rest <:+ text := by
  unfold readWhole? at found
  split at found
  next more =>
    obtain ⟨-, rfl⟩ := by simpa using found
    exact List.suffix_cons _ _
  next =>
    simp only at found
    split at found
    next => simp at found
    next =>
      obtain ⟨-, rfl⟩ := by simpa using found
      exact List.dropWhile_suffix _

theorem unsignedNumber?_suffix {negative : Bool}
    (found : unsignedNumber? negative text = some (v, rest)) : rest <:+ text := by
  unfold unsignedNumber? at found
  split at found
  next => simp at found
  next digits more whole =>
    have behind := ((readPower_suffix _).trans (readFraction_suffix more)).trans
      (readWhole?_suffix whole)
    simp only at found
    split at found
    next =>
      split at found
      next =>
        obtain ⟨-, rfl⟩ := by simpa using found
        exact behind
      next => simp at found
    next =>
      obtain ⟨-, rfl⟩ := by simpa using found
      exact behind

theorem readNumber?_suffix (found : readNumber? text = some (v, rest)) : rest <:+ text := by
  by_cases first : text.head? = some '-'
  next =>
    obtain ⟨body, rfl⟩ := List.head?_eq_some_iff.mp first
    exact (unsignedNumber?_suffix found).trans (List.suffix_cons _ _)
  next =>
    rw [readNumber?_unsigned first] at found
    exact unsignedNumber?_suffix found

theorem readNamed?_suffix (found : readNamed? text = some (v, rest)) : rest <:+ text := by
  obtain ⟨entry, -, read⟩ := List.exists_of_findSome?_eq_some found
  obtain ⟨more, after, same⟩ := Option.map_eq_some_iff.mp read
  obtain ⟨-, rfl⟩ := by simpa using same
  unfold afterWord? at after
  split at after
  next =>
    obtain rfl := by simpa using after
    exact List.drop_suffix _ _
  next => simp at after

theorem readScalar?_suffix (found : readScalar? text = some (v, rest)) : rest <:+ text := by
  rcases Option.or_eq_some_iff.mp found with named | ⟨-, number⟩
  · exact readNamed?_suffix named
  · exact readNumber?_suffix number

end Suffix

theorem readValue?_scalar {text : List Char} (number : ∀ c ∈ text, inNumber c = true) (fuel : Nat)
    (rest : List Char) (filled : text ≠ []) :
    readValue? (fuel + 1) (text ++ rest) = readScalar? (text ++ rest) := by
  cases text with
  | nil => exact absurd rfl filled
  | cons c text =>
    have first := number c (by simp)
    rw [List.cons_append, readValue?]
    · rfl
    all_goals
      intro more same
      injection same with same
      subst same
      exact absurd first (by decide)

end PromptStudio.Json
