import PromptStudio.Number.Layout
import PromptStudio.Text.Blank
import PromptStudio.Text.Digit

set_option autoImplicit false

/-!
# Numbers written in text

A numeral is digits in groups, joined by single underscores. Free text admits the digits of every
script (`integerOf?`, `numberOf?`), a form field only `0` to `9` (`fieldInteger`, `fieldNumber?`).
-/

namespace PromptStudio

def asciiDigit? (c : Char) : Option Nat :=
  if c.isDigit then some (c.toNat - 48) else none

-- Digits in non-empty groups with one underscore between two groups.
def groupedDigits? (digit? : Char → Option Nat) (text : List Char) : Option (List Nat) :=
  let groups := text.splitOn '_'
  if groups.any List.isEmpty then none else groups.flatten.mapM digit?

def digitsValue (digits : List Nat) : Nat := digits.foldl (fun n d => 10 * n + d) 0

def splitSign : List Char → Bool × List Char
  | '-' :: rest => (true, rest)
  | '+' :: rest => (false, rest)
  | text => (false, text)

def signed (negative : Bool) (n : Nat) : Int := if negative then -(n : Int) else n

-- Longer numerals are refused.
def digitLimit : Nat := 4300

def integerOf? (text : List Char) : Option Int :=
  let (negative, body) := splitSign (trimWhere isSpacing text)
  match groupedDigits? digitValue? body with
  | some digits =>
    if digits.length ≤ digitLimit then some (signed negative (digitsValue digits)) else none
  | none => none

-- Exponents far outside the range are settled before any power is formed.
-- `digits · 10^exponent` with a sign, rounded.
def Binary64.ofDecimal (negative : Bool) (digits : Nat) (exponent : Int) : Binary64 :=
  let scale := exponent + (decimalDigits digits).length
  let magnitude :=
    if digits = 0 || scale < -400 then Binary64.finite 0
    else if 400 < scale then .infinity false
    else .ofRat ((digits : Rat) * (10 : Rat) ^ exponent)
  if negative then magnitude.neg else magnitude

/-- A decimal in the middle of being read: the parts before and after the point, and a power. -/
structure DecimalParts where
  whole : List Char
  fraction : List Char
  power : Option (List Char)

def DecimalParts.of (isFigure : Char → Bool) (text : List Char) : Option DecimalParts :=
  let whole := text.takeWhile isFigure
  let (fraction, rest) :=
    match text.dropWhile isFigure with
    | '.' :: rest => (rest.takeWhile isFigure, rest.dropWhile isFigure)
    | rest => ([], rest)
  match rest with
  | [] => some ⟨whole, fraction, none⟩
  | e :: power => if e == 'e' || e == 'E' then some ⟨whole, fraction, some power⟩ else none

def optionalDigits? (digit? : Char → Option Nat) (text : List Char) : Option (List Nat) :=
  if text.isEmpty then some [] else groupedDigits? digit? text

-- A decimal with an optional point and power of ten, at least one digit beside the point.
def decimalOf? (digit? : Char → Option Nat) (negative : Bool) (text : List Char) :
    Option Binary64 := do
  let parts ← DecimalParts.of (fun c => (digit? c).isSome || c == '_') text
  let whole ← optionalDigits? digit? parts.whole
  let fraction ← optionalDigits? digit? parts.fraction
  if whole.isEmpty && fraction.isEmpty then none
  let power ← match parts.power with
    | none => some 0
    | some power =>
      let (negativePower, body) := splitSign power
      (groupedDigits? digit? body).map fun digits => signed negativePower (digitsValue digits)
  some (.ofDecimal negative (digitsValue (whole ++ fraction)) (power - fraction.length))

def namedNumber? (negative : Bool) (text : List Char) : Option Binary64 :=
  match String.ofList (text.map Char.toLower) with
  | "inf" => some (.infinity negative)
  | "infinity" => some (.infinity negative)
  | "nan" => some .nan
  | _ => none

def signedNumberOf? (digit? : Char → Option Nat) (text : List Char) : Option Binary64 :=
  let (negative, body) := splitSign text
  (namedNumber? negative body).or (decimalOf? digit? negative body)

def numberOf? (text : List Char) : Option Binary64 :=
  signedNumberOf? digitValue? (trimWhere isSpacing text)

def fieldNumber? (text : List Char) : Option Binary64 :=
  signedNumberOf? asciiDigit? (trimWhere isSpacing text)

inductive FieldInteger where
  | value (n : Int)
  | tooLong
  | malformed

-- The integer in a form field; a fraction of zeros is accepted.
def fieldInteger (text : List Char) : FieldInteger :=
  let body := trimWhere isSpacing text
  if digitLimit < body.length then .tooLong
  else
    let (negative, unsigned) := splitSign body
    let whole := unsigned.takeWhile (· != '.')
    if (unsigned.dropWhile (· != '.')).drop 1 |>.all (· == '0') then
      match groupedDigits? asciiDigit? whole with
      | some digits => .value (signed negative (digitsValue digits))
      | none => .malformed
    else .malformed

end PromptStudio
