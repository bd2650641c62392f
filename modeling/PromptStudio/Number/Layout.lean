import PromptStudio.Number.Binary64

set_option autoImplicit false

/-!
# Decimal text of numbers

`Binary64.shortest` finds the fewest digits that read back, `Binary64.significant` a fixed number
of them. A `Layout` says how digits and an exponent become text.
-/

namespace PromptStudio

def decimalDigits (n : Nat) : List Char := Nat.toDigits 10 n

/-- A positive decimal: `digits` read as an integer, times ten to the `exponent`. -/
structure Scaled where
  digits : Nat
  exponent : Int
  deriving DecidableEq, Inhabited

namespace Scaled

def toRat (s : Scaled) : Rat := (s.digits : Rat) * (10 : Rat) ^ s.exponent

def figures (s : Scaled) : List Char :=
  match ((decimalDigits s.digits).reverse.dropWhile (· == '0')).reverse with
  | [] => ['0']
  | figures => figures

def leading (s : Scaled) : Int := s.exponent + (decimalDigits s.digits).length - 1

end Scaled

-- The exponent `e` with `10^e ≤ q < 10^(e+1)`, for a positive `q`.
def decimalExponent (q : Rat) : Int :=
  let guess : Int :=
    ((decimalDigits q.num.natAbs).length : Int) - ((decimalDigits q.den).length : Int)
  if (10 : Rat) ^ guess ≤ q then guess else guess - 1

-- Nearest decimal with `count` significant digits to a positive rational.
def significant (count : Nat) (q : Rat) : Scaled :=
  let exponent := decimalExponent q - (count : Int) + 1
  ⟨(roundHalfEven (q / (10 : Rat) ^ exponent)).toNat, exponent⟩

-- A grid with a point that reads back has one next to the value, so two neighbours are enough.
def readsBackAt (q : Rat) (count : Nat) : Option Scaled :=
  let exponent := decimalExponent q - (count : Int) + 1
  let scaled := q / (10 : Rat) ^ exponent
  let below := scaled.floor.toNat
  let hit (n : Nat) : Bool :=
    Binary64.ofRat (Scaled.toRat ⟨n, exponent⟩) == Binary64.finite q
  match hit below, hit (below + 1) with
  | true, true => some ⟨(roundHalfEven scaled).toNat, exponent⟩
  | true, false => some ⟨below, exponent⟩
  | false, true => some ⟨below + 1, exponent⟩
  | false, false => none

-- The fewest digits that read back as the number `q`, and of those the nearest.
def shortest (q : Rat) : Scaled :=
  ((List.range 17).findSome? fun n => readsBackAt q (n + 1)).getD (significant 17 q)

/-- How digits become text: first digits of the exponents from `least` up to but not including
`limit` are written positionally; `wholeMark` follows a whole number. -/
structure Layout where
  least : Int
  limit : Int
  wholeMark : String
  nan : String
  infinity : String

namespace Layout

def exponentText (e : Int) : String :=
  let digits := decimalDigits e.natAbs
  (if e < 0 then "e-" else "e+") ++ (if digits.length < 2 then "0" else "") ++ String.ofList digits

def write (l : Layout) (s : Scaled) : String :=
  let figures := s.figures
  let leading := s.leading
  if l.least ≤ leading && leading < l.limit then
    if leading < 0 then
      "0." ++ String.ofList (List.replicate (-leading - 1).toNat '0' ++ figures)
    else
      let whole := leading.toNat + 1
      if figures.length ≤ whole then
        String.ofList (figures ++ List.replicate (whole - figures.length) '0') ++ l.wholeMark
      else
        String.ofList (figures.take whole) ++ "." ++ String.ofList (figures.drop whole)
  else
    String.ofList (figures.take 1)
      ++ (if figures.length ≤ 1 then "" else "." ++ String.ofList (figures.drop 1))
      ++ exponentText leading

def writeNumber (l : Layout) (choose : Rat → Scaled) : Binary64 → String
  | .nan => l.nan
  | .infinity negative => (if negative then "-" else "") ++ l.infinity
  | .negativeZero => "-0" ++ l.wholeMark
  | .finite q =>
    if q = 0 then "0" ++ l.wholeMark
    else if q < 0 then "-" ++ l.write (choose (-q))
    else l.write (choose q)

end Layout

-- Data and display: positional from 10^-4 up to 10^16, and a whole number keeps `.0`.
def Layout.data : Layout := ⟨-4, 16, ".0", "nan", "inf"⟩

-- JSON text differs from display in the names of the numbers that are not finite.
def Layout.json : Layout := { Layout.data with nan := "NaN", infinity := "Infinity" }

def Layout.brief : Layout := ⟨-4, 6, "", "nan", "inf"⟩

namespace Binary64

def text (x : Binary64) : String := Layout.data.writeNumber shortest x

def jsonText (x : Binary64) : String := Layout.json.writeNumber shortest x

def briefText (x : Binary64) : String := Layout.brief.writeNumber (significant 6) x

-- Exactly `places` digits after the point.
def fixedText (x : Binary64) (places : Nat) : String :=
  match x with
  | .nan => "nan"
  | .infinity negative => if negative then "-inf" else "inf"
  | x =>
    let q := x.toRat?.getD 0
    let scaled := (roundHalfEven (q * (10 : Rat) ^ places)).natAbs
    let digits := decimalDigits scaled
    let padded := List.replicate (places + 1 - digits.length) '0' ++ digits
    let whole := padded.length - places
    (if x.isNegative then "-" else "") ++ String.ofList (padded.take whole)
      ++ (if places = 0 then "" else "." ++ String.ofList (padded.drop whole))

end Binary64

end PromptStudio
