set_option autoImplicit false

/-!
# Binary64 numbers

A number is the exact rational it denotes, so a comparison is a comparison of rationals, and an
operation is exact arithmetic followed by one rounding to the nearest number, ties to even.
-/

namespace PromptStudio

inductive Binary64 where
  | nan
  | infinity (negative : Bool)
  | negativeZero
  | finite (value : Rat)
  deriving DecidableEq, Inhabited

-- The nearest integer; of two equally near ones the even one.
def roundHalfEven (q : Rat) : Int :=
  let below := q.floor
  let above := q - below
  if above < 1 / 2 then below
  else if 1 / 2 < above then below + 1
  else if below % 2 = 0 then below
  else below + 1

theorem roundHalfEven_intCast (n : Int) : roundHalfEven n = n := by
  have rest : ((n : Rat) - (n : Rat)) = 0 := Rat.sub_self
  have half : (0 : Rat) < 1 / 2 := by decide +kernel
  simp only [roundHalfEven, Rat.floor_intCast, rest, half, if_true]

namespace Binary64

-- The largest power of two not above a positive rational has one of two neighbouring exponents.
-- The exponent of the unit in the last of 53 places; below 2^-1022 the unit no longer shrinks.
def unitExponent (q : Rat) : Int :=
  let guess : Int := (q.num.natAbs.log2 : Int) - (q.den.log2 : Int)
  let top := if (2 : Rat) ^ guess ≤ q then guess else guess - 1
  if top - 52 < -1074 then -1074 else top - 52

-- Round the magnitude `q`, which is positive, to 53 places.
def roundMagnitude (q : Rat) : Rat :=
  let unit := (2 : Rat) ^ unitExponent q
  roundHalfEven (q / unit) * unit

def ofRat (q : Rat) : Binary64 :=
  if q = 0 then .finite 0
  else
    let magnitude := roundMagnitude (if q < 0 then -q else q)
    if (2 : Rat) ^ (1024 : Nat) ≤ magnitude then .infinity (decide (q < 0))
    else if magnitude = 0 then (if q < 0 then .negativeZero else .finite 0)
    else .finite (if q < 0 then -magnitude else magnitude)

@[simp] theorem ofRat_zero : ofRat 0 = .finite 0 := by simp [ofRat]

def toRat? : Binary64 → Option Rat
  | .nan => none
  | .infinity _ => none
  | .negativeZero => some 0
  | .finite q => some q

-- An integer whose rounded magnitude is out of range has no number.
def ofInt? (n : Int) : Option Binary64 :=
  match ofRat n with
  | .infinity _ => none
  | x => some x

def isNegative : Binary64 → Bool
  | .nan => false
  | .infinity negative => negative
  | .negativeZero => true
  | .finite q => decide (q < 0)

def neg : Binary64 → Binary64
  | .nan => .nan
  | .infinity negative => .infinity (!negative)
  | .negativeZero => .finite 0
  | .finite q => if q = 0 then .negativeZero else .finite (-q)

def add : Binary64 → Binary64 → Binary64
  | .nan, _ => .nan
  | _, .nan => .nan
  | .infinity a, .infinity b => if a = b then .infinity a else .nan
  | .infinity a, _ => .infinity a
  | _, .infinity b => .infinity b
  | .negativeZero, y => y
  | x, .negativeZero => x
  | .finite p, .finite q => ofRat (p + q)

def isZero (x : Binary64) : Bool := decide (x.toRat? = some 0)

def mul (x y : Binary64) : Binary64 :=
  let negative := x.isNegative != y.isNegative
  match x, y with
  | .nan, _ => .nan
  | _, .nan => .nan
  | .infinity _, y => if y.isZero then .nan else .infinity negative
  | x, .infinity _ => if x.isZero then .nan else .infinity negative
  | x, y =>
    let product := x.toRat?.getD 0 * y.toRat?.getD 0
    if product = 0 then (if negative then .negativeZero else .finite 0) else ofRat product

def divideBy (x : Binary64) (count : Nat) : Binary64 :=
  match x with
  | .finite q => ofRat (q / (count : Rat))
  | x => x

-- Strictly below, as exact values; nothing compares with `nan`.
def below : Binary64 → Binary64 → Bool
  | .nan, _ => false
  | _, .nan => false
  | .infinity a, .infinity b => a && !b
  | .infinity a, _ => a
  | _, .infinity b => !b
  | x, y => decide (x.toRat?.getD 0 < y.toRat?.getD 0)

-- Equal as exact values: both zeros are one value, and `nan` differs from itself.
def equals : Binary64 → Binary64 → Bool
  | .nan, _ => false
  | _, .nan => false
  | .infinity a, .infinity b => a == b
  | .infinity _, _ => false
  | _, .infinity _ => false
  | x, y => decide (x.toRat?.getD 0 = y.toRat?.getD 0)

def atMost (x y : Binary64) : Bool := x.below y || x.equals y

/-- Between two bounds, which it may reach. -/
structure Between (least most : Nat) (x : Binary64) : Prop where
  least : (finite (least : Rat)).atMost x = true
  most : x.atMost (.finite (most : Rat)) = true

def equalsInt (x : Binary64) (n : Int) : Bool := decide (x.toRat? = some (n : Rat))

-- Round to the given number of decimal places, ties to the even neighbour.
def roundPlaces (x : Binary64) (places : Nat) : Binary64 :=
  match x with
  | .finite q =>
    let unit := (10 : Rat) ^ places
    let rounded := ofRat (roundHalfEven (q * unit) / unit)
    if q < 0 && rounded.isZero then .negativeZero else rounded
  | x => x

end Binary64

end PromptStudio
