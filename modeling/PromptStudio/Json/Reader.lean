import PromptStudio.Json.Basic
import PromptStudio.Text.Numeral

set_option autoImplicit false

/-!
# Reading JSON text

`Json.read?` accepts one value with white space around it. A repeated name keeps its first place
and its last value, and an integer may have at most 4300 digits.
-/

namespace PromptStudio

namespace Json

def isGap (c : Char) : Bool := c == ' ' || c == '\t' || c == '\n' || c == '\r'

def skipGap (text : List Char) : List Char := text.dropWhile isGap

def hexValue? (c : Char) : Option Nat :=
  if c.isDigit then some (c.toNat - 48)
  else if 'a' ≤ c && c ≤ 'f' then some (c.toNat - 87)
  else if 'A' ≤ c && c ≤ 'F' then some (c.toNat - 55)
  else none

def readUnit? : List Char → Option (Nat × List Char)
  | a :: b :: c :: d :: rest => do
    let digits ← [a, b, c, d].mapM hexValue?
    some (digits.foldl (fun n digit => 16 * n + digit) 0, rest)
  | _ => none

def isHighUnit (n : Nat) : Bool := 0xD800 ≤ n && n < 0xDC00

def isLowUnit (n : Nat) : Bool := 0xDC00 ≤ n && n < 0xE000

-- Text has no place for half a pair.
def unitChar (n : Nat) : Char :=
  if isHighUnit n || isLowUnit n then Char.ofNat 0xFFFD else Char.ofNat n

def joinUnits (high low : Nat) : Char :=
  Char.ofNat (0x10000 + (high - 0xD800) * 1024 + (low - 0xDC00))

def simpleEscape? : Char → Option Char
  | '"' => some '"'
  | '\\' => some '\\'
  | '/' => some '/'
  | 'b' => some (Char.ofNat 8)
  | 'f' => some (Char.ofNat 12)
  | 'n' => some '\n'
  | 'r' => some '\r'
  | 't' => some '\t'
  | _ => none

inductive Piece where
  | close (rest : List Char)
  | char (c : Char) (rest : List Char)

def readPiece? : List Char → Option Piece
  | [] => none
  | '"' :: rest => some (.close rest)
  | '\\' :: 'u' :: rest => do
    let (unit, rest) ← readUnit? rest
    match rest with
    | '\\' :: 'u' :: more =>
      if isHighUnit unit then
        match readUnit? more with
        | some (low, rest') =>
          if isLowUnit low then some (.char (joinUnits unit low) rest')
          else some (.char (unitChar unit) rest)
        | none => some (.char (unitChar unit) rest)
      else some (.char (unitChar unit) rest)
    | rest => some (.char (unitChar unit) rest)
  | '\\' :: c :: rest => (simpleEscape? c).map (.char · rest)
  | c :: rest => if c.toNat < 32 || c == '\\' then none else some (.char c rest)

-- Each piece is shorter than what it was read from, so the length bounds their number.
def readString? : (fuel : Nat) → List Char → Option (List Char × List Char)
  | 0, _ => none
  | fuel + 1, text =>
    match readPiece? text with
    | none => none
    | some (.close rest) => some ([], rest)
    | some (.char c rest) =>
      match readString? fuel rest with
      | some (chars, rest) => some (c :: chars, rest)
      | none => none

-- An exponent mark counts only with a digit behind it.
def readPower (text : List Char) : Option Int × List Char :=
  match text with
  | e :: rest =>
    if e == 'e' || e == 'E' then
      let (negative, body) := splitSign rest
      let digits := body.takeWhile Char.isDigit
      if digits.isEmpty then (none, text)
      else
        (some (signed negative (digitsValue (digits.filterMap asciiDigit?))),
          body.dropWhile Char.isDigit)
    else (none, text)
  | [] => (none, [])

-- A point counts only with a digit behind it.
def readFraction (text : List Char) : Option (List Char) × List Char :=
  match text with
  | '.' :: rest =>
    let digits := rest.takeWhile Char.isDigit
    if digits.isEmpty then (none, text) else (some digits, rest.dropWhile Char.isDigit)
  | _ => (none, text)

-- The whole part of a number: a lone zero, or digits that do not start with zero.
def readWhole? (text : List Char) : Option (List Char × List Char) :=
  match text with
  | '0' :: rest => some (['0'], rest)
  | _ =>
    let digits := text.takeWhile Char.isDigit
    if digits.isEmpty then none else some (digits, text.dropWhile Char.isDigit)

def readNumber? (text : List Char) : Option (Json × List Char) :=
  let (negative, body) := match text with
    | '-' :: rest => (true, rest)
    | _ => (false, text)
  match readWhole? body with
  | none => none
  | some (whole, rest) =>
    let (fraction, rest) := readFraction rest
    let (power, rest) := readPower rest
    let value (digits : List Char) : Nat := digitsValue (digits.filterMap asciiDigit?)
    match fraction, power with
    | none, none =>
      if whole.length ≤ digitLimit then some (.int (signed negative (value whole)), rest)
      else none
    | fraction, power =>
      let fraction := fraction.getD []
      some (.float (.ofDecimal negative (value (whole ++ fraction))
        (power.getD 0 - fraction.length)), rest)

def afterWord? (word : String) (text : List Char) : Option (List Char) :=
  if word.toList.isPrefixOf text then some (text.drop word.length) else none

def namedValues : List (String × Json) :=
  [("null", .null), ("true", .bool true), ("false", .bool false), ("NaN", .float .nan),
    ("Infinity", .float (.infinity false)), ("-Infinity", .float (.infinity true))]

def readNamed? (text : List Char) : Option (Json × List Char) :=
  namedValues.findSome? fun (word, value) => (afterWord? word text).map (value, ·)

-- Fuel falls at every step of the three readers; twice the length of the text is enough.
mutual

def readValue? : (fuel : Nat) → List Char → Option (Json × List Char)
  | 0, _ => none
  | fuel + 1, text =>
    match text with
    | '"' :: rest => (readString? (rest.length + 1) rest).map fun (s, rest) =>
        (.str (String.ofList s), rest)
    | '[' :: rest =>
      match skipGap rest with
      | ']' :: rest => some (.arr [], rest)
      | rest => (readItems? fuel rest).map fun (items, rest) => (.arr items, rest)
    | '{' :: rest =>
      match skipGap rest with
      | '}' :: rest => some (.obj [], rest)
      | rest => (readFields? fuel rest).map fun (fields, rest) =>
          (.obj (Entries.ofPairs fields), rest)
    | text => (readNamed? text).or (readNumber? text)

-- Items up to the closing bracket; the gap before the first is already skipped.
def readItems? : (fuel : Nat) → List Char → Option (List Json × List Char)
  | 0, _ => none
  | fuel + 1, text =>
    match readValue? fuel text with
    | none => none
    | some (item, rest) =>
      match skipGap rest with
      | ']' :: rest => some ([item], rest)
      | ',' :: rest => (readItems? fuel (skipGap rest)).map fun (items, rest) =>
          (item :: items, rest)
      | _ => none

-- Named values up to the closing brace; the gap before the first is already skipped.
def readFields? : (fuel : Nat) → List Char → Option (List (String × Json) × List Char)
  | 0, _ => none
  | fuel + 1, text =>
    match text with
    | '"' :: rest =>
      match readString? (rest.length + 1) rest with
      | none => none
      | some (key, rest) =>
        match skipGap rest with
        | ':' :: rest =>
          match readValue? fuel (skipGap rest) with
          | none => none
          | some (value, rest) =>
            let entry := (String.ofList key, value)
            match skipGap rest with
            | '}' :: rest => some ([entry], rest)
            | ',' :: rest => (readFields? fuel (skipGap rest)).map fun (fields, rest) =>
                (entry :: fields, rest)
            | _ => none
        | _ => none
    | _ => none

end

def readChars? (text : List Char) : Option Json :=
  match readValue? (2 * text.length + 2) (skipGap text) with
  | some (value, rest) => if (skipGap rest).isEmpty then some value else none
  | none => none

def read? (text : String) : Option Json := readChars? text.toList

end Json

end PromptStudio
