import PromptStudio.Form.Checked
import PromptStudio.Json.Basic
import PromptStudio.Moment

set_option autoImplicit false

/-!
# Reading form fields

Readers are lenient: a number may be given as text, a truth value as a word. A record reads the
names it knows, reports every problem, and ignores other names.
-/

namespace PromptStudio

abbrev Reader (α : Type) := Json → Checked α

namespace Reader

variable {α β : Type}

def text : Reader String
  | .str s => .ok s
  | _ => .wrong "Input should be a valid string"

-- Beyond this size a number read from a double is refused.
def wordLimit : Int := 9223372036854775808

def integerOfNumber (x : Binary64) : Checked Int :=
  match x.toRat? with
  | none => .wrong "Input should be a finite number"
  | some q =>
    if q.den ≠ 1 then
      .wrong "Input should be a valid integer, got a number with a fractional part"
    else if -wordLimit < q.num && q.num < wordLimit then .ok q.num
    else .wrong "Unable to parse input string as an integer, exceeded maximum size"

def integer : Reader Int
  | .int n => .ok n
  | .bool b => .ok (if b then 1 else 0)
  | .float x => integerOfNumber x
  | .str s =>
    match fieldInteger s.toList with
    | .value n => .ok n
    | .tooLong => .wrong "Unable to parse input string as an integer, exceeded maximum size"
    | .malformed => .wrong "Input should be a valid integer, unable to parse string as an integer"
  | _ => .wrong "Input should be a valid integer"

def booleanWords : List (String × Bool) :=
  [("0", false), ("off", false), ("f", false), ("false", false), ("n", false), ("no", false),
    ("1", true), ("on", true), ("t", true), ("true", true), ("y", true), ("yes", true)]

def booleanOfInt (n : Int) : Checked Bool :=
  if n = 0 then .ok false
  else if n = 1 then .ok true
  else .wrong "Input should be a valid boolean, unable to interpret input"

def boolean : Reader Bool
  | .bool b => .ok b
  | .str s =>
    match booleanWords.lookup (String.ofList (s.toList.map Char.toLower)) with
    | some b => .ok b
    | none => .wrong "Input should be a valid boolean, unable to interpret input"
  | .int n =>
    if -wordLimit ≤ n && n < wordLimit then booleanOfInt n
    else .wrong "Input should be a valid boolean"
  | .float x =>
    match integerOfNumber x with
    | .ok n => booleanOfInt n
    | _ => .wrong "Input should be a valid boolean"
  | _ => .wrong "Input should be a valid boolean"

def number : Reader Binary64
  | .float x => .ok x
  | .bool b => .ok (.finite (if b then 1 else 0))
  | .int n =>
    match Binary64.ofInt? n with
    | some x => .ok x
    | none => .wrong "Input should be a valid number"
  | .str s =>
    match fieldNumber? s.toList with
    | some x => .ok x
    | none => .wrong "Input should be a valid number, unable to parse string as a number"
  | _ => .wrong "Input should be a valid number"

-- The upper bound is checked first, and `nan` does not pass it.
def numberWithin (least most : Nat) : Reader {x : Binary64 // x.Between least most} := fun v =>
  match number v with
  | .ok x =>
    if high : x.atMost (.finite (most : Rat)) = true then
      if low : (Binary64.finite (least : Rat)).atMost x = true then .ok ⟨x, low, high⟩
      else .wrong ("Input should be greater than or equal to " ++ toString least)
    else .wrong ("Input should be less than or equal to " ++ toString most)
  | .bad problems => .bad problems
  | .stop failure => .stop failure

def anything : Reader Json := .ok

def moment : Reader Moment
  | .str s =>
    match Moment.ofText s.toList with
    | .ok m => .ok m
    | .error reason => .wrong ("Input should be a valid datetime or date, " ++ reason.message)
  | .int n =>
    match Moment.ofSeconds n 0 with
    | .ok m => .ok m
    | .error reason => .wrong ("Input should be a valid datetime, " ++ reason.message)
  | .float x =>
    match Moment.ofNumber x with
    | .ok m => .ok m
    | .error reason => .wrong ("Input should be a valid datetime, " ++ reason.message)
  | _ => .wrong "Input should be a valid datetime"

-- `'a', 'b' or 'c'`.
def choicesText : List String → String
  | [] => ""
  | [a] => "'" ++ a ++ "'"
  | [a, b] => "'" ++ a ++ "' or '" ++ b ++ "'"
  | a :: rest => "'" ++ a ++ "', " ++ choicesText rest

def choice (choices : List (String × α)) : Reader α
  | .str s =>
    match choices.lookup s with
    | some a => .ok a
    | none => .wrong ("Input should be " ++ choicesText (choices.map (·.1)))
  | _ => .wrong ("Input should be " ++ choicesText (choices.map (·.1)))

def optional (read : Reader α) : Reader (Option α)
  | .null => .ok none
  | v => (read v).map some

def listOf (read : Reader α) : Reader (List α)
  | .arr items => Checked.items read 0 items
  | _ => .wrong "Input should be a valid list"

def tupleOf (read : Reader α) : Reader (List α)
  | .arr items => Checked.items read 0 items
  | _ => .wrong "Input should be a valid tuple"

def mapOf (read : Reader α) : Reader (Entries α)
  | .obj fields => Checked.entries read fields
  | _ => .wrong "Input should be a valid dictionary"

-- A named record, read from the fields of an object.
def record (name : String) (read : Entries Json → Checked α) : Reader α
  | .obj fields => read fields
  | _ => .wrong ("Input should be a valid dictionary or instance of " ++ name)

def needed (fields : Entries Json) (key : String) (read : Reader α) : Checked α :=
  match Entries.get? fields key with
  | some v => (read v).under key
  | none => .bad [⟨[key], "Field required"⟩]

def withDefault (fields : Entries Json) (key : String) (whenAbsent : α) (read : Reader α) :
    Checked α :=
  match Entries.get? fields key with
  | some v => (read v).under key
  | none => .ok whenAbsent

end Reader

end PromptStudio
