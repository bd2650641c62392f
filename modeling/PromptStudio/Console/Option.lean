import PromptStudio.Entries
import PromptStudio.Text.Digit
import PromptStudio.Text.Quoted

set_option autoImplicit false

/-!
# Options on a command line

A word of a command line is an option, a plain word, or the separator after which every word is
plain. An option may be cut short as long as only one option begins that way, and may carry its
value in the same word.
-/

namespace PromptStudio

/-- Why a command line is not carried out. -/
inductive Halt where
  | help
  | refused (message : String)
  deriving DecidableEq, Inhabited

structure CommandOption where
  names : List String
  takesWord : Bool := true
  choices : List String := []
  deriving DecidableEq, Inhabited

namespace CommandOption

def helpOption : CommandOption := { names := ["-h", "--help"], takesWord := false }

def key (o : CommandOption) : String := o.names.headD ""

def refusal (o : CommandOption) (program reason : String) : Halt :=
  .refused (program ++ ": error: argument " ++ String.intercalate "/" o.names ++ ": " ++ reason)

end CommandOption

def invalidChoice (word : String) (choices : List String) : String :=
  "invalid choice: " ++ quoted word ++ " (choose from " ++
    String.intercalate ", " (choices.map quoted) ++ ")"

/-- What a word of a command line is; `marked` if an `=` stands before the value of an option. -/
inductive CommandWord where
  | plain (word : String)
  | separator
  | option (o : CommandOption) (name : String) (marked : Bool) (value : Option String)
  | unknown (word : String)
  deriving DecidableEq, Inhabited

-- The part before the first `=` and the part after it.
def splitValue : List Char → List Char × Option (List Char)
  | [] => ([], none)
  | '=' :: rest => ([], some rest)
  | c :: rest => (c :: (splitValue rest).1, (splitValue rest).2)

def isNegativeNumber (word : List Char) : Bool :=
  let isDigit (c : Char) : Bool := (digitValue? c).isSome
  match word with
  | '-' :: rest =>
    let rest := if rest.getLast? == some '\n' then rest.dropLast else rest
    match rest.dropWhile isDigit with
    | [] => !rest.isEmpty
    | '.' :: places => !places.isEmpty && places.all isDigit
    | _ => false
  | _ => false

namespace CommandOption

def withName? (options : List CommandOption) (name : String) : Option CommandOption :=
  options.find? fun o => o.names.contains name

/-- An option as it is found in a word. -/
structure Reading where
  option : CommandOption
  name : String
  marked : Bool := false
  value : Option String := none
  deriving DecidableEq, Inhabited

def Reading.word (r : Reading) : CommandWord := .option r.option r.name r.marked r.value

-- The options that a word may stand for: long ones by their beginning, short ones by a letter.
def meant (options : List CommandOption) (word : List Char) : List Reading :=
  match word with
  | '-' :: '-' :: _ =>
    let (stem, value) := splitValue word
    options.flatMap fun o =>
      (o.names.filter fun name => stem.isPrefixOf name.toList).map fun name =>
        ⟨o, name, value.isSome, value.map String.ofList⟩
  | '-' :: letter :: rest =>
    let name := String.ofList ['-', letter]
    (withName? options name).toList.map fun o => ⟨o, name, false, some (String.ofList rest)⟩
  | _ => []

-- The option whose full name stands in a word, alone or before an `=`.
def written? (options : List CommandOption) (word : String) : Option Reading :=
  match withName? options word with
  | some o => some { option := o, name := word }
  | none =>
    let (stem, value) := splitValue word.toList
    let name := String.ofList stem
    match value, withName? options name with
    | some value, some o => some ⟨o, name, true, some (String.ofList value)⟩
    | _, _ => none

def ambiguous (program word : String) (names : List String) : Halt :=
  .refused (program ++ ": error: ambiguous option: " ++ word ++ " could match " ++
    String.intercalate ", " names)

def classify (options : List CommandOption) (program word : String) : Except Halt CommandWord :=
  match word.toList, written? options word, meant options word.toList with
  | '-' :: _ :: _, some reading, _ => .ok reading.word
  | '-' :: _ :: _, none, [reading] => .ok reading.word
  | '-' :: _ :: _, none, [] =>
    if isNegativeNumber word.toList || word.toList.contains ' ' then .ok (.plain word)
    else .ok (.unknown word)
  | '-' :: _ :: _, none, readings =>
    .error (ambiguous program word (readings.map Reading.name))
  | _, _, _ => .ok (.plain word)

def classifyAll (options : List CommandOption) (program : String) :
    List String → Except Halt (List CommandWord)
  | [] => .ok []
  | "--" :: rest => .ok (.separator :: rest.map .plain)
  | word :: rest => do
    let first ← classify options program word
    return first :: (← classifyAll options program rest)

/-- What stands in one word: options without a value, one that may take a value, and letters that
name no option. -/
structure Bundle where
  flags : List CommandOption := []
  last : Option (CommandOption × Option String) := none
  leftOver : List String := []
  deriving DecidableEq, Inhabited

def ignored (o : CommandOption) (program : String) (value : List Char) : Halt :=
  o.refusal program ("ignored explicit argument " ++ quoted (String.ofList value))

def Bundle.withFlag (b : Bundle) (o : CommandOption) : Bundle := { b with flags := o :: b.flags }

-- Short options in one word; `marked` if an `=` stands before what is left of it.
def bundled (options : List CommandOption) (program : String) (o : CommandOption) (marked : Bool) :
    List Char → Except Halt Bundle
  | [] => if o.takesWord then .ok { last := some (o, some "") } else .error (ignored o program [])
  | letter :: rest =>
    if o.takesWord then .ok { last := some (o, some (String.ofList (letter :: rest))) }
    else if marked || letter == '-' then .error (ignored o program (letter :: rest))
    else
      match withName? options (String.ofList ['-', letter]), rest with
      | none, _ => .ok { flags := [o], leftOver := [String.ofList ('-' :: letter :: rest)] }
      | some next, [] => .ok { flags := [o], last := some (next, none) }
      | some next, '=' :: value =>
        (bundled options program next true value).map fun b => b.withFlag o
      | some next, rest => (bundled options program next false rest).map fun b => b.withFlag o

def unpack (options : List CommandOption) (program : String) (o : CommandOption) (name : String)
    (marked : Bool) : (value : Option String) → Except Halt Bundle
  | none => .ok { last := some (o, none) }
  | some value =>
    if o.takesWord then .ok { last := some (o, some value) }
    else if "--".toList.isPrefixOf name.toList then .error (ignored o program value.toList)
    else bundled options program o marked value.toList

end CommandOption

end PromptStudio
