import PromptStudio.Inference.Signals
import PromptStudio.Number.Binary64
import PromptStudio.Spec.Sections
import PromptStudio.Text.Case

set_option autoImplicit false

/-!
# What a brief reveals

Each signal takes the value of its best row. A row scores for how early its first phrase stands and
for how often its phrases occur; of equal scores the earlier row wins.
-/

namespace PromptStudio

/-- A value read off a brief, and how sure it is, at most 1. -/
structure Finding where
  value : String
  score : Binary64
  deriving DecidableEq, Inhabited

namespace Finding

def confidence (f : Finding) : Binary64 :=
  if f.score.below (.finite 1) then f.score else .finite 1

end Finding

def occurrenceWorth : Binary64 := .ofRat (1 / 5)

def earliness (position length : Nat) : Binary64 :=
  Binary64.add (.finite 1) (Binary64.ofRat ((position : Rat) / (length : Rat))).neg

def Row.score? (row : Row) (text : List Char) : Option Binary64 :=
  match Phrase.occurrences row.phrases text with
  | [] => none
  | first :: more =>
    some ((earliness first text.length).add
      (occurrenceWorth.mul (Binary64.ofRat ((more.length + 1 : Nat) : Rat))))

namespace Signal

def improve (text : List Char) (best : Option Finding) (row : Row) : Option Finding :=
  match row.score? text with
  | none => best
  | some score =>
    let beaten := (best.map Finding.score).getD (.finite 0)
    if beaten.below score then some ⟨row.value, score⟩ else best

def best? (s : Signal) (text : List Char) : Option Finding := s.rows.foldl (improve text) none

end Signal

def findings (brief : String) : Entries Finding :=
  let text := lowerChars brief.toList
  signals.filterMap fun s => (s.best? text).map fun found => (s.name, found)

inductive Source where
  | explicit
  | inferred
  | default
  deriving DecidableEq, Inhabited

def Source.name : Source → String
  | .explicit => "explicit"
  | .inferred => "inferred"
  | .default => "default"

-- The output type that a caller chose, that a brief reveals, or that is taken without either.
def outputTypeFor (explicit : Option String) (found : Entries Finding) : String × Source :=
  match explicit with
  | some chosen => if chosen == "" then revealed else (chosen, .explicit)
  | none => revealed
where
  revealed : String × Source :=
    match Entries.get? found "output_type" with
    | some f => (f.value, .inferred)
    | none => ("doc", .default)

def OutputType.revealedSettings : OutputType → List String
  | .deck => ["deck_type"]
  | .data => ["data_type"]
  | .code => ["code_type"]
  | .copy => ["copy_type", "emotional_appeal", "cta_type"]
  | .comms => ["comms_type"]
  | .doc => []

def revealedSettings (outputType : String) : List String :=
  ((OutputType.ofName? outputType).map OutputType.revealedSettings).getD []

end PromptStudio
