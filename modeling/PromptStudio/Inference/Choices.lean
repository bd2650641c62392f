import PromptStudio.Form.Mapping
import PromptStudio.Inference.Brief

set_option autoImplicit false

/-!
# Chosen and inferred settings

What a caller chose wins over what was inferred. A report tells the model which settings were not
chosen by anyone.
-/

namespace PromptStudio

/-- Values with where each came from. -/
structure Choices where
  values : Entries Json
  sources : Entries Source
  deriving Inhabited

namespace Choices

def ofInferred (inferred : Entries Json) : Choices :=
  ⟨inferred, inferred.map fun entry => (entry.1, .inferred)⟩

-- Null and empty text choose nothing.
def isChoice : Json → Bool
  | .null => false
  | .str s => s != ""
  | _ => true

def choose (s : Choices) (entry : String × Json) : Choices :=
  if isChoice entry.2 then
    ⟨Entries.put s.values entry.1 entry.2, Entries.put s.sources entry.1 .explicit⟩
  else s

def merge (explicit inferred : Entries Json) : Choices :=
  explicit.foldl choose (ofInferred inferred)

end Choices

def Choices.ofJson (explicit inferred : Json) : Outcome Choices := do
  let inferred ← inferred.asMapping
  return merge (← explicit.entriesFor "items") inferred

def percentOf : Json → Outcome Int
  | .int n => .ok (n * 100)
  | .bool b => .ok (if b then 100 else 0)
  | .float x =>
    match x.mul (.finite 100) with
    | .nan => .error (.badValue "cannot convert float NaN to integer")
    | .infinity _ => .error (.tooLarge "cannot convert float infinity to integer")
    | scaled => .ok (roundHalfEven (scaled.toRat?.getD 0))
  | _ => .error (.wrongType "value does not define a rounding")

def certainty (confidence : Entries Json) (key : String) : Outcome String :=
  match Entries.get? confidence key with
  | none => .ok ""
  | some v =>
    if v.truthy then do return " (" ++ intText (← percentOf v) ++ "% confidence)" else .ok ""

def reportLine (confidence : Entries Json) (key : String) : Outcome String := do
  return "  - " ++ key ++ ": auto-detected" ++ (← certainty confidence key)

-- The note on settings that were inferred; empty when there are none.
def inferenceReport (sources confidence : Json) : Outcome String := do
  let inferred := (← sources.ownEntries "items").filter fun (_, v) =>
    v.asText? == some Source.inferred.name
  if inferred.isEmpty then return ""
  let confidence ← confidence.entriesFor "get"
  let lines ← inferred.mapM fun entry => reportLine confidence entry.1
  return "\n[AUTO-DETECTED SETTINGS - override these by making UI selections]\n" ++
    String.intercalate "\n" lines

end PromptStudio
