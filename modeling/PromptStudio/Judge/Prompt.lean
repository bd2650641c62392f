import PromptStudio.Control.Catalog
import PromptStudio.Gateway.Attachment
import PromptStudio.Judge.Persona
import PromptStudio.Judge.Rubric
import PromptStudio.Text.Blank
import PromptStudio.Text.Case

set_option autoImplicit false

/-!
# The judge's prompt

A judge sees the request, the blueprint, the output, and examples that people have scored, lowest
score first.
-/

namespace PromptStudio

def judgeSystem (persona : String) (rubric : Rubric) : String :=
  persona ++ "\n\n" ++ rubric.paragraph

/-- An example scored by people. -/
structure Baseline where
  score : Binary64
  label : String := ""
  content : String := ""
  contentType : String := "text"
  fileUrl : Option String := none
  measured : score.Between 0 10
  deriving DecidableEq

namespace Baseline

def read : Reader Baseline :=
  Reader.record "BaselineExample" fun fields =>
    (fun (score : {x : Binary64 // x.Between 0 10}) label content contentType fileUrl =>
        Baseline.mk score label content contentType fileUrl score.property)
      <$> Reader.needed fields "score" (Reader.numberWithin 0 10)
      <*> Reader.withDefault fields "label" "" Reader.text
      <*> Reader.withDefault fields "content" "" Reader.text
      <*> Reader.withDefault fields "content_type" "text" Reader.text
      <*> Reader.withDefault fields "file_url" none (Reader.optional Reader.text)

-- Lowest score first; equal scores keep their order.
def ranked (given : List Baseline) : List Baseline :=
  given.mergeSort fun a b => !b.score.below a.score

def file? (b : Baseline) : Option String :=
  match b.fileUrl with
  | some url => if url == "" then none else some url
  | none => none

def lines (position : Nat) (b : Baseline) : List String :=
  ["### Example " ++ toString position ++ ": " ++ (if b.label == "" then "Baseline" else b.label) ++
    " (score: " ++ b.score.briefText ++ "/10)"] ++
  (if b.content != "" then [b.content]
    else (b.file?.map fun url => "[Attached file: " ++ url ++ "]").toList) ++
  [""]

def linesFrom (position : Nat) : List Baseline → List String
  | [] => []
  | b :: rest => b.lines position ++ linesFrom (position + 1) rest

def calibration (baselines : List Baseline) : String :=
  if baselines.isEmpty then ""
  else
    String.ofList (dropEnd isBlank (String.intercalate "\n"
      ("## Calibration Examples (human-scored, lowest to highest):" ::
        linesFrom 1 (ranked baselines))).toList)

def kinds : List (String × String) :=
  [("image", "image/png"), ("text", "text/plain"), ("pdf", "application/pdf")]

-- A kind without a slash is short for a content type.
def fullType (contentType : String) : String :=
  if contentType.toList.contains '/' then contentType
  else (kinds.lookup contentType).getD "text/plain"

def attachment? (b : Baseline) : Option Attachment :=
  b.file?.map fun url => ⟨url, fullType b.contentType, b.label⟩

def attachments (baselines : List Baseline) : List Attachment :=
  (ranked baselines).filterMap attachment?

end Baseline

/-- What is judged. -/
structure Exhibit where
  request : String
  outputType : Control
  tone : Control
  length : Control
  format : Control
  blueprint : String
  output : String
  baselines : List Baseline := []
  deriving Inhabited

def Exhibit.prompt (e : Exhibit) : String :=
  let calibration := Baseline.calibration e.baselines
  String.intercalate "\n\n" (
    ["## Original User Request:\n" ++ e.request,
      "## Output Type: " ++ e.outputType.label ++ " (" ++ e.outputType.detail ++ ")\n" ++
        "## Tone: " ++ e.tone.label ++ " | Length: " ++ e.length.label ++
        " | Format: " ++ e.format.label,
      "## Blueprint (Expanded Prompt):\n" ++ e.blueprint,
      "## Generated Output:\n" ++ e.output] ++
    (if calibration == "" then [] else [calibration]) ++
    ["## Task:\n" ++
      "Evaluate the quality of the Generated Output for this specific output type. " ++
      "Consider whether it follows the Blueprint, effectively addresses the Original User " ++
      "Request, and provides genuine value as a " ++ lower e.outputType.label ++
      ". Return your evaluation as JSON."])

end PromptStudio
