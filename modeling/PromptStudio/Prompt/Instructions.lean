import PromptStudio.Form.Mapping
import PromptStudio.Spec.Sections

set_option autoImplicit false

/-!
# Instructions for an output type

What the type's own part asks of the output, one line for each thing it sets.
-/

namespace PromptStudio

def lineWith (s : Section) (key before after : String) : List String :=
  let v := Section.value s key
  if v.truthy then [before ++ v.display ++ after] else []

def lineIf (s : Section) (key line : String) : List String :=
  if Section.flag s key then [line] else []

def shownOr (s : Section) (key fallback : String) : String :=
  let v := Section.value s key
  if v.truthy then v.display else fallback

def listLine (s : Section) (key before : String) : Outcome (List String) := do
  let v := Section.value s key
  if v.truthy then return [before ++ (← v.commaJoined)] else return []

def deckInstructions (s : Section) : List String :=
  ["For this slide deck:"] ++ lineWith s "slide_count" "- Target " " slides" ++
    lineWith s "duration_minutes" "- Designed for " " minute presentation" ++
    lineIf s "include_speaker_notes" "- Include speaker notes for each slide" ++
    lineIf s "include_visual_suggestions" "- Include visual/image suggestions for each slide" ++
    ["- Each slide should have: title, key points (3-5 bullets), visual suggestion, speaker notes"]

def codeInstructions (s : Section) : List String :=
  ["For this code output:"] ++ lineWith s "language" "- Use " "" ++
    lineWith s "framework" "- Use " " framework" ++
    lineIf s "include_tests" "- Include test cases" ++
    lineIf s "include_comments" "- Include inline comments explaining the code" ++
    ["- Error handling level: " ++ shownOr s "error_handling" "standard"]

def docInstructions (s : Section) : Outcome (List String) := do
  let sections ← listLine s "section_structure" "- Include sections: "
  return ["For this document:"] ++ lineWith s "document_type" "- Document type: " "" ++ sections ++
    lineIf s "include_executive_summary" "- Include an executive summary at the beginning" ++
    lineIf s "include_toc" "- Include a table of contents"

def dataInstructions (s : Section) : List String :=
  ["For this data output:", "- Output format: " ++ shownOr s "output_format" "table"] ++
    lineIf s "include_headers" "- Include column headers" ++
    lineIf s "include_descriptions" "- Include field descriptions"

def copyInstructions (s : Section) : List String :=
  ["For this marketing copy:"] ++ lineWith s "copy_type" "- Copy type: " "" ++
    lineWith s "emotional_appeal" "- Primary emotional appeal: " "" ++
    lineWith s "cta_type" "- Call to action: " ""

def commsInstructions (s : Section) : Outcome (List String) := do
  let items ← listLine s "action_items" "- Include action items: "
  return ["For this communication:", "- Channel: " ++ shownOr s "channel" "email",
      "- Formality: " ++ shownOr s "formality_level" "professional"] ++ items ++
    lineIf s "include_greeting" "- Include appropriate greeting" ++
    lineIf s "include_signature" "- Include signature block"

def OutputType.instructionLines : OutputType → Section → Outcome (List String)
  | .deck, s => .ok (deckInstructions s)
  | .doc, s => docInstructions s
  | .data, s => .ok (dataInstructions s)
  | .code, s => .ok (codeInstructions s)
  | .copy, s => .ok (copyInstructions s)
  | .comms, s => commsInstructions s

def instructions (outputType : Option String) (own : Json) : Outcome String :=
  match outputType.bind OutputType.ofName? with
  | none => .ok ""
  | some t => do return String.intercalate "\n" (← t.instructionLines (← own.asMapping))

end PromptStudio
