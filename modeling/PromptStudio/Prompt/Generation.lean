import PromptStudio.Prompt.Instructions
import PromptStudio.Reply.Decode
import PromptStudio.Spec.Basic

set_option autoImplicit false

/-!
# The generation prompt

A spec becomes a request for a prompt, and the reply a finished prompt. A reply that is not the
expected object is taken as the prompt itself.
-/

namespace PromptStudio

def generationPersona : String :=
  "You are an expert prompt engineer. Your job is to create comprehensive, high-quality " ++
    "prompts that any LLM can execute effectively. Always return valid JSON."

def generationTask : String :=
  "## Your Task
Generate an expanded prompt that:
1. Addresses the primary goal directly and specifically
2. Is perfectly tailored to the target audience
3. Follows the specified tone and format throughout
4. Includes all required content elements
5. Is immediately usable - no placeholders unless specifically requested

The prompt should be comprehensive enough that any capable LLM can execute it without additional context.

Return a JSON object with:
\x7b
  \"expanded_prompt\": \"The complete, ready-to-use prompt text\",
  \"structure_summary\": \"Brief description of how the prompt is organized\",
  \"key_elements\": [\"Array\", \"of\", \"key\", \"elements\", \"included\"]
\x7d

Return ONLY valid JSON, no markdown formatting."

def bulleted (items : List String) : String :=
  String.intercalate "\n" (items.map ("- " ++ ·))

def orElse (text fallback : String) : String := if text == "" then fallback else text

namespace PromptSpec

def toneAndStyle (s : PromptSpec) : String :=
  "## Tone & Style\n- Tone: " ++ Section.textOr s.inferred "tone" "professional" ++
    "\n- Format: " ++ Section.textOr s.inferred "format" "paragraph" ++
    "\n- Length: " ++ Section.textOr s.constraints "length" "medium"

def contentRequirements (s : PromptSpec) : String :=
  let must := Section.texts s.quality "must_include"
  let avoid := Section.texts s.quality "anti_patterns"
  let parts :=
    (if must.isEmpty then [] else ["Must include:\n" ++ bulleted must]) ++
      (if avoid.isEmpty then [] else ["Must avoid:\n" ++ bulleted avoid])
  if parts.isEmpty then ""
  else "## Content Requirements\n" ++ String.intercalate "\n\n" parts

def audiencePart (s : PromptSpec) : String :=
  "## Target Audience\n- Primary: " ++ Section.textOr s.audience "primary" "General audience" ++
    "\n- Expertise Level: " ++ Section.textOr s.audience "expertise_level" "general" ++
    "\n- Expectations: " ++
    orElse (String.intercalate ", " (Section.texts s.audience "expectations"))
      "Clear, useful output"

def criteriaPart (s : PromptSpec) : String :=
  "## Success Criteria\n" ++ orElse (bulleted (Section.texts s.intent "success_criteria"))
    "- Meets the stated goal effectively"

def ownInstructions (s : PromptSpec) : Outcome String :=
  instructions s.outputType (.obj s.typeSpecific)

-- The sections of the prompt; those without text are left out.
def generationPrompt (s : PromptSpec) : Outcome String := do
  let own ← s.ownInstructions
  let sections :=
    ["You are generating a high-quality, ready-to-use prompt based on a detailed specification.",
      "## Primary Goal\n" ++ Section.text s.intent "primary_goal", s.criteriaPart, s.audiencePart,
      s.toneAndStyle, s.contentRequirements, own, generationTask]
  return String.intercalate "\n\n" (sections.filter (· != ""))

end PromptSpec

/-- A finished prompt. -/
structure Generation where
  expandedPrompt : String
  structureSummary : String := ""
  keyElements : List String := []
  deriving DecidableEq, Inhabited

namespace Generation

def toJson (g : Generation) : Json :=
  .obj [("expanded_prompt", .str g.expandedPrompt),
    ("structure_summary", .str g.structureSummary), ("key_elements", Json.texts g.keyElements)]

def shown (v : Json) : String := if v.truthy then v.display else ""

def ofFields (fields : Section) : Outcome Generation := do
  let keyElements := Section.value fields "key_elements"
  let elements ← if keyElements.truthy then keyElements.elements else .ok []
  return ⟨(Section.value fields "expanded_prompt").display,
    shown (Section.value fields "structure_summary"), elements.map Json.display⟩

def verbatim : Json → Generation
  | .str s => { expandedPrompt := s }
  | v => { expandedPrompt := v.write .exchange }

def ofReply (reply : Json) : Outcome Generation :=
  match decodeReply reply with
  | .ok (.obj fields) =>
    if Section.flag fields "expanded_prompt" then ofFields fields else .ok (verbatim reply)
  | .ok _ => .ok (verbatim reply)
  | .error (.model _) => .ok (verbatim reply)
  | .error failure => .error failure

end Generation

end PromptStudio
