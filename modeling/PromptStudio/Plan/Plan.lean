import PromptStudio.Control.Catalog
import PromptStudio.Inference.Choices
import PromptStudio.Plan.Request
import PromptStudio.Plan.Standard

set_option autoImplicit false

/-!
# Prompt plans

A plan is the pair of prompts that an entry of the registry gives for a request. With inference,
settings that were not chosen are read off the brief first and noted in the system prompt.
-/

namespace PromptStudio

/-- What was read off a brief, and how sure it is. -/
structure InferenceSummary where
  outputType : String
  outputTypeSource : Source
  choices : Choices
  confidence : Entries Binary64
  deriving Inhabited

def sourcesJson (sources : Entries Source) : Json :=
  .obj (sources.map fun (key, s) => (key, .str s.name))

def confidenceJson (confidence : Entries Binary64) : Json :=
  .obj (confidence.map fun (key, x) => (key, .float x))

def InferenceSummary.toJson (s : InferenceSummary) : Json :=
  .obj [("output_type", .str s.outputType), ("output_type_source", .str s.outputTypeSource.name),
    ("values", .obj s.choices.values), ("sources", sourcesJson s.choices.sources),
    ("confidence", confidenceJson s.confidence)]

structure Plan where
  specId : String
  specVersion : Int
  systemPrompt : String
  userPrompt : String
  trace : List Trace
  context : Entries Json
  inference : Option InferenceSummary := none
  deriving Inhabited

def Plan.toJson (p : Plan) : Json :=
  .obj [("spec_id", .str p.specId), ("spec_version", .int p.specVersion),
    ("system_prompt", .str p.systemPrompt), ("user_prompt", .str p.userPrompt),
    ("step_trace", .arr (p.trace.map Trace.toJson)), ("context_snapshot", .obj p.context),
    ("inference", Json.ofOption InferenceSummary.toJson p.inference)]

def Toggles.label (on : Bool) : String := if on then "ENABLED" else "DISABLED"

def Toggles.context (t : Toggles) : Json :=
  .obj [("allowPlaceholders", .bool t.allowPlaceholders), ("stripMeta", .bool t.stripMeta),
    ("aestheticMode", .bool t.aestheticMode),
    ("allowPlaceholdersLabel", .str (Toggles.label t.allowPlaceholders)),
    ("stripMetaLabel", .str (Toggles.label t.stripMeta)),
    ("aestheticModeLabel", .str (Toggles.label t.aestheticMode))]

namespace PlanRequest

def context (r : PlanRequest) (spec : RegistrySpec) : Entries Json :=
  [("userInput", .str (trim r.userInput)), ("notes", .str (trim r.notes)),
    ("tone", .obj (r.tone.getD [])), ("output", .obj (r.outputType.getD [])),
    ("format", .obj (r.format.getD [])), ("length", .obj (r.length.getD [])),
    ("contextConstraints", .str (trim r.contextConstraints)),
    ("typeSpecific", .obj r.typeSpecific), ("toggles", r.toggles.context),
    ("spec", .obj (withListTexts spec.metadata))]

def planFrom (r : PlanRequest) (spec : RegistrySpec) : Plan :=
  let context := r.context spec
  let datum := some (Datum.plain (.obj context))
  let user := Blocks.text spec.userSteps datum
  { specId := spec.id
    specVersion := if spec.version = 0 then 1 else spec.version
    systemPrompt := Blocks.text spec.systemSteps datum
    userPrompt := if user == "" then trim r.userInput else user
    trace := Blocks.trace spec.systemSteps datum ++ Blocks.trace spec.userSteps datum
    context := context }

def plan (r : PlanRequest) (standard given : Registry) : Outcome Plan := do
  return r.planFrom (← Registry.resolve standard given r.specId)

def usable (outputType : String) (found : Entries Finding) : Entries Finding :=
  found.filter fun entry => (revealedSettings outputType).contains entry.1

-- Output type and settings of a request, explicit ones first.
def inferred (r : PlanRequest) : InferenceSummary :=
  let found := findings r.userInput
  let (outputType, source) := outputTypeFor r.specId found
  let used := usable outputType found
  let confidence := used.map fun entry => (entry.1, entry.2.confidence)
  { outputType := outputType
    outputTypeSource := source
    choices := Choices.merge r.typeSpecific (used.map fun entry => (entry.1, .str entry.2.value))
    confidence :=
      if source = .inferred then
        Entries.put confidence "output_type"
          (((Entries.get? found "output_type").map Finding.confidence).getD (.finite 0))
      else confidence }

def completed (r : PlanRequest) (s : InferenceSummary) : Outcome PlanRequest := do
  let control ← standardControls.find .outputType (some s.outputType)
  return { r with
    specId := some s.outputType
    typeSpecific := s.choices.values
    outputType := some (r.outputType.getD (control.toFields .outputType)) }

end PlanRequest

-- The sources that the note lists; a setting named `output_type` hides the output type.
def InferenceSummary.noted (s : InferenceSummary) : Entries Source :=
  if s.outputTypeSource = .inferred then
    Entries.overlay [("output_type", .inferred)] s.choices.sources
  else s.choices.sources

def InferenceSummary.note (s : InferenceSummary) : Outcome String :=
  inferenceReport (sourcesJson s.noted) (confidenceJson s.confidence)

def withNote (prompt note : String) : String :=
  if note == "" then prompt
  else if prompt == "" then String.ofList (note.toList.dropWhile (· == '\n'))
  else prompt ++ "\n" ++ note

def PlanRequest.planWithInference (r : PlanRequest) (standard given : Registry) :
    Outcome Plan := do
  let summary := r.inferred
  let plan ← (← r.completed summary).plan standard given
  let note ← if r.toggles.stripMeta then .ok "" else summary.note
  return { plan with
    systemPrompt := withNote plan.systemPrompt note
    inference := some summary }

def architectContract : String := "CRITICAL JSON RESPONSE CONTRACT:
You MUST return a complete JSON object with ALL THREE sections below.

REQUIRED STRUCTURE:
\x7b
  \"analysis\": \x7b
    \"detected_domain\": string,
    \"input_quality_score\": integer,
    \"is_vague_or_short\": boolean
  \x7d,
  \"reverse_prompting\": \x7b
    \"was_triggered\": boolean,
    \"refined_task_text\": string,
    \"reasoning\": string
  \x7d,
  \"final_output\": \x7b
    \"expanded_prompt_text\": string,
    \"enrichment_attributes_used\": string[]
  \x7d
\x7d

CRITICAL: The \"expanded_prompt_text\" field must contain the final expanded prompt. This field cannot be empty."

def withContract (systemPrompt : String) : String :=
  if systemPrompt == "" then architectContract
  else systemPrompt ++ "\n\n" ++ architectContract

end PromptStudio
