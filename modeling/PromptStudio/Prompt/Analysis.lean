import PromptStudio.Control.Catalog
import PromptStudio.Reply.Decode
import PromptStudio.Spec.Advice

set_option autoImplicit false

/-!
# Analysis of a request

A model is asked what a request is about, and its answer is merged into a fresh spec. Where the
answer leaves a gap, advice fills it.
-/

namespace PromptStudio

def analysisPersona : String :=
  "You are an expert prompt analyst. Your job is to deeply understand user requests " ++
    "and recommend optimal settings for prompt generation. Always return valid JSON."

def OutputType.hints : OutputType → String
  | .deck => "- deck_type: investor|sales|board|internal|training
   - slide_count: Recommended number of slides
   - duration_minutes: Suggested presentation length
   - include_speaker_notes: boolean
   - include_visual_suggestions: boolean"
  | .code => "- code_type: feature|bugfix|refactor|api|migration
   - language: Programming language to use
   - framework: Framework if applicable
   - include_tests: boolean
   - error_handling: minimal|standard|comprehensive"
  | .doc => "- document_type: report|proposal|guide|analysis|whitepaper|memo
   - section_structure: Array of recommended sections
   - include_executive_summary: boolean
   - include_toc: boolean"
  | .data => "- data_type: api|schema|dictionary|analytics|dashboard
   - output_format: table|json|csv|yaml
   - include_headers: boolean
   - include_descriptions: boolean"
  | .copy => "- copy_type: ad|landing|email|social|press|tagline|product
   - emotional_appeal: fear|aspiration|urgency|trust|curiosity|belonging
   - cta_type: Suggested call to action
   - word_count: Target word count"
  | .comms => "- channel: email|slack|memo|letter|sms
   - formality_level: casual|professional|formal
   - response_urgency: low|normal|high|asap
   - action_items: Array of explicit asks"

/-- A request for a prompt. -/
structure Request where
  userInput : String
  notes : String := ""
  outputType : OutputType := .doc
  deriving DecidableEq, Inhabited

namespace Request

def read : Reader Request :=
  Reader.record "PipelineInput" fun fields =>
    Request.mk
      <$> Reader.needed fields "user_input" Reader.text
      <*> Reader.withDefault fields "notes" "" Reader.text
      <*> Reader.withDefault fields "output_type" .doc (Reader.choice OutputType.named)

def analysisTask : String := "## Your Task
Analyze this request deeply and return a JSON object with:

1. **intent**: What the user really wants
   - primary_goal: The core objective (be specific)
   - success_criteria: Array of 2-3 ways to measure success
   - action_desired: What should the reader do after consuming this?
   - urgency: low|normal|high|critical

2. **audience**: Who will consume this
   - primary: Description of main audience
   - expertise_level: novice|general|expert|mixed
   - relationship: subordinate|peer|superior|customer|public
   - expectations: Array of 2-3 things they expect

3. **context**: Situational information
   - setting: Where/when this will be used
   - prior_knowledge: Array of what audience already knows

4. **recommended_settings**: Your recommendations with reasoning
   - tone: The recommended tone (professional|creative|academic|casual|instructive|persuasive|empathetic|urgent|witty)
   - format: The recommended format (paragraph|bullets|numbered|steps|sections|email|table|qa)
   - length: short|medium|long
   - reasoning: Object with keys tone, format, length explaining WHY each choice

5. **type_specific_suggestions**: Suggestions specific to "

def analysisPrompt (r : Request) : Outcome String := do
  let control ← standardControls.find .outputType (some r.outputType.name)
  let notes := trim r.notes
  return "You are analyzing a user's request to understand their true intent and recommend optimal settings.\n\n## User Input\n\"" ++
    r.userInput ++ "\"\n\n" ++
    (if notes == "" then "" else "## Additional Notes\n" ++ notes ++ "\n\n") ++
    "## Selected Output Type\n" ++ control.label ++ ": " ++ control.detail ++ "\n\n" ++
    analysisTask ++ r.outputType.name ++ "\n   " ++ r.outputType.hints ++
    "\n\nReturn ONLY valid JSON, no markdown formatting."

def basicSpec (r : Request) (now : Moment) : Outcome PromptSpec :=
  (PromptSpec.ofType (some r.outputType.name)).mergeAt now
    [("intent", .obj [("primary_goal", .str r.userInput)])]

end Request

def analysisOf (reply : Json) : Outcome Section := do
  let decoded ← match reply with
    | .str s => decodeText s
    | .obj fields => .ok (.obj fields)
    | v => decodeText (v.write .exchange)
  match decoded with
  | .obj fields => return fields
  | _ => throw (parseFailure "Analysis response is not a JSON object" "")

-- A part of an analysis; anything but an object counts as an empty one.
def analysisPart (analysis : Section) (key : String) : Section :=
  ((Section.value analysis key).asFields?).getD []

def valueOr (s : Section) (key : String) (fallback : Json) : Json :=
  let v := Section.value s key
  if v.truthy then v else fallback

def suggestionsIn (analysis : Section) : Section :=
  (analysisPart analysis "type_specific_suggestions").filter (fun entry => !entry.2.isNull)

def analysisUpdates (analysis : Section) (r : Request) : Section :=
  let intent := analysisPart analysis "intent"
  let audience := analysisPart analysis "audience"
  let context := analysisPart analysis "context"
  let settings := analysisPart analysis "recommended_settings"
  [("intent", .obj
      [("primary_goal", valueOr intent "primary_goal" (.str r.userInput)),
        ("success_criteria", valueOr intent "success_criteria" (.arr [])),
        ("action_desired", valueOr intent "action_desired" (.str "")),
        ("urgency", valueOr intent "urgency" (.str "normal"))]),
    ("audience", .obj
      [("primary", valueOr audience "primary" (.str "")),
        ("expertise_level", valueOr audience "expertise_level" (.str "general")),
        ("relationship", valueOr audience "relationship" (.str "neutral")),
        ("expectations", valueOr audience "expectations" (.arr []))]),
    ("context", .obj
      [("setting", valueOr context "setting" (.str "")),
        ("prior_knowledge", valueOr context "prior_knowledge" (.arr []))]),
    ("type_specific", .obj (suggestionsIn analysis)),
    ("inferred", .obj
      [("tone", valueOr settings "tone" (.str "professional")),
        ("format", valueOr settings "format" (.str "paragraph")),
        ("length", valueOr settings "length" (.str "medium")),
        ("reasoning", valueOr settings "reasoning" (.obj []))])]

def PromptSpec.withAdvice (s : PromptSpec) (provided : Section) : Outcome PromptSpec := do
  let gaps ← fillGaps s provided
  if gaps.isEmpty then return s
  (s.mergePatch [("type_specific", .obj gaps)]).toOutcome

def specOfAnalysis (analysis : Section) (r : Request) (now : Moment) : Outcome PromptSpec := do
  let spec ← (PromptSpec.ofType (some r.outputType.name)).mergeAt now (analysisUpdates analysis r)
  spec.withAdvice (suggestionsIn analysis)

-- The spec for a reply, or the basic one when the reply cannot be used.
def specOfReply (reply : Json) (r : Request) (now : Moment) : Outcome PromptSpec :=
  match (analysisOf reply).bind fun analysis => specOfAnalysis analysis r now with
  | .ok spec => .ok spec
  | .error _ => r.basicSpec now

end PromptStudio
