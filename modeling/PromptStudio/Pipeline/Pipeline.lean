import PromptStudio.Gateway.Gateway
import PromptStudio.Prompt.Analysis
import PromptStudio.Prompt.Generation
import PromptStudio.Spec.Override
import PromptStudio.Spec.Validation

set_option autoImplicit false

/-!
# From a request to a prompt

Analysis makes a spec of a request, the caller's choices are put over it, and generation makes a
prompt of the spec. Analysis never fails: at worst the spec is the basic one.
-/

namespace PromptStudio

structure PipelineOptions where
  skipAnalysis : Bool := false
  skipQuality : Bool := false
  overrides : Entries Json := []
  analysisTemperature : Binary64 := Role.analysis.temperature
  generationTemperature : Binary64 := Role.generation.temperature
  existing : Option PromptSpec := none
  deriving Inhabited

def PipelineOptions.read : Reader PipelineOptions :=
  Reader.record "PipelineOptions" fun fields =>
    PipelineOptions.mk
      <$> Reader.withDefault fields "skip_analysis" false Reader.boolean
      <*> Reader.withDefault fields "skip_quality" false Reader.boolean
      <*> Reader.withDefault fields "user_overrides" [] (Reader.mapOf Reader.anything)
      <*> Reader.withDefault fields "analysis_temperature" Role.analysis.temperature Reader.number
      <*> Reader.withDefault fields "generation_temperature" Role.generation.temperature
        Reader.number
      <*> Reader.withDefault fields "existing_spec" none (Reader.optional PromptSpec.load)

def analyze (r : Request) (ask : Caller) (temperature : Binary64) (now : Moment) :
    Run PromptSpec := do
  let prompt ← r.analysisPrompt
  match ← (ask prompt analysisPersona (some (.float temperature))).outcome with
  | .ok reply => specOfReply reply r now
  | .error _ => r.basicSpec now

def generate (spec : PromptSpec) (ask : Caller) (temperature : Binary64) : Run Generation := do
  let prompt ← spec.generationPrompt
  match ← (ask prompt generationPersona (some (.float temperature))).outcome with
  | .ok reply => Generation.ofReply reply
  | .error f => Run.fail (.generation f.message)

structure PipelineResult where
  spec : PromptSpec
  generation : Generation
  validation : Validation
  deriving Inhabited

namespace PipelineResult

def reasoning (r : PipelineResult) : Entries Json :=
  ((Section.value r.spec.inferred "reasoning").asFields?).getD []

def toJson (r : PipelineResult) : Json :=
  .obj [("spec", r.spec.toJson), ("expanded_prompt", .str r.generation.expandedPrompt),
    ("structure", .str r.generation.structureSummary),
    ("key_elements", Json.texts r.generation.keyElements), ("reasoning", .obj r.reasoning),
    ("quality", .null), ("validation", r.validation.toJson)]

end PipelineResult

def firstSpec (r : Request) (ask : Caller) (options : PipelineOptions) (now : Moment) :
    Run PromptSpec :=
  match options.existing with
  | some spec => pure spec
  | none =>
    if options.skipAnalysis then Run.of (r.basicSpec now)
    else analyze r ask options.analysisTemperature now

-- The whole way; problems of the spec are reported and do not stop it.
def runPipeline (r : Request) (ask : Caller) (options : PipelineOptions) (now : Moment) :
    Run PipelineResult := do
  let spec ← firstSpec r ask options now
  let spec ← spec.override (.obj options.overrides)
  let validation ← spec.validate
  let generation ← generate spec ask options.generationTemperature
  return ⟨spec, generation, validation⟩

-- The two stages, each by itself.
def runAnalysis (r : Request) (ask : Caller) (options : PipelineOptions) (now : Moment) :
    Run PromptSpec :=
  analyze r ask options.analysisTemperature now

def runGeneration (spec : PromptSpec) (ask : Caller) (options : PipelineOptions) : Run Generation :=
  generate spec ask options.generationTemperature

def orDash (text : String) : String := if text == "" then "-" else text

def PipelineResult.shown (r : PipelineResult) : List Shown :=
  let reason (key : String) : String := (((Entries.get? r.reasoning key).bind Json.asText?).getD "")
  let problems :=
    r.validation.errors.map ("[red]ERROR[/red] " ++ ·) ++
      r.validation.warnings.map ("[yellow]WARN[/yellow] " ++ ·)
  let outline := r.generation.structureSummary
  [.table "Inferred Settings" [("Setting", "cyan"), ("Value", "green"), ("Reasoning", "")]
    [["tone", orDash (Section.text r.spec.inferred "tone"), reason "tone"],
      ["format", orDash (Section.text r.spec.inferred "format"), reason "format"],
      ["length", orDash (Section.text r.spec.constraints "length"), reason "length"]]] ++
  (if problems.isEmpty then []
    else [.panel (String.intercalate "\n" problems) (some "Validation") none "yellow"]) ++
  [.panel r.generation.expandedPrompt
    (some ("Expanded Prompt (" ++ r.spec.outputType.getD "None" ++ ")"))
    (if outline == "" then none else some outline) "cyan"]

end PromptStudio
