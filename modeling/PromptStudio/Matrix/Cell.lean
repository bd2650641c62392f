import PromptStudio.Judge.Panel
import PromptStudio.Matrix.Combo
import PromptStudio.Plan.Plan
import PromptStudio.Reply.Blueprint

set_option autoImplicit false

/-!
# One cell of a matrix

A blueprint is asked for, carried out, and the output judged. Without a blueprint there is no
result; what goes wrong after it is written into the result.
-/

namespace PromptStudio

/-- The models of a matrix. -/
structure ModelSettings where
  execution : Option String := none
  judge : Option String := none
  judging : Bool := false
  keys : Option Keys := none
  baselines : Entries (List Baseline) := []
  judgeOptions : JudgeOptions := {}
  deriving Inhabited

def ModelSettings.read : Reader ModelSettings :=
  Reader.record "ModelSettings" fun fields =>
    ModelSettings.mk
      <$> Reader.withDefault fields "execution_model" none (Reader.optional Reader.text)
      <*> Reader.withDefault fields "judge_model" none (Reader.optional Reader.text)
      <*> Reader.withDefault fields "enable_judge" false Reader.boolean
      <*> Reader.withDefault fields "api_keys" none (Reader.optional Keys.read)
      <*> Reader.withDefault fields "baselines" [] (Reader.mapOf (Reader.listOf Baseline.read))
      <*> Reader.withDefault fields "judge_options" {} JudgeOptions.read

-- In a matrix the note on settings is left out unless it is asked for.
def Toggles.readForMatrix : Reader Toggles :=
  Reader.record "ExperimentToggles" fun fields =>
    Toggles.mk
      <$> Reader.withDefault fields "allow_placeholders" false Reader.boolean
      <*> Reader.withDefault fields "strip_meta" true Reader.boolean
      <*> Reader.withDefault fields "aesthetic_mode" false Reader.boolean

def Toggles.forMatrix : Toggles := { stripMeta := true }

structure CellResult where
  combo : Combo
  blueprint : String := ""
  execution : Option String := none
  executionModel : Option String := none
  evaluation : Option Evaluation := none
  judgeModel : Option String := none
  executionError : Option String := none
  error : Option String := none
  deriving Inhabited

def CellResult.toJson (r : CellResult) : Json :=
  .obj [("config", r.combo.toJson), ("blueprint_result", .str r.blueprint),
    ("execution_result", Json.ofOption .str r.execution),
    ("execution_model_id", Json.ofOption .str r.executionModel),
    ("evaluation", Json.ofOption Evaluation.toJson r.evaluation),
    ("judge_model_id", Json.ofOption .str r.judgeModel),
    ("execution_error", Json.ofOption .str r.executionError),
    ("error", Json.ofOption .str r.error)]

/-- What all cells of a matrix share. -/
structure Experiment where
  prompt : Json
  outputType : Json
  ask : Caller
  toggles : Toggles := Toggles.forMatrix
  models : ModelSettings := {}
  typeSpecific : Json := .null
  controls : Catalog := standardControls
  registry : Registry := []
  cancellation : Cancellation := .never
  settings : Settings := {}

namespace Experiment

def typeName? (e : Experiment) : Option String := e.outputType.asText?

/-- The controls that a combination names. -/
structure Choice where
  tone : Control
  outputType : Control
  format : Control
  length : Control

def choice (e : Experiment) (c : Combo) : Outcome Choice := do
  let tone ← e.controls.find .tone (some c.tone)
  let outputType ← e.controls.find .outputType e.typeName?
  let format ← e.controls.find .format (some c.format)
  let length ← e.controls.find .length (some c.length)
  return ⟨tone, outputType, format, length⟩

def planRequest (e : Experiment) (c : Combo) : Outcome PlanRequest := do
  let chosen ← e.choice c
  let own ← e.typeSpecific.asMapping
  let header ← (PlanRequest.read (.obj
    [("spec_id", e.outputType), ("user_input", e.prompt)])).toOutcome
  return { header with
    tone := some (chosen.tone.toFields .tone)
    outputType := some (chosen.outputType.toFields .outputType)
    format := some (chosen.format.toFields .format)
    length := some (chosen.length.toFields .length)
    toggles := e.toggles
    typeSpecific := own }

def decodedReply (reply : Json) : Json :=
  match reply with
  | .str text => decodedOrText text
  | v => v

def blueprint (e : Experiment) (c : Combo) : Run String := do
  let request ← e.planRequest c
  let plan ← request.plan standardRegistry e.registry
  let user := if plan.userPrompt == "" then request.userInput else plan.userPrompt
  let reply ← e.ask user (withContract plan.systemPrompt) none
  return blueprintOf (decodedReply reply)

def executor? (e : Experiment) : Option (String × Keys) :=
  match e.models.execution, e.models.keys with
  | some model, some keys => if model == "" then none else some (model, keys)
  | _, _ => none

def judge? (e : Experiment) : Option String :=
  match e.models.judge with
  | some model => if e.models.judging && model != "" then some model else none
  | none => none

def execute (e : Experiment) (model : String) (keys : Keys) (blueprint : String) : Run String :=
  callModel e.settings model blueprint "" keys.toJson
    { temperature := .float Role.executor.temperature, cancellation := e.cancellation }

def baselines (e : Experiment) : List Baseline :=
  match e.typeName? with
  | some name => (Entries.get? e.models.baselines name).getD []
  | none => []

def exhibit (e : Experiment) (c : Combo) (blueprint output : String) : Outcome Exhibit := do
  let chosen ← e.choice c
  return {
    request := (e.prompt.asText?).getD ""
    outputType := chosen.outputType
    tone := chosen.tone
    length := chosen.length
    format := chosen.format
    blueprint := blueprint
    output := output
    baselines := e.baselines }

def hearing (e : Experiment) (model : String) (keys : Keys) (exhibit : Exhibit) : Hearing where
  model := model
  credentials := keys.toJson
  prompt := exhibit.prompt
  options := e.models.judgeOptions
  attachments := (Baseline.attachments e.baselines).map Attachment.toJson
  cancellation := e.cancellation

-- The evaluation of an output; a judge that fails gives a verdict of zeros.
def evaluation (e : Experiment) (h : Hearing) : Run Evaluation := do
  match ← (h.evaluate e.settings).outcome with
  | .ok evaluation => return evaluation
  | .error f => return ⟨Verdict.zero f.message, e.models.judgeOptions⟩

def judged (e : Experiment) (keys : Keys) (r : CellResult) (output : String) :
    Run CellResult := do
  match e.judge? with
  | none => return r
  | some model =>
    let exhibit ← e.exhibit r.combo r.blueprint output
    let evaluation ← e.evaluation (e.hearing model keys exhibit)
    return { r with evaluation := some evaluation, judgeModel := some model }

def executed (e : Experiment) (r : CellResult) : Run CellResult := do
  match e.executor? with
  | none => return r
  | some (model, keys) =>
    if r.blueprint == "" then return r
    match ← (e.execute model keys r.blueprint).outcome with
    | .error f => return { r with executionError := some f.message }
    | .ok output =>
      e.judged keys { r with execution := some output, executionModel := some model } output

def runCell (e : Experiment) (c : Combo) : Run CellResult := do
  let blueprint ← e.blueprint c
  e.executed { combo := c, blueprint := blueprint }

end Experiment

end PromptStudio
