import PromptStudio.Console.Invocation
import PromptStudio.Matrix.Matrix
import PromptStudio.Pipeline.Pipeline

set_option autoImplicit false

/-!
# The program

Each command works on a brief, shows what comes of it, and may save results. What a command shows
before it fails stays shown.
-/

namespace PromptStudio

/-- What the program finds when it starts: settings, the files it can read, and the time. -/
structure Workplace where
  settings : Settings := {}
  files : Entries String := []
  now : Moment

/-- How the program ends; results are saved under the names of their files. -/
inductive Ending where
  | done (saved : Entries String)
  | exit (code : Nat)
  | refused (message : String)
  deriving Inhabited

namespace Ending

def saved : Ending → Entries String
  | .done saved => saved
  | _ => []

def code? : Ending → Option Nat
  | .done _ => none
  | .exit code => some code
  | .refused _ => some 2

end Ending

namespace Workplace

def tell (line : Shown) : Run Unit := Run.change fun s => s.tell line

def tellAll (lines : List Shown) : Run Unit :=
  Run.change fun s => { s with shown := s.shown ++ lines }

def stop (reason : String) : Run Ending := do
  tell (.text ("[red]" ++ reason ++ "[/red]"))
  return .exit 1

-- Work on the brief that was given, if there is more than blanks in it.
def withBrief (a : Arguments) (work : String → Run Ending) : Run Ending :=
  let brief := a.brief.getD ""
  if trim brief == "" then stop "A brief is required" else work brief

def banner : Shown :=
  .panel "[bold]PROMPT BLUEPRINT LAB[/bold]\nBrief -> Blueprint -> Output -> Score" none none
    "bright_magenta"

end Workplace

/-! ## Plans -/

namespace Arguments

def controlFields (a : Arguments) (axis : Axis) (name : String) : Outcome (Entries Json) :=
  (standardControls.find axis (a.text? name)).map (Control.toFields axis)

-- Without inference an output type that is not given is `doc`.
def planRequest (a : Arguments) (brief : String) : Outcome PlanRequest := do
  let type := a.text? "--output-type"
  let chosen ← type.mapM fun _ => a.controlFields .outputType "--output-type"
  return {
    specId := if a.has "--infer" then type else some (type.getD "doc")
    userInput := brief
    notes := (a.text? "--notes").getD ""
    contextConstraints := (a.text? "--constraints").getD ""
    tone := some (← a.controlFields .tone "--tone")
    format := some (← a.controlFields .format "--format")
    length := some (← a.controlFields .length "--length")
    outputType := chosen
    toggles := { stripMeta := a.has "--strip-meta" } }

def plan (a : Arguments) (brief : String) : Outcome Plan := do
  let request ← a.planRequest brief
  if a.has "--infer" then request.planWithInference standardRegistry []
  else request.plan standardRegistry []

end Arguments

def Trace.row (t : Trace) : List String :=
  [t.id, t.channel.name, if t.included then "[green]yes[/green]" else "[dim]no[/dim]"]

def InferenceSummary.line (s : InferenceSummary) : String :=
  "Output type: [bold]" ++ s.outputType ++ "[/bold] (" ++ s.outputTypeSource.name ++ ")"

def Plan.shown (p : Plan) : List Shown :=
  let title := "System Prompt (" ++ p.specId ++ " v" ++ intText p.specVersion ++ ")"
  [.panel p.systemPrompt (some title) none "cyan",
    .panel p.userPrompt (some "User Prompt") none "green",
    .table "Step Trace" [("Step", "cyan"), ("Channel", ""), ("Included", "bold")]
      (p.trace.map Trace.row)] ++
    (p.inference.map fun s => .text s.line).toList

/-! ## The pipeline -/

def Arguments.overrides (a : Arguments) : Entries Json :=
  ["tone", "format", "length"].filterMap fun name =>
    (a.solid? ("--" ++ name)).map fun text => (name, .str text)

namespace Workplace

def caller (w : Workplace) (model : String) (options : CallerOptions) : Caller :=
  modelCaller w.settings model w.settings.keys.toJson options

def runPlan (a : Arguments) : Run Ending :=
  withBrief a fun brief => do
    tellAll (← a.plan brief).shown
    return .done []

def runPipeline (w : Workplace) (a : Arguments) : Run Ending :=
  withBrief a fun brief => do
    let request : Request := {
      userInput := brief
      notes := (a.text? "--notes").getD ""
      outputType := ((a.text? "--output-type").bind OutputType.ofName?).getD .doc }
    let model := (a.solid? "--model").getD (w.settings.models .generation)
    let options : PipelineOptions := {
      skipAnalysis := a.has "--skip-analysis"
      overrides := a.overrides }
    let result ← PromptStudio.runPipeline request (w.caller model {}) options w.now
    tellAll result.shown
    return .done []

end Workplace

/-! ## Matrices -/

namespace Arguments

def listOf (a : Arguments) (name standard : String) : Json :=
  Json.texts (((a.text? name).getD standard).splitOn ",")

-- The model that was named, or the standard one if only its use was asked for.
def modelFor (a : Arguments) (name use standard : String) : Option String :=
  if a.has use && (a.solid? name).isNone then some standard else a.text? name

def experiment (a : Arguments) (settings : Settings) (brief : String) : Json :=
  let executor := a.modelFor "--execution-model" "--execute" (settings.models .executor)
  let judge := a.modelFor "--judge-model" "--judge" (settings.models .judge)
  .obj [("prompt", .str brief),
    ("output_type", .str ((a.text? "--output-type").getD "doc")),
    ("matrix", .obj [("tones", a.listOf "--tones" "professional"),
      ("lengths", a.listOf "--lengths" "medium"),
      ("formats", a.listOf "--formats" "paragraph")]),
    ("models", .obj [("execution_model", Json.ofOption .str executor),
      ("judge_model", Json.ofOption .str judge),
      ("enable_judge", .bool (judge.getD "" != "")),
      ("judge_options", .obj [("dual_judge", .bool (a.has "--dual-judge")),
        ("rubric_enforcement", .str ((a.text? "--rubric").getD "standard"))])])]

end Arguments

namespace CellResult

def okText (ok : Bool) : String := if ok then "[green]ok[/green]" else "[red]error[/red]"

def failed (r : CellResult) : Bool := (r.error.getD "") != ""

def progressLine (r : CellResult) (finished total : Nat) : String :=
  "  [" ++ toString finished ++ "/" ++ toString total ++ "] " ++ r.combo.tone ++ " / " ++
    r.combo.length ++ " / " ++ r.combo.format ++ ": " ++ okText (!r.failed)

def lengthText (text : String) : String := toString text.length ++ " chars"

def blueprintText (r : CellResult) : String :=
  if r.failed then "[red]FAILED: " ++ cut 50 (r.error.getD "") ++ "[/red]"
  else lengthText r.blueprint

def executionText (r : CellResult) : String :=
  match r.executionError.getD "", r.execution with
  | "", some output => lengthText output
  | "", none => "[dim]skipped[/dim]"
  | error, _ => "[red]" ++ cut 50 error ++ "[/red]"

def scoreText (r : CellResult) : String :=
  match r.evaluation with
  | some e => e.verdict.composite.fixedText 1
  | none => "-"

def row (r : CellResult) : List String :=
  [r.combo.tone, r.combo.length, r.combo.format, r.blueprintText, r.executionText, r.scoreText]

def shown (results : List CellResult) : Shown :=
  .table "Matrix Results"
    [("Tone", "cyan"), ("Length", "cyan"), ("Format", "cyan"), ("Blueprint", "green"),
      ("Execution", ""), ("Score", "bold")]
    (results.map row)

end CellResult

namespace Workplace

-- The experiment in a file; `none` if there is no such file.
def experimentIn (w : Workplace) (path : Pathname) : Option (Outcome Json) :=
  (Entries.get? w.files path.text).map fun text =>
    match Json.read? text with
    | some v => .ok v
    | none => .error (.undecodable "the file holds no JSON")

def watch : Observer := fun finished total r => tell (.text (r.progressLine finished total))

def part (fields : Entries Json) (key : String) : Outcome Json :=
  match Entries.get? fields key with
  | some v => .ok v
  | none => .error (.missingKey key)

def typeOf (fields : Entries Json) : Json := (Entries.get? fields "output_type").getD (.str "doc")

-- The models of an experiment; the keys are those of the settings unless it has its own.
def modelsOf (w : Workplace) (experiment : Json) : Outcome ModelSettings := do
  let models ← (ModelSettings.read (orEmpty (experiment.field "models"))).toOutcome
  return { models with keys := some (models.keys.getD w.settings.keys) }

-- Run an experiment, telling of every cell.
def runExperiment (w : Workplace) (experiment : Json) (architect : String) :
    Run (List CellResult) := do
  let fields ← experiment.ownEntries "get"
  let models ← w.modelsOf experiment
  let prompt ← part fields "prompt"
  let config ← part fields "matrix"
  let e : Experiment := {
    prompt := prompt
    outputType := typeOf fields
    ask := w.caller architect
      { temperature := .float Role.architect.temperature, cancellation := .token }
    typeSpecific := experiment.field "type_specific"
    cancellation := .token
    settings := w.settings }
  let m : MatrixRequest := {
    config := config
    toggles := experiment.field "toggles"
    models := .ok models }
  let results ← runMatrix e m watch
  Run.change Session.settle
  return results

def savedName (w : Workplace) (type : Json) : String :=
  "matrix_" ++ type.display ++ "_" ++ w.now.stamp ++ ".json"

-- Save results and tell where; a slash in the name leads to a directory that is not there.
def save (w : Workplace) (type : Json) (results : List CellResult) : Run (Entries String) := do
  let name := w.savedName type
  if name.toList.contains '/' then Run.fail (.notFound "the directory does not exist")
  else
    let path := (Pathname.ofText w.settings.outputDirectory).join (Pathname.ofText name)
    let line := "Saved " ++ toString results.length ++ " results to " ++ path.text
    tell (.text ("[green]" ++ line ++ "[/green]"))
    return [(name, (Json.arr (results.map CellResult.toJson)).writeTree)]

def conclude (w : Workplace) (a : Arguments) (experiment : Json) : Run Ending := do
  let architect := (a.solid? "--model").getD (w.settings.models .architect)
  let results ← w.runExperiment experiment architect
  tell (CellResult.shown results)
  if a.has "--save" then
    return .done (← w.save (typeOf ((experiment.asFields?).getD [])) results)
  else return .done []

def runMatrixTask (w : Workplace) (a : Arguments) : Run Ending :=
  match a.solid? "--input" with
  | none => withBrief a fun brief => w.conclude a (a.experiment w.settings brief)
  | some name =>
    let path := Pathname.ofText name
    match w.experimentIn path with
    | none => stop ("Input file not found: " ++ path.text)
    | some experiment => do w.conclude a (← experiment)

/-! ## The whole program -/

def run (w : Workplace) (i : Invocation) : Run Ending := do
  tell banner
  match i.task with
  | .plan => runPlan i.arguments
  | .pipeline => w.runPipeline i.arguments
  | .matrix => w.runMatrixTask i.arguments

def perform (w : Workplace) (program : String) (words : List String) : Run Ending :=
  match Invocation.ofWords program words with
  | .ok i => w.run i
  | .error .help => pure (.exit 0)
  | .error (.refused message) => pure (.refused message)

end Workplace

end PromptStudio
