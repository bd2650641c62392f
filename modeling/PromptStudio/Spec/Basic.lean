import PromptStudio.Json.Equality
import PromptStudio.Spec.Sections
import PromptStudio.Template.Datum

set_option autoImplicit false

/-!
# Prompt specs

A spec says what a prompt is for, part by part. `PromptSpec.load` reads one from JSON; the form of
its `typeSpecific` part is chosen by the output type.
-/

namespace PromptStudio

def schemaVersion : String := "1.0.0"

structure PromptSpec where
  version : Option String
  outputType : Option String
  generatedAt : Option Moment
  intent : Section
  audience : Section
  context : Section
  constraints : Section
  quality : Section
  typeSpecific : Section
  inferred : Section
  deriving Inhabited

inductive SectionName where
  | intent
  | audience
  | context
  | constraints
  | quality
  deriving DecidableEq, Inhabited

namespace SectionName

def all : List SectionName := [.intent, .audience, .context, .constraints, .quality]

def key : SectionName → String
  | .intent => "intent"
  | .audience => "audience"
  | .context => "context"
  | .constraints => "constraints"
  | .quality => "quality"

def form : SectionName → Form
  | .intent => intentForm
  | .audience => audienceForm
  | .context => contextForm
  | .constraints => constraintsForm
  | .quality => qualityForm

end SectionName

namespace PromptSpec

def shared (s : PromptSpec) : SectionName → Section
  | .intent => s.intent
  | .audience => s.audience
  | .context => s.context
  | .constraints => s.constraints
  | .quality => s.quality

/-- What the parts of a spec are read from, before any of them is checked. -/
structure Parts where
  version : Checked (Option String)
  outputType : Checked (Option String)
  generatedAt : Checked (Option Moment)
  shared : SectionName → Checked Section
  inferred : Checked Section
  typeSpecific : Section

-- Check the parts in the order of the spec.
def ofParts (p : Parts) : Checked PromptSpec :=
  PromptSpec.mk <$> p.version <*> p.outputType <*> p.generatedAt <*> p.shared .intent <*>
    p.shared .audience <*> p.shared .context <*> p.shared .constraints <*> p.shared .quality <*>
    Checked.ok p.typeSpecific <*> p.inferred

-- An object, with whatever is empty taken for one without fields.
def spread (v : Json) : Outcome Section :=
  match v with
  | .obj fields => .ok fields
  | v => if v.truthy then .error (.wrongType "value is not a mapping") else .ok []

-- Fill the form of an output type; the tag overrides what is given.
def bindType (tag raw : Json) : Checked Section :=
  match spread raw with
  | .error failure => .stop failure
  | .ok given =>
    match typeForm? tag with
    | .error failure => .stop failure
    | .ok form => form.fill (Entries.put given "output_type" tag)

def versionReader : Reader (Option String) := Reader.optional Reader.text

def momentReader : Reader (Option Moment) := Reader.optional Reader.moment

-- The other spelling comes first when both are there.
def eitherSpelling {α : Type} (fields : Section) (key other : String) (whenAbsent : α)
    (read : Reader α) : Checked α :=
  if Entries.has fields other then Reader.needed fields other read
  else Reader.withDefault fields key whenAbsent read

def tagIn (fields : Section) : Json :=
  ((Entries.get? fields "output_type").or (Entries.get? fields "outputType")).getD .null

def rawTypeSpecific (fields : Section) : Json :=
  ((Entries.get? fields "type_specific").or (Entries.get? fields "typeSpecific")).getD .null

def sectionIn (fields : Section) (key : String) (form : Form) : Checked Section :=
  Reader.withDefault fields key form.empty form.read

def partsOf (fields typeSpecific : Section) : Parts where
  version := Reader.withDefault fields "version" (some schemaVersion) versionReader
  outputType := eitherSpelling fields "output_type" "outputType" none versionReader
  generatedAt := eitherSpelling fields "generated_at" "generatedAt" none momentReader
  shared name := sectionIn fields name.key name.form
  inferred := sectionIn fields "inferred" inferredForm
  typeSpecific := typeSpecific

-- Problems of the type's own part are reported alone.
def loadFields (fields : Section) : Checked PromptSpec :=
  match bindType (tagIn fields) (rawTypeSpecific fields) with
  | .ok typeSpecific => ofParts (partsOf fields typeSpecific)
  | .bad problems => .bad problems
  | .stop failure => .stop failure

def load : Reader PromptSpec := Reader.record "PromptSpec" loadFields

def toFields (s : PromptSpec) (generatedAt : Json) : Section :=
  [("version", Json.ofOption .str s.version), ("output_type", Json.ofOption .str s.outputType),
    ("generated_at", generatedAt), ("intent", .obj s.intent), ("audience", .obj s.audience),
    ("context", .obj s.context), ("constraints", .obj s.constraints), ("quality", .obj s.quality),
    ("type_specific", .obj s.typeSpecific), ("inferred", .obj s.inferred)]

def toJson (s : PromptSpec) : Json :=
  .obj (s.toFields (Json.ofOption (fun m => .str m.iso) s.generatedAt))

def sectionDatum (s : Section) : Datum := .record (s.map fun (key, v) => (key, .plain v))

-- The spec as templates reach it: parts are records.
def toDatum (s : PromptSpec) : Datum :=
  .record
    [("version", .plain (Json.ofOption .str s.version)),
      ("output_type", .plain (Json.ofOption .str s.outputType)),
      ("generated_at", match s.generatedAt with
        | none => .plain .null
        | some time => .moment time),
      ("intent", sectionDatum s.intent), ("audience", sectionDatum s.audience),
      ("context", sectionDatum s.context), ("constraints", sectionDatum s.constraints),
      ("quality", sectionDatum s.quality), ("type_specific", sectionDatum s.typeSpecific),
      ("inferred", sectionDatum s.inferred)]

def sameMoment : Option Moment → Option Moment → Bool
  | none, none => true
  | some a, some b => a.same b
  | _, _ => false

-- Equal part by part, values as `Json.equals` compares them.
def equals (a b : PromptSpec) : Bool :=
  a.version == b.version && a.outputType == b.outputType &&
    sameMoment a.generatedAt b.generatedAt &&
    (Json.obj (a.toFields .null)).equals (.obj (b.toFields .null))

-- A spec with defaults everywhere; its type may be unknown.
def ofType (outputType : Option String) : PromptSpec where
  version := some schemaVersion
  outputType := outputType
  generatedAt := none
  intent := intentForm.empty
  audience := audienceForm.empty
  context := contextForm.empty
  constraints := constraintsForm.empty
  quality := qualityForm.empty
  typeSpecific :=
    let tag := Json.ofOption .str outputType
    (typeForm tag).complete [("output_type", tag)]
  inferred := inferredForm.empty

def create (outputType : Option String) : Outcome PromptSpec :=
  match outputType.bind OutputType.ofName? with
  | some t => .ok (ofType (some t.name))
  | none =>
    .error (.unknownOutputType (String.ofList (Json.ofOption .str outputType).inner))

-- The known type whose form the type's own part was filled with.
def variant? (s : PromptSpec) : Option OutputType :=
  outputTypeOf? (Section.value s.typeSpecific "output_type")

end PromptSpec

end PromptStudio
