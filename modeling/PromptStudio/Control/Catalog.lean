import PromptStudio.Form.Reader
import PromptStudio.Json.Printer

set_option autoImplicit false

/-!
# Controls

The choices offered for tone, length, format and output type. An id that is not known falls back to
a fixed choice of its axis.
-/

namespace PromptStudio

/-- One choice; `detail` is what prompts say about it. -/
structure Control where
  id : String
  label : String
  detail : String := ""
  deriving DecidableEq, Inhabited

inductive Axis where
  | tone
  | length
  | format
  | outputType
  deriving DecidableEq, Inhabited

namespace Axis

def recordName : Axis → String
  | .outputType => "OutputTypeOption"
  | _ => "ControlOption"

def detailKey : Axis → String
  | .outputType => "context"
  | _ => "prompt"

def fallback : Axis → Nat
  | .tone => 0
  | .length => 1
  | .format => 0
  | .outputType => 1

end Axis

namespace Control

def read (axis : Axis) : Reader Control :=
  Reader.record axis.recordName fun fields =>
    Control.mk
      <$> Reader.needed fields "id" Reader.text
      <*> Reader.needed fields "label" Reader.text
      <*> Reader.withDefault fields axis.detailKey "" Reader.text

def toFields (axis : Axis) (c : Control) : Entries Json :=
  [("id", .str c.id), ("label", .str c.label), (axis.detailKey, .str c.detail)]

def toJson (axis : Axis) (c : Control) : Json := .obj (c.toFields axis)

end Control

structure Catalog where
  tones : List Control
  lengths : List Control
  formats : List Control
  outputTypes : List Control
  deriving DecidableEq, Inhabited

namespace Catalog

def read : Reader Catalog :=
  Reader.record "ControlCatalog" fun fields =>
    Catalog.mk
      <$> Reader.needed fields "tones" (Reader.tupleOf (Control.read .tone))
      <*> Reader.needed fields "lengths" (Reader.tupleOf (Control.read .length))
      <*> Reader.needed fields "formats" (Reader.tupleOf (Control.read .format))
      <*> Reader.needed fields "output_types" (Reader.tupleOf (Control.read .outputType))

def axis (c : Catalog) : Axis → List Control
  | .tone => c.tones
  | .length => c.lengths
  | .format => c.formats
  | .outputType => c.outputTypes

def atOrLast? (controls : List Control) (position : Nat) : Option Control :=
  (controls[position]?).or controls.getLast?

def find (c : Catalog) (axis : Axis) (id : Option String) : Outcome Control :=
  let controls := c.axis axis
  match (controls.find? fun control => some control.id == id).or
      (atOrLast? controls axis.fallback) with
  | some control => .ok control
  | none => .error (.outOfRange "tuple index out of range")

end Catalog

def standardControls : Catalog where
  tones :=
    [⟨"professional", "Professional", "formal, objective, and expert"⟩,
      ⟨"creative", "Creative", "imaginative, evocative, and storytelling"⟩,
      ⟨"academic", "Academic", "rigorous, citation-focused, and analytical"⟩,
      ⟨"casual", "Casual", "friendly, conversational, and accessible"⟩,
      ⟨"instructive", "Instructive", "didactic, step-by-step teacher"⟩,
      ⟨"persuasive", "Persuasive", "compelling, benefit-led, and action-oriented"⟩,
      ⟨"empathetic", "Empathetic", "warm, understanding, and supportive"⟩,
      ⟨"urgent", "Urgent", "direct, time-sensitive, and decisive"⟩,
      ⟨"witty", "Witty", "clever, playful, and light-hearted"⟩]
  lengths :=
    [⟨"short", "Concise", "Concise and high-level"⟩,
      ⟨"medium", "Balanced", "Balanced detail"⟩,
      ⟨"long", "Exhaustive", "Exhaustive and detailed"⟩]
  formats :=
    [⟨"paragraph", "Paragraph", "Flowing, cohesive narrative"⟩,
      ⟨"bullets", "Bullet Points", "Concise bulleted list"⟩,
      ⟨"numbered", "Numbered List", "Sequential numbered list"⟩,
      ⟨"steps", "Step-by-Step", "Clear, actionable steps"⟩,
      ⟨"sections", "Structured Sections", "Clear, hierarchical sections with headings"⟩,
      ⟨"email", "Email", "Professional email format"⟩,
      ⟨"table", "Table", "Structured table with headers"⟩,
      ⟨"qa", "Q&A", "Question and Answer session"⟩]
  outputTypes :=
    [⟨"deck", "Deck", "Slide Deck Outline (Titles, Visuals, Notes)"⟩,
      ⟨"doc", "Doc", "Comprehensive Written Document"⟩,
      ⟨"data", "Data", "Structured Data / Tables"⟩,
      ⟨"code", "Code", "Production-Ready Code"⟩,
      ⟨"copy", "Copy", "Marketing Copy / Creative Writing"⟩,
      ⟨"comms", "Comms", "Email / Communication"⟩]

end PromptStudio
