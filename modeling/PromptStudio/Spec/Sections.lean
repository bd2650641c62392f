import PromptStudio.Form.Form

set_option autoImplicit false

/-!
# Sections of a prompt spec

The forms of the shared sections, and one form for each output type. A type's form carries its
type as a tag and keeps names that it does not declare.
-/

namespace PromptStudio

def textField (name : String) (default : String := "") : Field := ⟨name, .text, .str default⟩

def textsField (name : String) : Field := ⟨name, .texts, .arr []⟩

def flagField (name : String) (default : Bool) : Field := ⟨name, .boolean, .bool default⟩

def textOrNullField (name : String) : Field := ⟨name, .orNull .text, .null⟩

def intentForm : Form :=
  { name := "Intent"
    fields := [textField "primary_goal", textsField "success_criteria", textField "action_desired",
      textField "urgency" "normal"] }

def audienceForm : Form :=
  { name := "Audience"
    fields := [textField "primary", textOrNullField "secondary",
      textField "expertise_level" "general", textField "relationship" "neutral",
      textsField "expectations"] }

def contextForm : Form :=
  { name := "SpecContext"
    fields := [textField "setting", textsField "prior_knowledge", textsField "related_materials",
      textField "cultural_notes"] }

def constraintsForm : Form :=
  { name := "Constraints"
    fields := [textField "length" "medium", textOrNullField "length_specific",
      textOrNullField "time_to_consume", textsField "tone_markers",
      textsField "format_requirements", textsField "forbidden", textOrNullField "brand_voice"] }

def qualityForm : Form :=
  { name := "QualityCriteria"
    fields := [textsField "must_include", textsField "nice_to_have", textField "differentiation",
      textsField "anti_patterns"] }

def inferredForm : Form :=
  { name := "Inferred"
    fields := [textOrNullField "tone", textOrNullField "format", textOrNullField "length",
      ⟨"reasoning", .textMap, .obj []⟩] }

inductive OutputType where
  | deck
  | doc
  | data
  | code
  | copy
  | comms
  deriving DecidableEq, Inhabited

namespace OutputType

def named : List (String × OutputType) :=
  [("deck", .deck), ("doc", .doc), ("data", .data), ("code", .code), ("copy", .copy),
    ("comms", .comms)]

def name : OutputType → String
  | .deck => "deck"
  | .doc => "doc"
  | .data => "data"
  | .code => "code"
  | .copy => "copy"
  | .comms => "comms"

def ofName? (name : String) : Option OutputType := named.lookup name

@[simp] theorem ofName?_name (t : OutputType) : ofName? t.name = some t := by
  cases t <;> decide

def formName : OutputType → String
  | .deck => "DeckTypeSpecific"
  | .doc => "DocTypeSpecific"
  | .data => "DataTypeSpecific"
  | .code => "CodeTypeSpecific"
  | .copy => "CopyTypeSpecific"
  | .comms => "CommsTypeSpecific"

def fields : OutputType → List Field
  | .deck =>
    [textField "deck_type" "internal", ⟨"slide_count", .orNull .integer, .null⟩,
      textField "visual_style" "minimal", flagField "include_speaker_notes" true]
  | .doc =>
    [textField "document_type" "report", textsField "section_structure",
      flagField "include_executive_summary" false, flagField "include_toc" false,
      textOrNullField "citation_style", textsField "appendices"]
  | .data =>
    [textField "output_format" "table", ⟨"schema_definition", .anything, .null⟩,
      flagField "include_headers" true, flagField "include_descriptions" false,
      ⟨"relationships", .values, .arr []⟩, ⟨"aggregations", .values, .arr []⟩]
  | .code =>
    [textField "language", textOrNullField "framework", flagField "include_tests" false,
      flagField "include_comments" true, textField "error_handling" "standard",
      textOrNullField "style_guide", textsField "dependencies"]
  | .copy =>
    [textField "copy_type" "landing", textOrNullField "cta_type",
      textField "emotional_appeal" "aspiration", textOrNullField "brand_voice",
      textOrNullField "platform"]
  | .comms =>
    [textField "channel" "email", textOrNullField "thread_context",
      textField "response_urgency" "normal", textField "formality_level" "professional",
      flagField "include_greeting" true, flagField "include_signature" true,
      textsField "action_items"]

def form (t : OutputType) : Form :=
  { name := t.formName
    fields := ⟨"output_type", .tag t.name, .str t.name⟩ :: t.fields
    isOpen := true }

end OutputType

def genericForm : Form :=
  { name := "GenericTypeSpecific"
    fields := [textOrNullField "output_type"]
    isOpen := true }

def outputTypeOf? : Json → Option OutputType
  | .str name => OutputType.ofName? name
  | _ => none

def typeForm (tag : Json) : Form :=
  match outputTypeOf? tag with
  | some t => t.form
  | none => genericForm

-- A filled container names nothing, and looking it up is refused.
def typeForm? (tag : Json) : Outcome Form :=
  match tag with
  | .arr (_ :: _) => .error (.wrongType "unhashable type: 'list'")
  | .obj (_ :: _) => .error (.wrongType "unhashable type: 'dict'")
  | tag => .ok (typeForm tag)

end PromptStudio
