import PromptStudio.Template.Condition
import PromptStudio.Template.Render

set_option autoImplicit false

/-!
# Blocks

A prompt is put together from steps. A step whose conditions hold is rendered; the texts that are
not blank are joined by an empty line.
-/

namespace PromptStudio

inductive Channel where
  | system
  | user
  deriving DecidableEq, Inhabited

def Channel.named : List (String × Channel) := [("system", .system), ("user", .user)]

def Channel.name : Channel → String
  | .system => "system"
  | .user => "user"

structure Step where
  id : String
  channel : Channel
  template : String := ""
  conditions : List Condition := []
  deriving Inhabited

namespace Step

def read : Reader Step :=
  Reader.record "RenderStep" fun fields =>
    Step.mk
      <$> Reader.needed fields "id" Reader.text
      <*> Reader.needed fields "channel" (Reader.choice Channel.named)
      <*> Reader.withDefault fields "template" "" Reader.text
      <*> Reader.withDefault fields "conditions" [] (Reader.tupleOf Condition.read)

def toJson (s : Step) : Json :=
  .obj [("id", .str s.id), ("channel", .str s.channel.name), ("template", .str s.template),
    ("conditions", .arr (s.conditions.map Condition.toJson))]

def isIncluded (s : Step) (context : Option Datum) : Bool :=
  s.conditions.all (·.holds context)

def chars (s : Step) (context : Option Datum) : List Char :=
  trimChars (renderChars context s.template.toList)

end Step

/-- Whether a step was included. -/
structure Trace where
  id : String
  channel : Channel
  included : Bool
  deriving DecidableEq, Inhabited

def Trace.toJson (t : Trace) : Json :=
  .obj [("id", .str t.id), ("channel", .str t.channel.name), ("included", .bool t.included)]

namespace Blocks

def trace (steps : List Step) (context : Option Datum) : List Trace :=
  steps.map fun s => ⟨s.id, s.channel, s.isIncluded context⟩

def parts (steps : List Step) (context : Option Datum) : List (List Char) :=
  ((steps.filter (·.isIncluded context)).map (·.chars context)).filter (fun t => !t.isEmpty)

def separator : List Char := ['\n', '\n']

def chars (steps : List Step) (context : Option Datum) : List Char :=
  separator.intercalate (parts steps context)

def text (steps : List Step) (context : Option Datum) : String :=
  String.ofList (chars steps context)

@[simp] theorem parts_append (first second : List Step) (context : Option Datum) :
    parts (first ++ second) context = parts first context ++ parts second context := by
  simp [parts]

@[simp] theorem trace_append (first second : List Step) (context : Option Datum) :
    trace (first ++ second) context = trace first context ++ trace second context := by
  simp [trace]

end Blocks

end PromptStudio
