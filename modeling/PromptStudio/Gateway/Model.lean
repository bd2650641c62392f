import PromptStudio.Form.Mapping
import PromptStudio.Form.Reader

set_option autoImplicit false

/-!
# Models and keys

A model belongs to a provider, known ones by their id and others by how their id begins. Each
provider has a key of its own.
-/

namespace PromptStudio

inductive Provider where
  | openai
  | anthropic
  | google
  deriving DecidableEq, Inhabited

namespace Provider

def name : Provider → String
  | .openai => "openai"
  | .anthropic => "anthropic"
  | .google => "google"

def ofName? : String → Option Provider
  | "openai" => some .openai
  | "anthropic" => some .anthropic
  | "google" => some .google
  | _ => none

end Provider

structure Model where
  id : String
  label : String
  provider : Provider
  description : String := ""
  deriving DecidableEq, Inhabited

namespace Model

def known : List Model :=
  [⟨"gpt-4o", "GPT-4o", .openai, "Flagship multimodal"⟩,
    ⟨"gpt-4o-mini", "GPT-4o mini", .openai, "Fast and cheap"⟩,
    ⟨"gpt-4.1", "GPT-4.1", .openai, "Long-context flagship"⟩,
    ⟨"o3", "o3", .openai, "Reasoning model"⟩,
    ⟨"claude-sonnet-4-20250514", "Claude Sonnet 4", .anthropic, "Balanced model"⟩,
    ⟨"claude-3-5-sonnet-20241022", "Claude 3.5 Sonnet", .anthropic, "Balanced performance"⟩,
    ⟨"claude-3-5-haiku-20241022", "Claude 3.5 Haiku", .anthropic, "Fastest Claude"⟩,
    ⟨"gemini-2.5-pro", "Gemini 2.5 Pro", .google, "Advanced reasoning"⟩,
    ⟨"gemini-2.5-flash", "Gemini 2.5 Flash", .google, "Fast model"⟩,
    ⟨"gemini-2.0-flash", "Gemini 2.0 Flash", .google, "Quick responses"⟩]

def families : List (String × Provider) :=
  [("gpt-", .openai), ("o1", .openai), ("o3", .openai), ("o4", .openai),
    ("claude-", .anthropic), ("gemini-", .google)]

def beginsWith (start id : String) : Bool := start.toList.isPrefixOf id.toList

def find? (id : String) : Option Model :=
  (known.find? fun m => m.id == id).or
    ((families.find? fun family => beginsWith family.1 id).map fun family =>
      ⟨id, id, family.2, ""⟩)

def ofProvider (provider : String) : List Model :=
  known.filter fun m => m.provider.name == provider

def toJson (m : Model) : Json :=
  .obj [("id", .str m.id), ("label", .str m.label), ("provider", .str m.provider.name),
    ("description", .str m.description)]

end Model

/-- One key for each provider; an empty key is none. -/
structure Keys where
  google : String := ""
  openai : String := ""
  anthropic : String := ""
  deriving DecidableEq, Inhabited

namespace Keys

def read : Reader Keys :=
  Reader.record "ApiKeys" fun fields =>
    Keys.mk
      <$> Reader.withDefault fields "gemini" "" Reader.text
      <*> Reader.withDefault fields "openai" "" Reader.text
      <*> Reader.withDefault fields "anthropic" "" Reader.text

def ofJson (v : Json) : Outcome Keys := do
  (read (.obj (← v.asMapping))).toOutcome

def key (keys : Keys) : Provider → String
  | .google => keys.google
  | .openai => keys.openai
  | .anthropic => keys.anthropic

-- Unknown providers have no key.
def keyFor (keys : Keys) (provider : String) : String :=
  ((Provider.ofName? provider).map keys.key).getD ""

def toJson (keys : Keys) : Json :=
  .obj [("gemini", .str keys.google), ("openai", .str keys.openai),
    ("anthropic", .str keys.anthropic)]

end Keys

end PromptStudio
