import PromptStudio.Gateway.Attachment
import PromptStudio.Gateway.Model
import PromptStudio.Text.Blank

set_option autoImplicit false

/-!
# Requests to providers

One call, three ways to write it: each provider has its own places for the system text, the images
and the limits.
-/

namespace PromptStudio

/-- A call that is ready to be sent. -/
structure Call where
  provider : Provider
  model : String
  key : String
  user : String
  system : String
  attachments : List Attachment := []
  jsonMode : Bool := false
  temperature : Json := .null
  maxTokens : Int
  deriving Inhabited

namespace Call

def client (c : Call) : Json :=
  match c.provider with
  | .google => .obj [("api_key", .str c.key)]
  | _ => .obj [("api_key", .str c.key), ("max_retries", .int 0)]

def text (c : Call) : String := withReferences c.user c.attachments

def images (c : Call) : List Attachment := Attachment.images c.attachments

def textPart (c : Call) : Json := .obj [("type", .str "text"), ("text", .str c.text)]

-- The text alone, or the given parts where there are images.
def content (c : Call) (parts : List Json) : Json :=
  if c.images.isEmpty then .str c.text else .arr parts

def fieldIf (key : String) (v : Json) : Entries Json := if v.isNull then [] else [(key, v)]

def userMessage (content : Json) : Json := .obj [("role", .str "user"), ("content", content)]

-- Models that call their limit by its newer name.
def newerFamilies : List String := ["gpt-4o", "gpt-4.1", "gpt-4.5", "gpt-5", "o1", "o3", "o4"]

def limitName (model : String) : String :=
  if newerFamilies.any fun start => Model.beginsWith start model then "max_completion_tokens"
  else "max_tokens"

def openaiImage (a : Attachment) : Json :=
  .obj [("type", .str "image_url"), ("image_url", .obj [("url", .str a.url)])]

def openai (c : Call) : Json :=
  let system :=
    if c.system == "" then []
    else [Json.obj [("role", .str "system"), ("content", .str c.system)]]
  let content := c.content (c.textPart :: c.images.map openaiImage)
  .obj ([("model", .str c.model), ("messages", .arr (system ++ [userMessage content])),
      (limitName c.model, .int c.maxTokens)] ++
    fieldIf "temperature" c.temperature ++
    (if c.jsonMode then [("response_format", .obj [("type", .str "json_object")])] else []))

def jsonInstruction : String :=
  "\n\nIMPORTANT: Respond ONLY with a valid JSON object. No markdown fences, no explanation, " ++
    "no preamble."

def anthropicImage (a : Attachment) : Json :=
  .obj [("type", .str "image"),
    ("source", .obj [("type", .str "url"), ("url", .str a.url)])]

-- The system text, with the instruction that asks for JSON.
def instructed (c : Call) : String :=
  trim (if c.jsonMode then c.system ++ jsonInstruction else c.system)

def anthropic (c : Call) : Json :=
  let content := c.content (c.images.map anthropicImage ++ [c.textPart])
  .obj ([("model", .str c.model), ("max_tokens", .int c.maxTokens),
      ("messages", .arr [userMessage content])] ++
    (if c.instructed == "" then [] else [("system", .str c.instructed)]) ++
    fieldIf "temperature" c.temperature)

def googleImage (a : Attachment) : Json :=
  .obj [("file_uri", .str a.url), ("mime_type", .str a.contentType)]

def google (c : Call) : Json :=
  .obj [("model", .str c.model),
    ("contents", c.content (.obj [("text", .str c.text)] :: c.images.map googleImage)),
    ("config", .obj
      [("system_instruction", if c.system == "" then .null else .str c.system),
        ("temperature", c.temperature), ("max_output_tokens", .int c.maxTokens),
        ("response_mime_type", if c.jsonMode then .str "application/json" else .null)])]

def request (c : Call) : Json :=
  match c.provider with
  | .openai => c.openai
  | .anthropic => c.anthropic
  | .google => c.google

end Call

end PromptStudio
