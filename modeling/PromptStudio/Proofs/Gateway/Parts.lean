import Mathlib.Data.List.Basic
import PromptStudio.Gateway.Gateway

set_option autoImplicit false

namespace PromptStudio

theorem intercalate_cons_eq_join (separator first : String) (rest : List String) :
    separator.intercalate (first :: rest) =
      first ++ String.join (rest.map fun text => separator ++ text) := by
  induction rest generalizing first with
  | nil => rw [String.intercalate_singleton, List.map_nil, String.join_nil, String.append_empty]
  | cons next rest ih =>
    rw [String.intercalate_cons_cons, ih, List.map_cons, String.join_cons, String.append_assoc,
      String.append_assoc]

namespace Attachment

def referenceLines (attachments : List Attachment) : String :=
  if attachments.isEmpty then ""
  else "\n\nAttached references:" ++ String.join (attachments.map fun a => "\n" ++ a.line)

theorem withReferences_eq (prompt : String) (attachments : List Attachment) :
    withReferences prompt attachments = prompt ++ referenceLines (references attachments) := by
  unfold withReferences referenceLines
  cases references attachments with
  | nil => exact String.append_empty.symm
  | cons a rest =>
    change prompt ++ "\n\nAttached references:\n" ++
      String.intercalate "\n" (a.line :: rest.map line) = _
    rw [intercalate_cons_eq_join, List.map_map]
    change _ = prompt ++ ("\n\nAttached references:" ++
      String.join (("\n" ++ a.line) :: rest.map fun b => "\n" ++ b.line))
    rw [String.join_cons, String.append_assoc, String.append_assoc]
    rfl

theorem images_append_references_perm (attachments : List Attachment) :
    (images attachments ++ references attachments).Perm attachments :=
  List.filter_append_perm isImage attachments

theorem read_toJson (a : Attachment) : read a.toJson = .ok a := rfl

end Attachment

/-- A part of what a model is shown: a text, or an image by its address, with its type where the
provider wants it. -/
inductive Part where
  | words (text : String)
  | image (url : String) (contentType : Option String)
  deriving DecidableEq

namespace Part

def words? : Part → Option String
  | .words text => some text
  | .image .. => none

def image? : Part → Option (String × Option String)
  | .words _ => none
  | .image url contentType => some (url, contentType)

def ofJson? (provider : Provider) (v : Json) : Option Part :=
  match provider, (v.field "type").asText? with
  | .google, _ =>
    match (v.field "text").asText? with
    | some text => some (.words text)
    | none => do
      return .image (← (v.field "file_uri").asText?) (some (← (v.field "mime_type").asText?))
  | _, some "text" => (v.field "text").asText?.map .words
  | .openai, some "image_url" => do
    return .image (← ((v.field "image_url").field "url").asText?) none
  | .anthropic, some "image" => do
    return .image (← ((v.field "source").field "url").asText?) none
  | _, _ => none

def listOf? (provider : Provider) : Json → Option (List Part)
  | .str text => some [.words text]
  | .arr items => items.mapM (ofJson? provider)
  | _ => none

/-- The content that a request holds for the model, in the one message of the user where there are
messages. -/
def contentOf? (provider : Provider) (request : Json) : Option Json :=
  match provider with
  | .google => some (request.field "contents")
  | _ => do
    let messages ← (request.field "messages").asItems?
    match messages.filter fun m => (m.field "role").asText? == some "user" with
    | [message] => some (message.field "content")
    | _ => none

def shownBy? (provider : Provider) (request : Json) : Option (List Part) :=
  (contentOf? provider request).bind (listOf? provider)

end Part

namespace Call

variable {c : Call}

def imagePart (c : Call) (a : Attachment) : Part :=
  .image a.url (if c.provider = .google then some a.contentType else none)

/-- What a call shows: one text, with the images behind it or before it. -/
def parts (c : Call) : List Part :=
  if c.provider = .anthropic then c.images.map c.imagePart ++ [.words c.text]
  else .words c.text :: c.images.map c.imagePart

theorem listOf?_content {provider : Provider} {items : List Json} {parts : List Part}
    (read : items.mapM (Part.ofJson? provider) = some parts)
    (single : c.images = [] → parts = [.words c.text]) :
    Part.listOf? provider (c.content items) = some parts := by
  unfold content
  cases images : c.images with
  | nil =>
    rw [single images]
    rfl
  | cons a rest => exact read

theorem mapM_images (provider : Provider) (image : Attachment → Json)
    (each : ∀ a, Part.ofJson? provider (image a) = some (c.imagePart a)) :
    (c.images.map image).mapM (Part.ofJson? provider) = some (c.images.map c.imagePart) := by
  have pure : Part.ofJson? provider ∘ image = fun a => some (c.imagePart a) := funext each
  rw [List.mapM_map, pure]
  exact List.mapM_pure

theorem contentOf?_openai (c : Call) : Part.contentOf? .openai c.openai =
    some (c.content (c.textPart :: c.images.map openaiImage)) := by
  unfold openai
  cases c.system == "" <;> rfl

theorem shownBy?_request (c : Call) : Part.shownBy? c.provider c.request = some c.parts := by
  unfold Part.shownBy? parts request
  cases provider : c.provider with
  | openai =>
    have images := c.mapM_images .openai openaiImage fun a => by
      rw [imagePart, provider]
      rfl
    rw [contentOf?_openai, Option.bind_some]
    refine listOf?_content ?_ fun imageless => by rw [imageless]; rfl
    rw [List.mapM_cons, images]
    rfl
  | anthropic =>
    have images := c.mapM_images .anthropic anthropicImage fun a => by
      rw [imagePart, provider]
      rfl
    change Part.listOf? .anthropic (c.content (c.images.map anthropicImage ++ [c.textPart])) = _
    refine listOf?_content ?_ fun imageless => by rw [imageless]; rfl
    rw [List.mapM_append, images]
    rfl
  | google =>
    have images := c.mapM_images .google googleImage fun a => by
      rw [imagePart, provider]
      rfl
    change Part.listOf? .google
      (c.content (.obj [("text", .str c.text)] :: c.images.map googleImage)) = _
    refine listOf?_content ?_ fun imageless => by rw [imageless]; rfl
    rw [List.mapM_cons, images]
    rfl

theorem words_parts (c : Call) : c.parts.filterMap Part.words? =
    [c.user ++ Attachment.referenceLines (Attachment.references c.attachments)] := by
  have wordless : (c.images.map c.imagePart).filterMap Part.words? = [] := by
    rw [List.filterMap_map]
    exact List.filterMap_eq_nil_iff.mpr fun _ _ => rfl
  rw [← Attachment.withReferences_eq, parts]
  split
  next =>
    rw [List.filterMap_append, wordless]
    rfl
  next =>
    change c.text :: (c.images.map c.imagePart).filterMap Part.words? = _
    rw [wordless]
    rfl

theorem images_parts (c : Call) : c.parts.filterMap Part.image? =
    (Attachment.images c.attachments).map fun a =>
      (a.url, if c.provider = .google then some a.contentType else none) := by
  have all : (c.images.map c.imagePart).filterMap Part.image? =
      c.images.map fun a =>
        (a.url, if c.provider = .google then some a.contentType else none) := by
    rw [List.filterMap_map, ← List.filterMap_eq_map]
    rfl
  rw [parts]
  split
  next =>
    rw [List.filterMap_append, all]
    exact List.append_nil _
  next => exact all

def addressee (model : String) (credentials : Json) : Outcome (Model × String) := do
  let some m := Model.find? model | throw (unknownModel model)
  let key := (← Keys.ofJson credentials).key m.provider
  if key == "" then throw (missingKey m)
  return (m, key)

theorem prepare_eq (settings : Settings) (model user system : String) (credentials : Json)
    (options : CallOptions) :
    prepare settings model user system credentials options =
      addressee model credentials >>= fun (m, key) =>
        match options.attachments.mapM fun a => (Attachment.read a).toOutcome with
        | .error f => .error (reported m.provider m.id f)
        | .ok attachments => .ok {
            provider := m.provider
            model := m.id
            key := key
            user := user
            system := system
            attachments := attachments
            jsonMode := options.jsonMode
            temperature := options.temperature
            maxTokens :=
              if options.maxTokens.getD 0 = 0 then settings.maxTokens
              else options.maxTokens.getD 0 } := by
  unfold prepare addressee
  cases Model.find? model with
  | none => rfl
  | some m =>
    cases Keys.ofJson credentials with
    | error f => rfl
    | ok keys =>
      change (if keys.key m.provider == "" then _ else _) =
        (if keys.key m.provider == "" then _ else _) >>= _
      split
      next => rfl
      next => cases options.attachments.mapM fun a => (Attachment.read a).toOutcome <;> rfl

theorem prepare_shown (settings : Settings) (model user system : String) (credentials : Json)
    (options : CallOptions) (attachments : List Attachment) :
    prepare settings model user system credentials
        { options with attachments := attachments.map Attachment.toJson } =
      (prepare settings model "" system credentials { options with attachments := [] }).map
        fun c => { c with user := user, attachments := attachments } := by
  have read : (attachments.map Attachment.toJson).mapM (m := Outcome)
      (fun v => (Attachment.read v).toOutcome) = .ok attachments := by
    have each : (fun v => (Attachment.read v).toOutcome) ∘ Attachment.toJson = pure :=
      funext fun a => congrArg Checked.toOutcome a.read_toJson
    rw [List.mapM_map, each]
    exact List.mapM_pure.trans (congrArg Except.ok attachments.map_id)
  rw [prepare_eq, prepare_eq, read]
  cases addressee model credentials <;> rfl

theorem prepare_system (settings : Settings) (model user system system' : String)
    (credentials : Json) (options : CallOptions) :
    prepare settings model user system' credentials options =
      (prepare settings model user system credentials options).map
        fun c => { c with system := system' } := by
  rw [prepare_eq, prepare_eq]
  cases addressee model credentials with
  | error f => rfl
  | ok found => cases options.attachments.mapM fun a => (Attachment.read a).toOutcome <;> rfl

end Call

end PromptStudio
