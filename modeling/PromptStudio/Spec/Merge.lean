import PromptStudio.Form.Mapping
import PromptStudio.Spec.Basic

set_option autoImplicit false

/-!
# Merging updates

An update replaces the fields it names and keeps the rest. A value that does not fit its field is
dropped, and the old value stays. Reasons are merged one by one.
-/

namespace PromptStudio

def spellings : List (String × String) :=
  [("typeSpecific", "type_specific"), ("outputType", "output_type"),
    ("generatedAt", "generated_at")]

def respell (key : String) : String := (spellings.lookup key).getD key

-- The fields of an update under their kept spelling; what is empty has none.
def normalizeUpdates (v : Json) : Outcome Section :=
  (v.entriesFor "items").map fun fields =>
    Entries.ofPairs (fields.map fun (key, v) => (respell key, v))

def restore (current merged : Section) (key : String) : Section :=
  match Entries.get? current key with
  | some v => Entries.put merged key v
  | none => Entries.drop merged key

-- Lay `updates` over `current`, except where the form refuses them.
def foldSection (form : Form) (current updates extra : Section) : Section :=
  let merged := Entries.overlay current updates
  (form.refused (Entries.overlay merged extra)).foldl (restore current) merged

def updatesFor (patch : Section) (key : String) : Option Section :=
  match Entries.get? patch key with
  | some (.obj (entry :: rest)) => some (entry :: rest)
  | _ => none

-- A scalar of an update, unless it is null.
def scalarFor (patch : Section) (key : String) : Option Json :=
  match Entries.get? patch key with
  | some .null => none
  | found => found

namespace PromptSpec

def reasoningUpdates (s : PromptSpec) (updates : Section) : Section :=
  match Section.value updates "reasoning" with
  | .obj given =>
    let held := ((Section.value s.inferred "reasoning").asFields?).getD []
    Entries.put updates "reasoning" (.obj (Entries.overlay held given))
  | _ => updates

def mergedShared (s : PromptSpec) (patch : Section) (name : SectionName) : Section :=
  match updatesFor patch name.key with
  | some updates => foldSection name.form (s.shared name) updates []
  | none => s.shared name

def mergedInferred (s : PromptSpec) (patch : Section) : Section :=
  match updatesFor patch "inferred" with
  | some updates => foldSection inferredForm s.inferred (s.reasoningUpdates updates) []
  | none => s.inferred

def mergedTag (s : PromptSpec) (patch : Section) : Json :=
  (scalarFor patch "output_type").getD (Json.ofOption .str s.outputType)

def mergedTypeSpecific (s : PromptSpec) (patch : Section) : Section :=
  match updatesFor patch "type_specific" with
  | some updates =>
    let tag := s.mergedTag patch
    foldSection (typeForm tag) s.typeSpecific updates [("output_type", tag)]
  | none => s.typeSpecific

-- A moment of an update, or the one that is there.
def mergedMoment (s : PromptSpec) (patch : Section) : Checked (Option Moment) :=
  match scalarFor patch "generated_at" with
  | some v => (momentReader v).under "generated_at"
  | none => .ok s.generatedAt

def mergedParts (s : PromptSpec) (patch typeSpecific : Section) : Parts where
  version := (match scalarFor patch "version" with
    | some v => versionReader v
    | none => .ok s.version).under "version"
  outputType := (versionReader (s.mergedTag patch)).under "output_type"
  generatedAt := s.mergedMoment patch
  shared name := (name.form.fill (s.mergedShared patch name)).under name.key
  inferred := (inferredForm.fill (s.mergedInferred patch)).under "inferred"
  typeSpecific := typeSpecific

def mergePatch (s : PromptSpec) (patch : Section) : Checked PromptSpec :=
  match bindType (s.mergedTag patch) (.obj (s.mergedTypeSpecific patch)) with
  | .ok typeSpecific => ofParts (s.mergedParts patch typeSpecific)
  | .bad problems => .bad problems
  | .stop failure => .stop failure

def merge (s : PromptSpec) (updates : Json) : Outcome PromptSpec := do
  let patch ← normalizeUpdates updates
  (s.mergePatch patch).toOutcome

def mergeAt (s : PromptSpec) (now : Moment) (updates : Section) : Outcome PromptSpec := do
  let merged ← (s.mergePatch updates).toOutcome
  return { merged with generatedAt := some now }

-- The form that a part of an update is checked against when it is a filled form itself.
def partForm? (s : PromptSpec) (patch : Section) (key : String) : Option Form :=
  match key with
  | "type_specific" => some (typeForm (s.mergedTag patch))
  | "inferred" => some inferredForm
  | key => (SectionName.all.find? (·.key == key)).map SectionName.form

-- Merge parts that are filled forms: a part that does not fit its form refuses the whole.
def mergeForms (s : PromptSpec) (updates : Json) : Outcome PromptSpec := do
  let patch ← normalizeUpdates updates
  let checked ← patch.mapM fun (key, v) =>
    match s.partForm? patch key with
    | some form => (form.readGiven v).toOutcome.map fun given => (key, Json.obj given)
    | none => .ok (key, v)
  (s.mergePatch checked).toOutcome

def givenPatch (fields : Section) (loaded : PromptSpec) : Section :=
  let has (key : String) : Bool := Entries.has fields key
  let part (key : String) (form : Form) : Section :=
    match (Entries.get? fields key).map form.readGiven with
    | some (.ok given) => [(key, .obj given)]
    | _ => []
  let tag := tagIn fields
  let own : Section :=
    match spread (rawTypeSpecific fields) with
    | .ok given =>
      match (typeForm tag).given (Entries.put given "output_type" tag) with
      | .ok given => [("type_specific", .obj given)]
      | _ => []
    | .error _ => []
  (if has "version" then [("version", Json.ofOption .str loaded.version)] else []) ++
    (if has "output_type" || has "outputType" then
      [("output_type", Json.ofOption .str loaded.outputType)] else []) ++
    (if has "generated_at" || has "generatedAt" then
      [("generated_at", Json.ofOption (fun m => .str m.iso) loaded.generatedAt)] else []) ++
    SectionName.all.flatMap (fun name => part name.key name.form) ++ own ++
    part "inferred" inferredForm

def mergeLoaded (s : PromptSpec) (other : Json) : Outcome PromptSpec := do
  let loaded ← (load other).toOutcome
  match other with
  | .obj fields => (s.mergePatch (givenPatch fields loaded)).toOutcome
  | _ => .ok s

end PromptSpec

end PromptStudio
