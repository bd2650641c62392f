import PromptStudio.Spec.Merge
import PromptStudio.Text.Case

set_option autoImplicit false

/-!
# Validation

Errors make a spec invalid. Another version, a word that is not known and doubts about the type's
own part are only warned of.
-/

namespace PromptStudio

structure Validation where
  errors : List String
  warnings : List String
  deriving DecidableEq, Inhabited

namespace Validation

def valid (v : Validation) : Bool := v.errors.isEmpty

def toJson (v : Validation) : Json :=
  .obj [("valid", .bool v.valid), ("errors", Json.texts v.errors),
    ("warnings", Json.texts v.warnings)]

def listing (title : String) (lines : List String) : List String :=
  (title ++ " (" ++ toString lines.length ++ "):") :: lines.map ("  - " ++ ·)

def report (v : Validation) : String :=
  if v.valid && v.warnings.isEmpty then "Spec is valid"
  else String.intercalate "\n" <|
    (if v.valid then [] else listing "Errors" v.errors) ++
      (if v.warnings.isEmpty then [] else listing "Warnings" v.warnings)

end Validation

def urgencyWords : List String := ["low", "normal", "high", "critical"]

def expertiseWords : List String := ["novice", "general", "expert", "mixed"]

def lengthWords : List String := ["short", "medium", "long"]

def languages : List String :=
  ["javascript", "typescript", "python", "java", "go", "rust", "csharp", "ruby", "php", "swift",
    "kotlin", "cpp", "c", "scala", "sql", "bash"]

-- Frameworks by language, in the order in which a framework is looked for.
def frameworks : List (String × List String) :=
  [("javascript", ["react", "vue", "angular", "express", "nextjs", "node"]),
    ("typescript", ["react", "vue", "angular", "express", "nextjs", "nestjs"]),
    ("python", ["django", "flask", "fastapi", "pytorch", "tensorflow"]),
    ("java", ["spring", "springboot", "quarkus", "micronaut"]),
    ("go", ["gin", "echo", "fiber", "chi"]),
    ("rust", ["actix", "rocket", "axum", "tokio"]),
    ("csharp", ["aspnet", "blazor", "maui", "unity"]),
    ("ruby", ["rails", "sinatra", "hanami"]),
    ("php", ["laravel", "symfony", "codeigniter"]),
    ("swift", ["swiftui", "uikit", "vapor"]),
    ("kotlin", ["ktor", "springboot", "android"])]

def warningsWhere (rules : List (Bool × String)) : List String :=
  (rules.filter (·.1)).map (·.2)

def deckWarnings (s : Section) : List String :=
  match Section.value s "slide_count" with
  | .int n => warningsWhere
    [(decide (n < 1), "Slide count must be at least 1"),
      (decide (100 < n), "Slide count over 100 may be too long for most presentations"),
      (decide (50 < n), "Consider breaking into multiple presentations")]
  | _ => []

def codeWarnings (s : Section) : List String :=
  let shown := Section.text s "language"
  let language := lower shown
  let framework := Section.text s "framework"
  let uncommon :=
    match frameworks.lookup language with
    | some known => framework != "" && !known.contains (lower framework)
    | none => false
  warningsWhere
    [(language == "", "No language specified - will attempt to infer from context"),
      (language != "" && !languages.contains language,
        "Language \"" ++ shown ++ "\" is not in common list - ensure it's valid"),
      (uncommon, "Framework \"" ++ framework ++ "\" may not be common for " ++ shown),
      (Section.text s "error_handling" == "minimal" && Section.flag s "include_tests",
        "Minimal error handling with tests may lead to poor test coverage")]

def docWarnings (s : Section) : List String :=
  let memo := Section.text s "document_type" == "memo"
  warningsWhere
    [(Section.flag s "include_toc" && (Section.items s "section_structure").length < 3,
        "Table of contents may not be useful with fewer than 3 sections"),
      (Section.flag s "citation_style" && memo,
        "Memos typically do not require formal citations"),
      (Section.flag s "include_executive_summary" && memo,
        "Memos typically do not include executive summaries")]

def dataWarnings (s : Section) : List String :=
  let format := Section.text s "output_format"
  warningsWhere
    [(format == "csv" && Section.flag s "relationships",
        "CSV format may not represent relationships well - consider JSON"),
      (format == "table" && decide (5 < (Section.items s "aggregations").length),
        "Many aggregations may be hard to display in a single table"),
      (format == "csv" && !Section.flag s "include_headers",
        "CSV without headers may be difficult to interpret")]

def copyWarnings (s : Section) : List String :=
  let social := Section.text s "copy_type" == "social"
  warningsWhere
    [(social && !Section.flag s "platform",
        "Social copy benefits from knowing the target platform"),
      (social && Section.text s "emotional_appeal" == "fear",
        "Fear-based appeals may perform poorly on social platforms")]

def commsWarnings (s : Section) : List String :=
  let channel := Section.text s "channel"
  warningsWhere
    [(channel == "sms" && decide (1 < (Section.items s "action_items").length),
        "SMS with multiple action items may be too long"),
      (channel == "slack" && Section.text s "formality_level" == "formal",
        "Formal tone may feel out of place in Slack"),
      (channel == "letter" && !Section.flag s "include_signature",
        "Letters typically include a signature"),
      (channel == "letter" && Section.text s "response_urgency" == "asap",
        "Letters are not suitable for urgent communications"),
      (Section.flag s "thread_context" && Section.flag s "include_greeting",
        "Replies in a thread may not need a full greeting")]

def OutputType.warnings : OutputType → Section → List String
  | .deck => deckWarnings
  | .doc => docWarnings
  | .data => dataWarnings
  | .code => codeWarnings
  | .copy => copyWarnings
  | .comms => commsWarnings

def Problem.typeLine (p : Problem) : String :=
  "type_specific." ++ String.intercalate "." p.path ++ ": " ++ p.message

-- What is wrong with the part of a known type, or doubtful about it.
def typeWarnings (t : OutputType) (raw : Json) : Outcome (List String) := do
  let given ← PromptSpec.spread raw
  match t.form.fill (Entries.put given "output_type" (.str t.name)) with
  | .ok filled => return t.warnings filled
  | .bad problems => return problems.map Problem.typeLine
  | .stop failure => throw failure

def wordWarning (label : String) (known : List String) (word : Json) : List String :=
  if word.truthy && !known.any (fun k => word.equals (.str k)) then
    ["Invalid " ++ label ++ ": " ++ word.display]
  else []

def isKnownType (v : Json) : Bool := (outputTypeOf? v).isSome

def headerErrors (fields : Section) : List String :=
  let outputType := Section.value fields "output_type"
  (if (Section.value fields "version").truthy then [] else ["Missing version"]) ++
    (if !outputType.truthy then ["Missing outputType"]
     else if isKnownType outputType then []
     else ["Invalid outputType: " ++ outputType.display ++ ". Must be one of: " ++
       String.intercalate ", " outputTypeNames])

def intentErrors (fields : Section) : List String :=
  match Section.value fields "intent" with
  | .obj intent =>
    if (Section.value intent "primary_goal").truthy then [] else ["Missing intent.primary_goal"]
  | _ => ["Missing intent object"]

def versionWarnings (fields : Section) : List String :=
  let version := Section.value fields "version"
  if version.truthy && !version.equals (.str schemaVersion) then
    ["Spec version " ++ version.display ++ " differs from current " ++ schemaVersion]
  else []

def wordWarnings (fields : Section) : List String :=
  wordWarning "urgency" urgencyWords ((Section.value fields "intent").field "urgency") ++
    wordWarning "expertise_level" expertiseWords
      ((Section.value fields "audience").field "expertise_level") ++
    wordWarning "length" lengthWords ((Section.value fields "constraints").field "length")

def ownWarnings (fields : Section) : Outcome (List String) :=
  match outputTypeOf? (Section.value fields "output_type") with
  | some t => typeWarnings t (Section.value fields "type_specific")
  | none => .ok []

def validateFields (fields : Section) : Outcome Validation := do
  let own ← ownWarnings fields
  return ⟨headerErrors fields ++ intentErrors fields,
    versionWarnings fields ++ wordWarnings fields ++ own⟩

-- Validate an object of any shape; null is no spec at all.
def validate : Json → Outcome Validation
  | .null => .ok ⟨["Spec is missing"], []⟩
  | v => do validateFields (← normalizeUpdates v)

def PromptSpec.validate (s : PromptSpec) : Outcome Validation := validateFields (s.toFields .null)

-- The cheap check: a version, an output type and a goal are there.
def minimallyValid : Json → Outcome Bool
  | .null => .ok false
  | v => do
    let fields ← normalizeUpdates v
    let intent := Section.value fields "intent"
    if !(Section.value fields "version").truthy then return false
    if !(Section.value fields "output_type").truthy then return false
    if !intent.truthy then return false
    return (Section.value (← intent.ownEntries "get") "primary_goal").truthy

def PromptSpec.minimallyValid (s : PromptSpec) : Bool :=
  s.version.getD "" != "" && s.outputType.getD "" != "" &&
    Section.text s.intent "primary_goal" != ""

end PromptStudio
