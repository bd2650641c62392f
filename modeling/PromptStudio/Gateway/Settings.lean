import PromptStudio.Gateway.Model
import PromptStudio.Text.Numeral
import PromptStudio.Text.Pathname

set_option autoImplicit false

/-!
# Settings

Which model plays which part, how warm it is, and the limits of calls and matrices. Settings are
read from named variables; a variable that is not set leaves its default.
-/

namespace PromptStudio

inductive Role where
  | architect
  | executor
  | judge
  | analysis
  | generation
  deriving DecidableEq, Inhabited

namespace Role

def name : Role → String
  | .architect => "architect"
  | .executor => "executor"
  | .judge => "judge"
  | .analysis => "analysis"
  | .generation => "generation"

def all : List Role := [.architect, .executor, .judge, .analysis, .generation]

def ofName? (name : String) : Option Role := all.find? fun r => r.name == name

def temperature : Role → Binary64
  | .architect => .ofRat (7 / 10)
  | .executor => .ofRat (7 / 10)
  | .judge => .ofRat (1 / 5)
  | .analysis => .ofRat (3 / 10)
  | .generation => .ofRat (7 / 10)

def variableName : Role → String
  | .architect => "ARCHITECT_MODEL"
  | .executor => "EXECUTION_MODEL"
  | .judge => "JUDGE_MODEL"
  | .analysis => "ANALYSIS_MODEL"
  | .generation => "GENERATION_MODEL"

-- The model of a role that no variable names; two roles take the common one.
def standardModel (common : String) : Role → String
  | .architect => "gemini-2.5-flash"
  | .executor => "gpt-4o-mini"
  | .judge => "claude-sonnet-4-20250514"
  | .analysis => common
  | .generation => common

end Role

structure Settings where
  keys : Keys := {}
  requestSeconds : Binary64 := .finite 30
  maxTokens : Int := 4096
  matrixCap : Int := 60
  commonModel : String := "gemini-2.5-flash"
  models : Role → String := Role.standardModel "gemini-2.5-flash"
  outputDirectory : String := "outputs"
  logLevel : String := "INFO"

namespace Settings

def valueOf (environment : Entries String) (name default : String) : String :=
  (Entries.get? environment name).getD default

def numberIn (environment : Entries String) (name default : String) : Outcome Binary64 :=
  match numberOf? (valueOf environment name default).toList with
  | some x => .ok x
  | none => .error (.badValue "could not convert string to float")

def integerIn (environment : Entries String) (name default : String) : Outcome Int :=
  match integerOf? (valueOf environment name default).toList with
  | some n => .ok n
  | none => .error (.badValue "invalid literal for an integer")

def relativePath (name : String) : Outcome String :=
  let path := Pathname.ofText name
  if path.root == "" then .ok path.text
  else .error (.badValue "the path does not start from the working directory")

def variableNames : List String :=
  ["OUTPUT_DIR", "GOOGLE_API_KEY", "OPENAI_API_KEY", "ANTHROPIC_API_KEY",
    "REQUEST_TIMEOUT_SECONDS", "MAX_OUTPUT_TOKENS", "MATRIX_MAX_CELLS", "DEFAULT_MODEL",
    "LOG_LEVEL"] ++ Role.all.map Role.variableName

def ofEnvironment (environment : Entries String) : Outcome Settings := do
  let common := valueOf environment "DEFAULT_MODEL" "gemini-2.5-flash"
  return {
    outputDirectory := ← relativePath (valueOf environment "OUTPUT_DIR" "outputs")
    keys := {
      google := valueOf environment "GOOGLE_API_KEY" ""
      openai := valueOf environment "OPENAI_API_KEY" ""
      anthropic := valueOf environment "ANTHROPIC_API_KEY" "" }
    requestSeconds := ← numberIn environment "REQUEST_TIMEOUT_SECONDS" "30"
    maxTokens := ← integerIn environment "MAX_OUTPUT_TOKENS" "4096"
    matrixCap := ← integerIn environment "MATRIX_MAX_CELLS" "60"
    commonModel := common
    models := fun role => valueOf environment role.variableName (role.standardModel common)
    logLevel := valueOf environment "LOG_LEVEL" "INFO" }

-- How calls of a role are made; a role that is not known gets the common model.
def roleJson (s : Settings) (role : String) : Json :=
  let known := Role.ofName? role
  .obj [("model", .str ((known.map s.models).getD s.commonModel)),
    ("temperature", .float ((known.map Role.temperature).getD (.ofRat (7 / 10)))),
    ("max_tokens", .int s.maxTokens)]

def toFields (s : Settings) : Entries Json :=
  [("OPENAI_API_KEY", .str s.keys.openai), ("ANTHROPIC_API_KEY", .str s.keys.anthropic),
    ("GOOGLE_API_KEY", .str s.keys.google),
    ("REQUEST_TIMEOUT_SECONDS", .float s.requestSeconds),
    ("MAX_OUTPUT_TOKENS", .int s.maxTokens), ("MATRIX_MAX_CELLS", .int s.matrixCap),
    ("DEFAULT_MODEL", .str s.commonModel), ("ARCHITECT_MODEL", .str (s.models .architect)),
    ("EXECUTION_MODEL", .str (s.models .executor)), ("JUDGE_MODEL", .str (s.models .judge)),
    ("LOG_LEVEL", .str s.logLevel)]

end Settings

end PromptStudio
