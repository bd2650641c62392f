set_option autoImplicit false

/-!
# Causes of failure

One type for every way an operation can end without a result, and the wording of each.
-/

namespace PromptStudio

/-- A field of a form that does not hold what it should, with the way to it. -/
structure Problem where
  path : List String
  message : String
  deriving DecidableEq, Inhabited

def Problem.line (p : Problem) : String := String.intercalate "." p.path ++ ": " ++ p.message

/-- What was asked of a value that cannot do it. -/
inductive FaultKind where
  | wrongType
  | noMember
  | missingKey
  | outOfRange
  | badValue
  | tooLarge
  | undecodable
  | zeroDivisor
  | notFound
  deriving DecidableEq, Inhabited

structure Fault where
  kind : FaultKind
  message : String
  deriving DecidableEq, Inhabited

/-- What a model provider's failure means to the caller. -/
inductive ErrorKind where
  | unavailable
  | rateLimited
  | badRequest
  | invalidCredential
  | timeout
  | unknown
  deriving DecidableEq, Inhabited

/-- The failure that stands behind a model error. -/
inductive Cause where
  | reported
  | runtime
  | value
  | timeout
  | cancelled
  | fault (kind : FaultKind)
  | invalid
  deriving DecidableEq, Inhabited

/-- Which of the model errors it is. -/
inductive ModelErrorForm where
  | general
  | missingCredential
  | timeout
  | undecodable (raw : String)
  deriving DecidableEq, Inhabited

structure ModelError where
  form : ModelErrorForm
  kind : ErrorKind
  message : String
  provider : String
  model : String
  cause : Option Cause
  deriving DecidableEq, Inhabited

/-- What a provider's report says inside its body. -/
inductive Detail where
  | absent
  | text (message : String)
  | unmeasured (fault : Fault)
  deriving DecidableEq, Inhabited

/-- A failure as a provider reports it. -/
structure Report where
  message : String
  status : Option Int := none
  detail : Detail := .absent
  deriving DecidableEq, Inhabited

inductive Failure where
  | fault (fault : Fault)
  | invalid (problems : List Problem)
  | unknownOutputType (shown : String)
  | specNotFound (shown : String)
  | matrixConfigMissing
  | matrixAxesNotLists
  | matrixTooLarge (cells : Nat) (cap : Int)
  | model (error : ModelError)
  | generation (reason : String)
  | cancelled (message : String)
  | reported (report : Report)
  | runtime (message : String)
  | value (message : String)
  | timeout (message : String)
  deriving DecidableEq, Inhabited

def outputTypeNames : List String := ["deck", "doc", "data", "code", "copy", "comms"]

def Failure.message : Failure → String
  | .fault f => f.message
  | .invalid problems => String.intercalate "; " (problems.map Problem.line)
  | .unknownOutputType shown =>
    "Unknown output type: " ++ shown ++ ". Must be one of: " ++
      String.intercalate ", " outputTypeNames
  | .specNotFound shown => "No prompt spec found for " ++ shown
  | .matrixConfigMissing => "Config object is required"
  | .matrixAxesNotLists => "All config properties (tones, lengths, formats) must be arrays"
  | .matrixTooLarge cells cap =>
    "Matrix has " ++ toString cells ++ " cells; the limit is " ++ toString cap
  | .model error => error.message
  | .generation reason => "Prompt generation failed: " ++ reason
  | .cancelled message => message
  | .reported report => report.message
  | .runtime message => message
  | .value message => message
  | .timeout message => message

abbrev Outcome (α : Type) := Except Failure α

theorem Outcome.bind_eq_ok {α β : Type} {x : Outcome α} {f : α → Outcome β} {b : β} :
    (x >>= f) = .ok b ↔ ∃ a, x = .ok a ∧ f a = .ok b := by
  cases x <;> simp [bind, Except.bind]

namespace Failure

def wrongType (message : String) : Failure := .fault ⟨.wrongType, message⟩
def noMember (message : String) : Failure := .fault ⟨.noMember, message⟩
def missingKey (message : String) : Failure := .fault ⟨.missingKey, message⟩
def outOfRange (message : String) : Failure := .fault ⟨.outOfRange, message⟩
def badValue (message : String) : Failure := .fault ⟨.badValue, message⟩
def tooLarge (message : String) : Failure := .fault ⟨.tooLarge, message⟩
def undecodable (message : String) : Failure := .fault ⟨.undecodable, message⟩
def notFound (message : String) : Failure := .fault ⟨.notFound, message⟩
def zeroDivisor (message : String) : Failure := .fault ⟨.zeroDivisor, message⟩

end Failure

end PromptStudio
