import PromptStudio.Form.Mapping
import PromptStudio.Text.Blank
import PromptStudio.Text.Case

set_option autoImplicit false

/-!
# What a failure means

Whatever goes wrong in a call becomes a model error with one of six kinds and a message that a
person can read.
-/

namespace PromptStudio

namespace Report

-- The first of two values that is an integer; truth values count as integers.
def statusOf (status code : Json) : Option Int :=
  (number? status).or (number? code)
where
  number? : Json → Option Int
    | .int n => some n
    | .bool b => some (if b then 1 else 0)
    | _ => none

-- Longer messages are cut.
def messageLimit : Nat := 300

def cutMessage (message : String) : String :=
  if messageLimit < message.length then cut messageLimit message ++ "..." else message

-- A message that is no text has no length, or cannot be cut.
def detailOf (message : Json) : Detail :=
  match message with
  | .str s => .text (cutMessage s)
  | .arr items =>
    if messageLimit < items.length then
      .unmeasured ⟨.wrongType, "can only concatenate list (not \"str\") to list"⟩
    else .text message.display
  | .obj fields =>
    if messageLimit < fields.length then .unmeasured ⟨.wrongType, "unhashable type: 'slice'"⟩
    else .text message.display
  | v => .unmeasured ⟨.wrongType, "object of type '" ++ v.typeName ++ "' has no len()"⟩

-- The message inside a body, which may stand one level deeper.
def detailIn (body : Json) : Detail :=
  match body with
  | .obj fields =>
    match (Entries.get? fields "error").getD body with
    | .obj inner =>
      let message := (Entries.get? inner "message").getD .null
      if message.truthy then detailOf message else .absent
    | _ => .absent
  | _ => .absent

end Report

namespace ErrorKind

def ofStatus (status : Int) : ErrorKind :=
  if status = 503 || status = 529 then .unavailable
  else if status = 429 then .rateLimited
  else if status = 401 || status = 403 then .invalidCredential
  else if status = 400 || status = 404 || status = 413 || status = 422 then .badRequest
  else .unknown

-- Without a status only the wording tells.
def ofWording (message : String) : ErrorKind :=
  let text := lowerChars message.toList
  if occursIn "unavailable".toList text || occursIn "overloaded".toList text then .unavailable
  else .unknown

def isFinal : ErrorKind → Bool
  | .badRequest => true
  | .invalidCredential => true
  | _ => false

end ErrorKind

namespace Failure

def kind : Failure → ErrorKind
  | .model e => e.kind
  | .timeout _ => .timeout
  | .reported report =>
    match report.status with
    | some status => .ofStatus status
    | none => .ofWording report.message
  | f => .ofWording f.message

def cause : Failure → Option Cause
  | .reported _ => some .reported
  | .runtime _ => some .runtime
  | .value _ => some .value
  | .timeout _ => some .timeout
  | .cancelled _ => some .cancelled
  | .fault f => some (.fault f.kind)
  | .invalid _ => some .invalid
  | _ => none

def wording (f : Failure) : Except Fault String :=
  match f with
  | .reported report =>
    match report.detail with
    | .absent => .ok (Report.cutMessage report.message)
    | .text message => .ok message
    | .unmeasured problem => .error problem
  | f => .ok (Report.cutMessage f.message)

def sentence (kind : ErrorKind) (provider model : String) (message : String) : String :=
  let place := "[" ++ provider ++ "/" ++ model ++ "] "
  match kind with
  | .badRequest => place ++ "Bad request: " ++ message
  | .rateLimited => place ++ "Rate limit exceeded: " ++ message
  | .unavailable => place ++ "Service temporarily unavailable: " ++ message
  | _ => place ++ message

-- The message of the model error; a wrong key is reported without the provider's words.
def explanation (f : Failure) (provider model : String) : Except Fault String :=
  match f.kind with
  | .invalidCredential =>
    .ok ("[" ++ provider ++ "] Authentication failed: check the " ++ provider ++ " API key.")
  | kind => f.wording.map fun message => sentence kind provider model message

-- The failure as a model error; one that cannot be explained is a fault.
def asModelError (f : Failure) (provider model : String) : Failure :=
  match f with
  | .model e => .model e
  | f =>
    match f.explanation provider model with
    | .ok message => .model ⟨.general, f.kind, message, provider, model, f.cause⟩
    | .error problem => .fault problem

def isRetryable : Failure → Bool
  | .model e => !e.kind.isFinal
  | _ => false

end Failure

end PromptStudio
