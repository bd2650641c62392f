import PromptStudio.Gateway.Request
import PromptStudio.Gateway.Settings
import PromptStudio.Reply.Decode
import PromptStudio.Session.Exchange

set_option autoImplicit false

/-!
# The gateway

One way to call any model. A call that cannot be made fails before anything is sent; what goes
wrong later ends in a model error. Only one provider's calls are tried again.
-/

namespace PromptStudio

structure CallOptions where
  attachments : List Json := []
  jsonMode : Bool := false
  temperature : Json := .null
  maxTokens : Option Int := none
  cancellation : Cancellation := .never
  deriving Inhabited

-- A count of tokens; no count is 0, and a fraction is cut off.
def tokenCount? : Json → Option Int
  | .null => some 0
  | .int n => some n
  | .bool b => some (if b then 1 else 0)
  | .float x => x.toRat?.map fun q => q.num.tdiv q.den
  | _ => none

namespace Call

def unknownModel (id : String) : Failure :=
  let available := (Json.texts (Model.known.map (·.id))).display
  .model ⟨.general, .badRequest, "Unknown model: '" ++ id ++ "'. Available: " ++ available, "",
    id, none⟩

def missingKey (m : Model) : Failure :=
  let message :=
    "No API key configured for provider '" ++ m.provider.name ++ "' (model '" ++ m.id ++ "')."
  .model ⟨.missingCredential, .invalidCredential, message, m.provider.name, m.id, none⟩

-- How a failure in a call reaches the caller: cancellation as it is, all else as a model error.
def reported (provider : Provider) (model : String) (f : Failure) : Failure :=
  match f with
  | .cancelled message => .cancelled message
  | f => f.asModelError provider.name model

def prepare (settings : Settings) (model user system : String) (credentials : Json)
    (options : CallOptions) : Outcome Call := do
  let some m := Model.find? model | throw (unknownModel model)
  let key := (← Keys.ofJson credentials).key m.provider
  if key == "" then throw (missingKey m)
  match options.attachments.mapM fun a => (Attachment.read a).toOutcome with
  | .error f => throw (reported m.provider m.id f)
  | .ok attachments =>
    let wanted := options.maxTokens.getD 0
    return {
      provider := m.provider
      model := m.id
      key := key
      user := user
      system := system
      attachments := attachments
      jsonMode := options.jsonMode
      temperature := options.temperature
      maxTokens := if wanted = 0 then settings.maxTokens else wanted }

def sentence (c : Call) (text : String) : String :=
  "[" ++ c.provider.name ++ "/" ++ c.model ++ "] " ++ text

def timedOut (c : Call) (limit : Binary64) : Failure :=
  let message := c.sentence ("Request timed out after " ++ limit.briefText ++ "s")
  .model ⟨.timeout, .timeout, message, c.provider.name, c.model, some .timeout⟩

def noText (c : Call) : Failure :=
  .model ⟨.general, .unknown, c.sentence "No response text", c.provider.name, c.model, none⟩

-- The bill for a usage; counts that are no numbers are not charged.
def bill? (c : Call) (usage : Json × Json) : Option Bill := do
  let input ← tokenCount? usage.1
  let output ← tokenCount? usage.2
  return ⟨c.provider.name, c.model, input, output⟩

-- Charge a call. A meter that fails is passed over.
def charge (c : Call) (usage : Json × Json) : Run Unit := fun s =>
  match c.bill? usage with
  | none => (.ok (), s)
  | some bill => if s.metered then (.ok (), (Run.tellMeter bill s).2) else (.ok (), s)

def chargeIfAny (c : Call) : Option (Json × Json) → Run Unit
  | some usage => c.charge usage
  | none => pure ()

theorem charge_apply (c : Call) (usage : Json × Json) (s : Session) :
    c.charge usage s =
      (.ok (), { s with bills := s.bills ++ if s.metered then (c.bill? usage).toList else [] }) := by
  unfold charge
  cases c.bill? usage with
  | none => simp
  | some bill =>
    by_cases told : s.metered = true
    next => simp only [if_pos told, Run.tellMeter, Option.toList]
    next => simp only [if_neg told, List.append_nil]

theorem chargeIfAny_apply (c : Call) (usage : Option (Json × Json)) (s : Session) :
    c.chargeIfAny usage s =
      (.ok (), { s with
        bills := s.bills ++ if s.metered then (usage.bind c.bill?).toList else [] }) := by
  cases usage with
  | none => simp [chargeIfAny, Run.pure_apply]
  | some usage => exact charge_apply c usage s

-- The blocks of text put together; a block without text cannot be.
def joinBlocks (position : Nat) : List (String × Option String) → Outcome String
  | [] => .ok ""
  | ("text", some text) :: rest => do return text ++ (← joinBlocks (position + 1) rest)
  | ("text", none) :: _ =>
    .error (.wrongType ("sequence item " ++ toString position ++
      ": expected str instance, NoneType found"))
  | _ :: rest => joinBlocks position rest

-- The text of a reply; only one that counts is charged.
def accept (c : Call) (reply : ProviderReply) : Run String :=
  match c.provider with
  | .openai => do
    c.chargeIfAny reply.usage
    return reply.text.getD ""
  | .anthropic => do
    let text ← joinBlocks 0 (reply.blocks.getD [("text", reply.text)])
    c.charge (reply.usage.getD (.int 0, .int 0))
    return text
  | .google =>
    let text := reply.text.getD ""
    if text == "" then Run.fail c.noText
    else do
      c.chargeIfAny reply.usage
      return text

-- What comes of an answer: running out of time is told in the call's own words.
def settled (c : Call) (limit : Binary64) (answer : Outcome ProviderReply) : Run String :=
  match answer with
  | .ok reply => c.accept reply
  | .error (.timeout _) => Run.fail (c.timedOut limit)
  | .error f =>
    Run.fail (if c.provider = .google then f.asModelError c.provider.name c.model else f)

def flight (c : Call) (limit : Binary64) (entry : Entry ProviderReply) : Flight String :=
  if limit.below (.ofRat entry.delay) then
    ⟨limit.toRat?.getD 0, Run.fail (c.timedOut limit)⟩
  else ⟨entry.delay, c.settled limit entry.answer⟩

def sent (c : Call) (s : Session) : SentRequest :=
  ⟨s.clock, c.provider.name, c.client, c.request⟩

-- Send the request. Without any time to wait nothing is sent.
def send (c : Call) (limit : Binary64) (s : Session) : Flight String × Session :=
  let s := s.settle
  if limit.below (.finite 0) || limit.isZero then (⟨0, Run.fail (c.timedOut limit)⟩, s)
  else
    let entry := s.providers.entry {} s.requests.length
    let s := { s with requests := s.requests ++ [c.sent s] }
    let s :=
      if !entry.interrupts then s
      else if 0 < entry.delay then s.interrupt
      else { s with interrupted := true }
    (c.flight limit entry, s)

def line (c : Call) (settings : Settings) (cancellation : Cancellation) : Line String where
  send := c.send settings.requestSeconds
  retries := decide (c.provider = .google)
  cancellation := cancellation

def run (c : Call) (settings : Settings) (cancellation : Cancellation) : Run String :=
  ((c.line settings cancellation).run).mapFailure (reported c.provider c.model)

end Call

def callModel (settings : Settings) (model user system : String) (credentials : Json)
    (options : CallOptions) : Run String := do
  let call ← Call.prepare settings model user system credentials options
  call.run settings options.cancellation

def callModelForJson (settings : Settings) (model user system : String) (credentials : Json)
    (options : CallOptions) : Run Json := do
  let text ← callModel settings model user system credentials { options with jsonMode := true }
  decodeText text

/-- A way to ask a model: user text, system text, and a temperature where one is wanted. -/
abbrev Caller := String → String → Option Json → Run Json

def Script.caller : Caller := fun user system temperature s =>
  let entry := s.callers.entry .null s.asks.length
  let ask : Ask := ⟨s.clock, user, system, temperature⟩
  let s := { s with asks := s.asks ++ [ask] }
  (entry.answer, s.advance (s.clock + entry.delay))

structure CallerOptions where
  jsonMode : Bool := true
  temperature : Json := .null
  cancellation : Cancellation := .never
  deriving Inhabited

def decodedOrText (text : String) : Json :=
  match decodeText text with
  | .ok v => v
  | .error _ => .str text

def modelCaller (settings : Settings) (model : String) (credentials : Json)
    (options : CallerOptions) : Caller := fun user system temperature => do
  let wanted := temperature.getD .null
  let text ← callModel settings model user system credentials
    { jsonMode := options.jsonMode
      temperature := if wanted.isNull then options.temperature else wanted
      cancellation := options.cancellation }
  return if options.jsonMode then decodedOrText text else .str text

end PromptStudio
