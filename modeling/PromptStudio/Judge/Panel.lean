import PromptStudio.Gateway.Gateway
import PromptStudio.Judge.Prompt
import PromptStudio.Judge.Verdict

set_option autoImplicit false

/-!
# Judging an output

One judge, or a strict and a style judge at the same time whose verdicts are averaged. Of two
failures the strict judge's is reported, whichever came first.
-/

namespace PromptStudio

/-- Who judges, and what is put before the judge. -/
structure Hearing where
  model : String
  credentials : Json
  prompt : String
  options : JudgeOptions := {}
  attachments : List Json := []
  temperature : Json := .null
  cancellation : Cancellation := .never
  deriving Inhabited

namespace Hearing

def callOptions (h : Hearing) : CallOptions where
  attachments := h.attachments
  jsonMode := true
  temperature := if h.temperature.isNull then .float Role.judge.temperature else h.temperature
  cancellation := h.cancellation

def system (h : Hearing) (persona : String) : String := judgeSystem persona h.options.rubric

def call (h : Hearing) (settings : Settings) (persona : String) : Outcome Call :=
  Call.prepare settings h.model h.prompt (h.system persona) h.credentials h.callOptions

def verdict (call : Call) (text : Outcome String) : Outcome Verdict :=
  match text with
  | .ok text => Verdict.ofReply (.str text)
  | .error f => .error (Call.reported call.provider call.model f)

def single (h : Hearing) (settings : Settings) : Run Verdict := do
  let call ← h.call settings soleJudge
  let text ← ((call.line settings h.cancellation).run).outcome
  verdict call text

def joined (strict style : Outcome Verdict) : Outcome Verdict := do
  let strict ← strict
  let style ← style
  Verdict.average [("Strict", strict), ("Style", style)]

def dual (h : Hearing) (settings : Settings) : Run Verdict := do
  let strict ← h.call settings strictJudge
  let style ← h.call settings styleJudge
  let (first, second) ←
    (strict.line settings h.cancellation).runBoth (style.line settings h.cancellation)
  joined (verdict strict first) (verdict style second)

def evaluate (h : Hearing) (settings : Settings) : Run Evaluation := do
  let verdict ← if h.options.dual then h.dual settings else h.single settings
  return ⟨verdict, h.options⟩

end Hearing

end PromptStudio
