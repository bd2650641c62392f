import PromptStudio.Judge.Rubric
import PromptStudio.Reply.Decode
import PromptStudio.Form.Mapping
import PromptStudio.Text.Numeral

set_option autoImplicit false

/-!
# Verdicts

A verdict scores four dimensions from 0 to 10, says why, and sums them up. Replies are read
generously: what is no score counts as 0.
-/

namespace PromptStudio

def judgeDimensions : List String :=
  ["instructionAdherence", "taskQuality", "structureFormat", "toneAudience"]

structure Verdict where
  dimensions : Entries Binary64 := []
  justifications : Entries String := []
  composite : Binary64 := .finite 0
  summary : String := ""
  deriving Inhabited

-- The nearest score from 0 to 10; what compares with nothing is 0.
def clampScore (x : Binary64) : Binary64 :=
  if (Binary64.finite 0).below x then
    if x.below (.finite 10) then x else .finite 10
  else .finite 0

-- The number that a value denotes; truth values and containers denote none.
def scoreNumber? : Json → Outcome (Option Binary64)
  | .int n =>
    match Binary64.ofInt? n with
    | some x => .ok (some x)
    | none => .error (.tooLarge "int too large to convert to float")
  | .float x => .ok (some x)
  | .str s => .ok (numberOf? s.toList)
  | _ => .ok none

def scoreOf (v : Json) : Outcome Binary64 := do
  let held := match v with
    | .obj fields => (Entries.get? fields "score").getD .null
    | v => v
  return clampScore ((← scoreNumber? held).getD (.finite 0))

-- The sum from left to right, rounding at each step.
def total (xs : List Binary64) : Binary64 := xs.foldl Binary64.add (.finite 0)

-- The mean to one decimal place; of nothing it is 0.
def meanScore (xs : List Binary64) : Binary64 :=
  if xs.isEmpty then .finite 0 else ((total xs).divideBy xs.length).roundPlaces 1

def textIfAny (v : Json) : String := if v.truthy then v.display else ""

namespace Verdict

def scoresIn (given : Entries Json) : Outcome (Entries Binary64) :=
  judgeDimensions.mapM fun d => do
    return (d, ← scoreOf ((Entries.get? given d).getD .null))

def justificationIn (notes given : Entries Json) (d : String) : String :=
  let note := (Entries.get? notes d).getD .null
  if note.isNull then textIfAny (((Entries.get? given d).getD .null).field "feedback")
  else textIfAny note

def compositeIn (v : Json) (dimensions : Entries Binary64) : Outcome Binary64 :=
  match v with
  | .null => .ok (meanScore (dimensions.map (·.2)))
  | .bool _ => .ok (meanScore (dimensions.map (·.2)))
  | v => do return (← scoreOf v).roundPlaces 1

def summaryIn (fields : Entries Json) : String :=
  let summary := (Entries.get? fields "summary").getD .null
  if summary.truthy then summary.display
  else textIfAny ((Entries.get? fields "critique").getD .null)

def ofFields (fields : Entries Json) : Outcome Verdict := do
  let given ← ((Entries.get? fields "dimensions").getD .null).entriesFor "get"
  let dimensions ← scoresIn given
  let notes ← ((Entries.get? fields "justifications").getD .null).entriesFor "get"
  let composite ← compositeIn ((Entries.get? fields "composite").getD .null) dimensions
  return {
    dimensions := dimensions
    justifications := judgeDimensions.map fun d => (d, justificationIn notes given d)
    composite := composite
    summary := summaryIn fields }

def ofReply (reply : Json) : Outcome Verdict := do
  match ← decodeReply reply with
  | .obj fields => ofFields fields
  | _ => throw (parseFailure "Judge response is not a JSON object" "")

def score (v : Verdict) (d : String) : Binary64 := (Entries.get? v.dimensions d).getD (.finite 0)

def justification (v : Verdict) (d : String) : String := (Entries.get? v.justifications d).getD ""

-- Texts of a panel side by side, each after the name of its judge.
def attributed (texts : List (String × String)) : String :=
  String.intercalate " | " (texts.map fun (name, text) => "[" ++ name ++ "] " ++ text)

-- The mean of a panel, dimension by dimension.
def average (panel : List (String × Verdict)) : Outcome Verdict :=
  if panel.isEmpty then .error (.zeroDivisor "division by zero")
  else
    let dimensions := judgeDimensions.map fun d =>
      (d, ((total (panel.map fun (_, v) => v.score d)).divideBy panel.length).roundPlaces 2)
    .ok {
      dimensions := dimensions
      justifications := judgeDimensions.map fun d =>
        (d, attributed (panel.map fun (name, v) => (name, v.justification d)))
      composite := meanScore (dimensions.map (·.2))
      summary := attributed
        ((panel.map fun (name, v) => (name, v.summary)).filter fun entry => entry.2 != "") }

def zero (reason : String) : Verdict where
  dimensions := judgeDimensions.map fun d => (d, .finite 0)
  justifications := judgeDimensions.map fun d => (d, "")
  summary := "Judge error: " ++ reason

end Verdict

/-- A verdict with the options under which it was reached. -/
structure Evaluation where
  verdict : Verdict
  options : JudgeOptions
  deriving Inhabited

namespace Evaluation

def read : Reader Evaluation :=
  Reader.record "JudgeEvaluation" fun fields =>
    (fun dimensions justifications composite summary options =>
        ⟨⟨dimensions, justifications, composite, summary⟩, options⟩)
      <$> Reader.withDefault fields "dimensions" [] (Reader.mapOf Reader.number)
      <*> Reader.withDefault fields "justifications" [] (Reader.mapOf Reader.text)
      <*> Reader.withDefault fields "composite" (.finite 0) Reader.number
      <*> Reader.withDefault fields "summary" "" Reader.text
      <*> JudgeOptions.ofFields fields

def toJson (e : Evaluation) : Json :=
  .obj [("dimensions", .obj (e.verdict.dimensions.map fun (d, x) => (d, .float x))),
    ("justifications", Json.ofTextMap e.verdict.justifications),
    ("composite", .float e.verdict.composite), ("summary", .str e.verdict.summary),
    ("dual_judge", .bool e.options.dual),
    ("rubric_enforcement", .str e.options.rubric.name)]

end Evaluation

end PromptStudio
