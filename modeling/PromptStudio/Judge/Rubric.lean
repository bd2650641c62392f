import PromptStudio.Form.Reader

set_option autoImplicit false

/-!
# How strictly a judge scores

A rubric adds one paragraph to a judge's instructions.
-/

namespace PromptStudio

inductive Rubric where
  | lenient
  | standard
  | strict
  deriving DecidableEq, Inhabited

namespace Rubric

def named : List (String × Rubric) :=
  [("lenient", .lenient), ("standard", .standard), ("strict", .strict)]

def name : Rubric → String
  | .lenient => "lenient"
  | .standard => "standard"
  | .strict => "strict"

def ofName (name : String) : Rubric := (named.lookup name).getD .standard

def paragraph : Rubric → String
  | .lenient =>
    "RUBRIC ENFORCEMENT: LENIENT. Focus on whether the overall intent was met. " ++
      "Minor omissions or small format deviations cost at most one point."
  | .standard =>
    "RUBRIC ENFORCEMENT: STANDARD. Apply the scoring guide as written, " ++
      "balancing requirement coverage against overall usefulness."
  | .strict =>
    "RUBRIC ENFORCEMENT: STRICT. Every missed requirement, format deviation, or tone slip " ++
      "must lower the relevant score. Reserve 9-10 for outputs with no defects."

end Rubric

structure JudgeOptions where
  dual : Bool := false
  rubric : Rubric := .standard
  deriving DecidableEq, Inhabited

def JudgeOptions.ofFields (fields : Entries Json) : Checked JudgeOptions :=
  JudgeOptions.mk
    <$> Reader.withDefault fields "dual_judge" false Reader.boolean
    <*> Reader.withDefault fields "rubric_enforcement" .standard (Reader.choice Rubric.named)

def JudgeOptions.read : Reader JudgeOptions := Reader.record "JudgeOptions" JudgeOptions.ofFields

end PromptStudio
