import PromptStudio.Proofs.Matrix.Timeline

set_option autoImplicit false

namespace PromptStudio

namespace CellResult

variable {r r' : CellResult}

/-- Which fields of a result are filled together. -/
structure Consistent (r : CellResult) : Prop where
  failed : ∀ text, r.error = some text → text ≠ "" ∧ r.blueprint = "" ∧
    r.execution = none ∧ r.executionModel = none ∧ r.executionError = none ∧
    r.evaluation = none ∧ r.judgeModel = none
  execution : r.execution = none ↔ r.executionModel = none
  executionFailed : ∀ text, r.executionError = some text →
    r.execution = none ∧ r.evaluation = none ∧ r.blueprint ≠ ""
  evaluation : r.evaluation = none ↔ r.judgeModel = none
  evaluated : r.evaluation ≠ none → r.execution ≠ none

def unjudged (r : CellResult) : CellResult := { r with evaluation := none, judgeModel := none }

inductive Judged (r : CellResult) : CellResult → Prop where
  | same : Judged r r
  | added (output : r.execution ≠ none) (evaluation : Evaluation) (model : String) :
      Judged r { r with evaluation := some evaluation, judgeModel := some model }

theorem Judged.unjudged (judged : r.Judged r') : r'.unjudged = r.unjudged := by
  cases judged <;> rfl

theorem Consistent.judged (consistent : r.Consistent) (judged : r.Judged r') : r'.Consistent := by
  cases judged with
  | same => exact consistent
  | added output evaluation model =>
    constructor
    case failed =>
      intro text failed
      exact absurd (consistent.failed text failed).2.2.1 output
    case execution => exact consistent.execution
    case executionFailed =>
      intro text failed
      exact absurd (consistent.executionFailed text failed).1 output
    case evaluation => simp
    case evaluated => exact fun _ => output

end CellResult

theorem errorText_ne_empty (f : Failure) : errorText f ≠ "" := by
  unfold errorText
  by_cases blank : f.message = "" <;> simp [blank]

inductive Progress where
  | refused (f : Failure)
  | planned (blueprint : String)
  | unexecuted (blueprint : String) (filled : blueprint ≠ "") (f : Failure)
  | executed (blueprint : String) (filled : blueprint ≠ "") (model output : String)

namespace Progress

def result (c : Combo) : Progress → CellResult
  | refused f => { combo := c, error := some (errorText f) }
  | planned blueprint => { combo := c, blueprint := blueprint }
  | unexecuted blueprint _ f =>
    { combo := c, blueprint := blueprint, executionError := some f.message }
  | executed blueprint _ model output =>
    { combo := c, blueprint := blueprint, execution := some output, executionModel := some model }

theorem result_consistent (c : Combo) (p : Progress) : (p.result c).Consistent := by
  cases p with
  | refused f =>
    constructor <;> simp [result, errorText_ne_empty]
  | planned blueprint =>
    constructor <;> simp [result]
  | unexecuted blueprint filled f =>
    constructor <;> simp [result, filled]
  | executed blueprint filled model output =>
    constructor <;> simp [result]

theorem result_unjudged (c : Combo) (p : Progress) : (p.result c).unjudged = p.result c := by
  cases p <;> rfl

end Progress

namespace Experiment

variable {e : Experiment} {hear : Hearing → Run Evaluation} {c : Combo} {s s' : Session}

def evaluationBy (e : Experiment) (hear : Hearing → Run Evaluation) (h : Hearing) :
    Run Evaluation := do
  match ← (hear h).outcome with
  | .ok evaluation => return evaluation
  | .error f => return ⟨Verdict.zero f.message, e.models.judgeOptions⟩

def judgedBy (e : Experiment) (hear : Hearing → Run Evaluation) (keys : Keys) (r : CellResult)
    (output : String) : Run CellResult := do
  match e.judge? with
  | none => return r
  | some model =>
    let exhibit ← e.exhibit r.combo r.blueprint output
    let evaluation ← e.evaluationBy hear (e.hearing model keys exhibit)
    return { r with evaluation := some evaluation, judgeModel := some model }

def executedBy (e : Experiment) (hear : Hearing → Run Evaluation) (r : CellResult) :
    Run CellResult := do
  match e.executor? with
  | none => return r
  | some (model, keys) =>
    if r.blueprint == "" then return r
    match ← (e.execute model keys r.blueprint).outcome with
    | .error f => return { r with executionError := some f.message }
    | .ok output =>
      e.judgedBy hear keys { r with execution := some output, executionModel := some model } output

def runCellBy (e : Experiment) (hear : Hearing → Run Evaluation) (c : Combo) : Run CellResult := do
  let blueprint ← e.blueprint c
  e.executedBy hear { combo := c, blueprint := blueprint }

theorem runCellBy_evaluate (e : Experiment) (c : Combo) :
    e.runCellBy (·.evaluate e.settings) c = e.runCell c := rfl

def resultBy (e : Experiment) (hear : Hearing → Run Evaluation) (c : Combo) (s : Session) :
    CellResult :=
  .ofOutcome c (e.runCellBy hear c s).1

def result (e : Experiment) (c : Combo) (s : Session) : CellResult :=
  .ofOutcome c (e.runCell c s).1

def progressFrom (e : Experiment) (blueprint : String) (s : Session) : Progress :=
  if filled : blueprint = "" then .planned blueprint
  else match e.executor? with
    | none => .planned blueprint
    | some (model, keys) =>
      match (e.execute model keys blueprint s).1 with
      | .error f => .unexecuted blueprint filled f
      | .ok output => .executed blueprint filled model output

def progress (e : Experiment) (c : Combo) (s : Session) : Progress :=
  match e.blueprint c s with
  | (.error f, _) => .refused f
  | (.ok blueprint, after) => e.progressFrom blueprint after

theorem evaluationBy_ok (e : Experiment) (hear : Hearing → Run Evaluation) (h : Hearing)
    (s : Session) : ∃ evaluation s', e.evaluationBy hear h s = (.ok evaluation, s') := by
  rw [evaluationBy, Run.bind_of_ok (Run.outcome_apply (hear h) s)]
  cases (hear h s).1 with
  | ok evaluation => exact ⟨evaluation, _, rfl⟩
  | error f => exact ⟨⟨Verdict.zero f.message, e.models.judgeOptions⟩, _, rfl⟩

theorem exhibit_ok {blueprint : String} (given : e.blueprint c s = (.ok blueprint, s'))
    (output : String) : ∃ exhibit, e.exhibit c blueprint output = .ok exhibit := by
  obtain ⟨request, _, planned, -⟩ := Run.bind_eq_ok.mp given
  have planned : e.planRequest c = .ok request := congrArg Prod.fst planned
  obtain ⟨chosen, found, -⟩ := Outcome.bind_eq_ok.mp planned
  exact ⟨_, by rw [exhibit, found]; rfl⟩

theorem judgedBy_judged {r : CellResult} {keys : Keys} {output : String}
    (exhibited : ∃ exhibit, e.exhibit r.combo r.blueprint output = .ok exhibit)
    (there : r.execution ≠ none) (s : Session) :
    ∃ r' s', e.judgedBy hear keys r output s = (.ok r', s') ∧ r.Judged r' := by
  obtain ⟨exhibit, exhibited⟩ := exhibited
  unfold judgedBy
  cases e.judge? with
  | none => exact ⟨r, s, rfl, .same⟩
  | some model =>
    obtain ⟨evaluation, s', heard⟩ :=
      evaluationBy_ok e hear (e.hearing model keys exhibit) s
    have shown : Run.of (e.exhibit r.combo r.blueprint output) s = (.ok exhibit, s) := by
      rw [Run.of_apply, exhibited]
    exact ⟨_, s', (Run.bind_of_ok shown).trans (Run.bind_of_ok heard),
      .added there evaluation model⟩

theorem executedBy_judged (hear : Hearing → Run Evaluation) {blueprint : String}
    (exhibited : ∀ output, ∃ exhibit, e.exhibit c blueprint output = .ok exhibit) (s : Session) :
    ∃ r s', e.executedBy hear { combo := c, blueprint := blueprint } s = (.ok r, s') ∧
      ((e.progressFrom blueprint s).result c).Judged r := by
  unfold executedBy progressFrom
  cases e.executor? with
  | none =>
    refine ⟨_, s, rfl, ?_⟩
    split <;> exact .same
  | some executor =>
    obtain ⟨model, keys⟩ := executor
    by_cases filled : blueprint = ""
    next =>
      simp only [filled, beq_self_eq_true, if_true, dif_pos]
      exact ⟨_, s, rfl, .same⟩
    next =>
      simp only [filled, beq_iff_eq, if_false, dif_neg, not_false_eq_true]
      rw [Run.bind_of_ok (Run.outcome_apply (e.execute model keys blueprint) s)]
      cases (e.execute model keys blueprint s).1 with
      | error f => exact ⟨_, _, rfl, .same⟩
      | ok output => exact judgedBy_judged (exhibited output) (by simp) _

theorem resultBy_judged (e : Experiment) (hear : Hearing → Run Evaluation) (c : Combo)
    (s : Session) : ((e.progress c s).result c).Judged (e.resultBy hear c s) := by
  cases given : e.blueprint c s with
  | mk answer after =>
    cases answer with
    | error f =>
      have refused : e.runCellBy hear c s = (.error f, after) := by
        rw [runCellBy, Run.bind_apply, given]
      rw [progress, given, resultBy, refused]
      exact .same
    | ok blueprint =>
      obtain ⟨r, s', done, judged⟩ := executedBy_judged hear (exhibit_ok given) after
      have phases : e.runCellBy hear c s = (.ok r, s') := (Run.bind_of_ok given).trans done
      rw [progress, given, resultBy, phases]
      exact judged

theorem resultBy_consistent (e : Experiment) (hear : Hearing → Run Evaluation) (c : Combo)
    (s : Session) : (e.resultBy hear c s).Consistent :=
  ((e.progress c s).result_consistent c).judged (resultBy_judged e hear c s)

theorem result_eq_resultBy (e : Experiment) (c : Combo) (s : Session) :
    e.result c s = e.resultBy (·.evaluate e.settings) c s := by
  rw [result, resultBy, runCellBy_evaluate]

theorem result_consistent (e : Experiment) (c : Combo) (s : Session) :
    (e.result c s).Consistent := by
  rw [result_eq_resultBy]
  exact resultBy_consistent e _ c s

theorem resultBy_unjudged (e : Experiment) (hear : Hearing → Run Evaluation) (c : Combo)
    (s : Session) : (e.resultBy hear c s).unjudged = (e.progress c s).result c := by
  rw [(resultBy_judged e hear c s).unjudged, Progress.result_unjudged]

/-- `r` is what a cell gave, and whatever else a judge does: where the phases before it go the same
way, only the verdict may differ. -/
def JudgeAddsTo (e : Experiment) (r : CellResult) : Prop :=
  ∃ start, r = e.result r.combo start ∧ ∀ (hear : Hearing → Run Evaluation) (t : Session),
    (e.resultBy hear r.combo t).Consistent ∧
      (e.progress r.combo t = e.progress r.combo start →
        (e.resultBy hear r.combo t).unjudged = r.unjudged)

theorem result_judgeAddsTo (e : Experiment) (c : Combo) (s : Session) :
    e.JudgeAddsTo (e.result c s) := by
  have own : (e.result c s).combo = c := ofOutcome_combo rfl
  have unjudged : (e.result c s).unjudged = (e.progress c s).result c := by
    rw [result_eq_resultBy, resultBy_unjudged]
  refine ⟨s, by rw [own], fun hear t => ?_⟩
  rw [own, unjudged]
  exact ⟨resultBy_consistent e hear c t, fun same => by rw [resultBy_unjudged, same]⟩

variable {observe : Observer} {results : List CellResult}

-- Induction on the cells that are left: each result comes from the session that the question whether
-- to stop left.
theorem mem_runCells {total : Nat} {cells : List Combo} {finished : Nat}
    (ran : e.runCells observe total finished cells s = (.ok results, s')) :
    ∀ r ∈ results, ∃ c start, r = e.result c start := by
  induction cells generalizing finished s s' results with
  | nil =>
    obtain ⟨rfl, -⟩ := Run.pure_eq_ok.mp ran
    simp
  | cons c rest ih =>
    rw [runCells] at ran
    obtain ⟨stop, asked, -, ran⟩ := Run.bind_eq_ok.mp ran
    cases stop with
    | true =>
      obtain ⟨rfl, -⟩ := Run.pure_eq_ok.mp ran
      simp
    | false =>
      obtain ⟨first, _, attempted, ran⟩ := Run.bind_eq_ok.mp ran
      obtain ⟨_, _, -, ran⟩ := Run.bind_eq_ok.mp ran
      obtain ⟨later, _, others, ran⟩ := Run.bind_eq_ok.mp ran
      obtain ⟨rfl, -⟩ := Run.pure_eq_ok.mp ran
      rw [attemptCell_apply] at attempted
      injection attempted with made
      injection made with made
      rw [List.forall_mem_cons]
      exact ⟨⟨c, asked, made.symm⟩, ih others⟩

end Experiment

theorem runMatrix_consistent (e : Experiment) (m : MatrixRequest) (observe : Observer)
    (s s' : Session) (results : List CellResult)
    (ran : runMatrix e m observe s = (.ok results, s')) :
    ∀ r ∈ results, r.Consistent ∧ ∃ toggles models, m.Valid toggles models ∧
      Experiment.JudgeAddsTo { e with toggles := toggles, models := models } r := by
  intro r listed
  obtain ⟨cells, -, ⟨-, rfl, -⟩ | ⟨-, -, toggles, models, valid, cellsRan⟩⟩ := runMatrix_cases ran
  · simp at listed
  · obtain ⟨c, start, rfl⟩ := Experiment.mem_runCells cellsRan r listed
    exact ⟨Experiment.result_consistent _ c start, toggles, models, valid,
      Experiment.result_judgeAddsTo _ c start⟩

def poemMatrix : MatrixRequest :=
  { config := .obj [("tones", .arr [.str "witty", .str "academic"]),
      ("lengths", .arr [.str "short"]), ("formats", .arr [.str "bullets"])]
    models := .ok
      { execution := some "gpt-4o"
        judge := some "critic"
        judging := true
        keys := some { openai := "key" } } }

def poemExperiment : Experiment :=
  { prompt := .str "a poem"
    outputType := .str "copy"
    ask := fun _ _ _ s =>
      (if s.requests.isEmpty then .ok (.str "Write a poem.") else .error (.runtime "no answer"), s) }

def poemSession : Session := { providers := [{ answer := .ok { text := some "Roses are red." } }] }

theorem runMatrix_poem :
    ∃ first second s', runMatrix poemExperiment poemMatrix .silent poemSession =
        (.ok [first, second], s') ∧
      (first.execution = some "Roses are red." ∧ first.judgeModel = some "critic") ∧
      second.error = some "no answer" ∧
      ∀ r ∈ [first, second], r.Consistent ∧ ∃ toggles models, poemMatrix.Valid toggles models ∧
        Experiment.JudgeAddsTo { poemExperiment with toggles := toggles, models := models } r := by
  have course : ∃ first second s', runMatrix poemExperiment poemMatrix .silent poemSession =
        (.ok [first, second], s') ∧
      (first.execution = some "Roses are red." ∧ first.judgeModel = some "critic") ∧
      second.error = some "no answer" := ⟨_, _, _, rfl, ⟨rfl, rfl⟩, rfl⟩
  obtain ⟨first, second, s', ran, judged, failed⟩ := course
  exact ⟨first, second, s', ran, judged, failed,
    runMatrix_consistent poemExperiment poemMatrix .silent poemSession s' [first, second] ran⟩

end PromptStudio
