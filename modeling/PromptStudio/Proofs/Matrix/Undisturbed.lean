import PromptStudio.Proofs.Gateway.Undisturbed
import PromptStudio.Proofs.Matrix.Consistency

set_option autoImplicit false

namespace PromptStudio

def CellResult.heard (r : CellResult) (judge : String) (evaluation : Evaluation) : CellResult :=
  { r with evaluation := some evaluation, judgeModel := some judge }

namespace Experiment

variable {e : Experiment} {c : Combo} {s s' : Session}

def question (e : Experiment) (c : Combo) : Outcome (String × String) := do
  let request ← e.planRequest c
  let plan ← request.plan standardRegistry e.registry
  let user := if plan.userPrompt == "" then request.userInput else plan.userPrompt
  return (user, withContract plan.systemPrompt)

inductive BlueprintCut (e : Experiment) (c : Combo) (s : Session) (f : Failure) : Prop where
  | intro (user system : String) (asked : e.question c = .ok (user, system))
      (cut : e.ask.Cut user system none s f) : BlueprintCut e c s f

def executorOptions (e : Experiment) : CallOptions :=
  { temperature := .float Role.executor.temperature, cancellation := e.cancellation }

/-- A cell, run from the session `s`, in which a rest was cut: its result without the cut and with
it. The phases before the one that was cut came to the same. -/
inductive CellCut (e : Experiment) (c : Combo) (s : Session) (r : CellResult) :
    CellResult → Prop where
  | architect (f : Failure) (cut : e.BlueprintCut c s f) :
      CellCut e c s r { combo := c, error := some (errorText f) }
  | executor (model : String) (keys : Keys) (planned : Session) (f : Failure)
      (given : e.blueprint c s = (.ok r.blueprint, planned))
      (named : e.executor? = some (model, keys))
      (cut : CallCut e.settings model r.blueprint "" keys.toJson e.executorOptions planned f) :
      CellCut e c s r { combo := c, blueprint := r.blueprint, executionError := some f.message }
  | judge (model judge output : String) (keys : Keys) (planned executed : Session)
      (exhibit : Exhibit) (f : Failure)
      (given : e.blueprint c s = (.ok r.blueprint, planned))
      (named : e.executor? = some (model, keys))
      (executes : e.execute model keys r.blueprint planned = (.ok output, executed))
      (kept : r.execution = some output ∧ r.executionModel = some model)
      (judges : e.judge? = some judge)
      (shown : e.exhibit c r.blueprint output = .ok exhibit)
      (cut : (e.hearing judge keys exhibit).Cut e.settings executed) :
      CellCut e c s r
        { r with evaluation := some ⟨Verdict.zero f.message, e.models.judgeOptions⟩ }

section Phases

theorem blueprint_eq (e : Experiment) (c : Combo) :
    e.blueprint c = Run.of (e.question c) >>= fun texts => do
      let reply ← e.ask texts.1 texts.2 none
      return blueprintOf (decodedReply reply) := by
  unfold blueprint question
  cases e.planRequest c with
  | error f => rfl
  | ok request =>
    change Run.of (request.plan standardRegistry e.registry) >>= _ =
      Run.of (request.plan standardRegistry e.registry >>= _) >>= _
    cases request.plan standardRegistry e.registry <;> rfl

theorem blueprint_levelUnless (steady : e.ask.Steady) (c : Combo) :
    (e.blueprint c).LevelUnless (e.BlueprintCut c) := by
  rw [blueprint_eq]
  refine Run.of_bind_levelUnless fun texts asked => ?_
  have replied : (e.ask texts.1 texts.2 none).LevelUnless (e.BlueprintCut c) :=
    (steady.levelUnless texts.1 texts.2 none).mono fun s f cut => ⟨texts.1, texts.2, asked, cut⟩
  exact replied.bind fun reply => Run.pure_level (blueprintOf (decodedReply reply))

structure CutRun (x : Run CellResult) (cut : CellResult → CellResult → Prop) (s s' : Session) :
    Prop where
  uneasy : ¬s'.Parallel s'
  results : ∃ r r' t t', x s = (.ok r, t) ∧ x s' = (.ok r', t') ∧ cut r r' ∧ t'.isCancelled = true

theorem CutRun.after {α : Type} {x : Run α} {f : α → Run CellResult} {a : α}
    {cut : CellResult → CellResult → Prop} {t t' : Session} (first : x s = (.ok a, t))
    (first' : x s' = (.ok a, t')) (calm : s'.Parallel s' → t'.Parallel t')
    (later : CutRun (f a) cut t t') : CutRun (x >>= f) cut s s' := by
  obtain ⟨r, r', u, u', plain, other, cut, cancelled⟩ := later.results
  exact ⟨fun parallel => later.uneasy (calm parallel), r, r', u, u',
    (Run.bind_of_ok first).trans plain, (Run.bind_of_ok first').trans other, cut, cancelled⟩

theorem evaluation_agrees (e : Experiment) (h : Hearing) (parallel : s.Parallel s') :
    (e.evaluation h).Agrees s s' ∨ h.Cut e.settings s' ∧ ¬s'.Parallel s' ∧
      ∃ (f : Failure) (t : Session),
        e.evaluation h s' = (.ok ⟨Verdict.zero f.message, e.models.judgeOptions⟩, t) ∧
          t.isCancelled = true := by
  unfold evaluation
  rcases h.evaluate_levelUnless e.settings s s' parallel with agrees | ⟨f, t, short⟩
  · refine .inl (agrees.outcome.bind fun o _ => ?_)
    cases o with
    | ok evaluation => exact Run.pure_level evaluation _ _ agrees.2
    | error f =>
      exact Run.pure_level (Evaluation.mk (Verdict.zero f.message) e.models.judgeOptions) _ _
        agrees.2
  · refine .inr ⟨short.cut, short.uneasy, f, t, ?_, short.cancelled⟩
    rw [Run.bind_of_ok (Run.outcome_apply _ s'), short.failed]
    rfl

theorem judged_eq {r : CellResult} {keys : Keys} {judge output : String} {exhibit : Exhibit}
    (judges : e.judge? = some judge)
    (shown : e.exhibit r.combo r.blueprint output = .ok exhibit) :
    e.judged keys r output = e.evaluation (e.hearing judge keys exhibit) >>= fun evaluation =>
      pure (r.heard judge evaluation) := by
  unfold judged
  simp only [judges, shown]
  rfl

theorem judged_agrees {start planned : Session} {model output : String} {keys : Keys}
    {r : CellResult} (given : e.blueprint r.combo start = (.ok r.blueprint, planned))
    (named : e.executor? = some (model, keys))
    (executes : e.execute model keys r.blueprint planned = (.ok output, s'))
    (kept : r.execution = some output ∧ r.executionModel = some model)
    (parallel : s.Parallel s') :
    (e.judged keys r output).Agrees s s' ∨
      CutRun (e.judged keys r output) (e.CellCut r.combo start) s s' := by
  cases judges : e.judge? with
  | none =>
    rw [judged, judges]
    exact .inl ⟨rfl, parallel⟩
  | some judge =>
    obtain ⟨exhibit, shown⟩ := exhibit_ok given output
    rw [judged_eq judges shown]
    rcases e.evaluation_agrees (e.hearing judge keys exhibit) parallel with
      agrees | ⟨cut, uneasy, f, t', unjudged, cancelled⟩
    · exact .inl (agrees.bind fun evaluation _ => Run.pure_level _ _ _ agrees.2)
    · obtain ⟨evaluation, t, heard⟩ :=
        evaluationBy_ok e (·.evaluate e.settings) (e.hearing judge keys exhibit) s
      have heard : e.evaluation (e.hearing judge keys exhibit) s = (.ok evaluation, t) := heard
      exact .inr ⟨uneasy, r.heard judge evaluation, _, t, t', Run.bind_of_ok heard,
        Run.bind_of_ok unjudged, .judge model judge output keys planned s' exhibit f given named
          executes kept judges shown cut, cancelled⟩

def concluded (e : Experiment) (model : String) (keys : Keys) (r : CellResult) :
    Outcome String → Run CellResult
  | .error f => pure { r with executionError := some f.message }
  | .ok output =>
    e.judged keys { r with execution := some output, executionModel := some model } output

theorem executed_eq {model : String} {keys : Keys} {r : CellResult}
    (named : e.executor? = some (model, keys)) (filled : r.blueprint ≠ "") :
    e.executed r =
      (e.execute model keys r.blueprint).outcome >>= e.concluded model keys r := by
  have blank : (r.blueprint == "") = false := by simpa using filled
  unfold executed
  simp only [named, blank]
  apply congrArg (Bind.bind _)
  funext o
  cases o <;> rfl

theorem executed_blueprint {start : Session} {blueprint : String}
    (given : e.blueprint c start = (.ok blueprint, s')) (s : Session) :
    ∃ r t, e.executed { combo := c, blueprint := blueprint } s = (.ok r, t) ∧
      r.blueprint = blueprint := by
  obtain ⟨r, t, ran, judged⟩ := executedBy_judged (·.evaluate e.settings)
    (fun output => exhibit_ok given output) s
  have planned : ((e.progressFrom blueprint s).result c).blueprint = blueprint := by
    unfold progressFrom
    split
    next => rfl
    next =>
      split
      next => rfl
      next => split <;> rfl
  refine ⟨r, t, ran, ?_⟩
  cases judged with
  | same => exact planned
  | added => exact planned

theorem concluded_agrees {start planned : Session} {model : String} {keys : Keys}
    {blueprint : String} {o : Outcome String}
    (given : e.blueprint c start = (.ok blueprint, planned))
    (named : e.executor? = some (model, keys))
    (executes : e.execute model keys blueprint planned = (o, s')) (parallel : s.Parallel s') :
    (e.concluded model keys { combo := c, blueprint := blueprint } o).Agrees s s' ∨
      CutRun (e.concluded model keys { combo := c, blueprint := blueprint } o)
        (e.CellCut c start) s s' := by
  cases o with
  | error f => exact .inl ⟨rfl, parallel⟩
  | ok output =>
    exact judged_agrees (r := ⟨c, blueprint, some output, some model, none, none, none, none⟩) given
      named executes ⟨rfl, rfl⟩ parallel

theorem executed_agrees {start : Session} {blueprint : String}
    (given : e.blueprint c start = (.ok blueprint, s')) (parallel : s.Parallel s') :
    (e.executed { combo := c, blueprint := blueprint }).Agrees s s' ∨
      CutRun (e.executed { combo := c, blueprint := blueprint }) (e.CellCut c start) s s' := by
  obtain ⟨r, t, ran, rfl⟩ := executed_blueprint given s
  cases named : e.executor? with
  | none =>
    rw [executed, named]
    exact .inl ⟨rfl, parallel⟩
  | some executor =>
    obtain ⟨model, keys⟩ := executor
    by_cases blank : r.blueprint = ""
    next =>
      rw [blank, executed, named]
      exact .inl ⟨rfl, parallel⟩
    next =>
      have phases : e.executed { combo := c, blueprint := r.blueprint } =
          (e.execute model keys r.blueprint).outcome >>=
            e.concluded model keys { combo := c, blueprint := r.blueprint } :=
        executed_eq named blank
      rw [phases] at ran ⊢
      have level : (e.execute model keys r.blueprint).LevelUnless
          (CallCut e.settings model r.blueprint "" keys.toJson e.executorOptions) :=
        callModel_levelUnless e.settings model r.blueprint "" keys.toJson e.executorOptions
      rcases level s s' parallel with agrees | ⟨f, t', short⟩
      · generalize came : (e.execute model keys r.blueprint s).1 = o
        have came' : (e.execute model keys r.blueprint s').1 = o := agrees.1.trans came
        have outcome : (e.execute model keys r.blueprint).outcome s =
            (.ok o, (e.execute model keys r.blueprint s).2) := by rw [Run.outcome_apply, came]
        have outcome' : (e.execute model keys r.blueprint).outcome s' =
            (.ok o, (e.execute model keys r.blueprint s').2) := by rw [Run.outcome_apply, came']
        rcases concluded_agrees given named (Prod.ext came' rfl) agrees.2 with same | cut
        · refine .inl (agrees.outcome.bind fun o' found => ?_)
          rw [outcome] at found
          obtain rfl : o = o' := Except.ok.inj found
          exact same
        · exact .inr (cut.after outcome outcome' level.calm)
      · refine .inr ⟨short.uneasy, r, _, t, t', ran, ?_,
          .executor model keys s' f given named short.cut, short.cancelled⟩
        rw [Run.bind_of_ok (Run.outcome_apply _ s'), short.failed]
        rfl

theorem runCell_agrees (steady : e.ask.Steady) (c : Combo) (parallel : s.Parallel s') :
    (e.runCell c).Agrees s s' ∨ ¬s'.Parallel s' ∧
      e.CellCut c s' (e.result c s) (e.result c s') ∧ (e.runCell c s').2.isCancelled = true := by
  have level := blueprint_levelUnless steady c
  rcases level s s' parallel with agrees | ⟨f, t, short⟩
  · generalize came : (e.blueprint c s).1 = o
    have given : e.blueprint c s = (o, (e.blueprint c s).2) := Prod.ext came rfl
    have given' : e.blueprint c s' = (o, (e.blueprint c s').2) :=
      Prod.ext (agrees.1.trans came) rfl
    cases o with
    | error f => exact .inl (agrees.bind fun blueprint found => nomatch came.symm.trans found)
    | ok blueprint =>
      rcases executed_agrees given' agrees.2 with same | cut
      · refine .inl (agrees.bind fun other found => ?_)
        obtain rfl : blueprint = other := Except.ok.inj (came.symm.trans found)
        exact same
      · have whole : CutRun (e.runCell c) (e.CellCut c s') s s' :=
          CutRun.after (f := fun blueprint => e.executed { combo := c, blueprint := blueprint })
            given given' level.calm cut
        obtain ⟨uneasy, r, r', t, t', plain, other, cut, cancelled⟩ := whole
        rw [result, result, plain, other]
        exact .inr ⟨uneasy, cut, cancelled⟩
  · have failed : e.runCell c s' = (.error f, t) := by
      rw [runCell, Run.bind_apply, short.failed]
    rw [result, result, failed]
    exact .inr ⟨short.uneasy, .architect f short.cut, short.cancelled⟩

theorem runCell_calm (steady : e.ask.Steady) (c : Combo) (calm : s.Parallel s) :
    (e.runCell c s).2.Parallel (e.runCell c s).2 := by
  rcases runCell_agrees steady c calm with agrees | ⟨uneasy, -⟩
  · exact agrees.2
  · exact absurd calm uneasy

end Phases

end Experiment

/-- `observe'` does what `observe` does, but for cancelling the run, which it cannot undo. -/
structure Observer.Follows (observe observe' : Observer) : Prop where
  parallel : ∀ finished total r s s', s.Parallel s' → ∃ t t',
    observe finished total r s = (.ok (), t) ∧ observe' finished total r s' = (.ok (), t') ∧
      t.Parallel t'
  stays : ∀ finished total r (s : Session), s.isCancelled = true →
    ∃ t, observe' finished total r s = (.ok (), t) ∧ t.isCancelled = true

namespace Experiment

variable {e : Experiment} {observe observe' : Observer} {s s' : Session}

/-- Cancelling leaves some of the first results, the last of them perhaps with a rest cut. -/
inductive Curtailed (e : Experiment) (observe' : Observer) (total finished : Nat) (s' : Session)
    (results : List CellResult) : List CellResult → Prop where
  | stopped (left : List CellResult) (first : left <+: results) :
      Curtailed e observe' total finished s' results left
  | cut (before after : List CellResult) (r r' : CellResult) (start : Session)
      (whole : results = before ++ r :: after)
      (reached :
        MatrixHistory e observe' (cellEvents total finished before ++ [.asked false]) s' start)
      (cut : e.CellCut r.combo start r r') :
      Curtailed e observe' total finished s' results (before ++ [r'])

theorem Curtailed.cons {total finished : Nat} {r : CellResult} {results left : List CellResult}
    {asked ran told : Session} (go : e.cancellation.check s' = (false, asked))
    (cell : MatrixEvent.Happens e observe' (.cell r.combo r) asked ran)
    (report : observe' (finished + 1) total r ran = (.ok (), told))
    (later : e.Curtailed observe' total (finished + 1) told results left) :
    e.Curtailed observe' total finished s' (r :: results) (r :: left) := by
  cases later with
  | stopped left first => exact .stopped _ (List.cons_prefix_cons.mpr ⟨rfl, first⟩)
  | cut before after last last' start whole reached cut =>
    refine .cut (r :: before) after last last' start ?_ ?_ cut
    · rw [whole]
      rfl
    · exact .cons go (.cons cell (.cons report reached))

theorem check_token (token : e.cancellation = .token) (s : Session) :
    e.cancellation.check s = (s.isCancelled, s) := by
  rw [token]
  rfl

theorem runCells_cancelled (token : e.cancellation = .token) (cancelled : s.isCancelled = true)
    (total finished : Nat) (cells : List Combo) :
    e.runCells observe total finished cells s = (.ok [], s) := by
  cases cells with
  | nil => rfl
  | cons c rest => exact runCells_stopped (by rw [check_token token, cancelled])

-- Induction on the cells that are left. As long as the runs stay side by side they give the same
-- results; once they part, the second one has begun its last cell.
theorem runCells_curtailed (token : e.cancellation = .token) (steady : e.ask.Steady)
    (follows : observe.Follows observe') (total : Nat) (cells : List Combo) (finished : Nat)
    (parallel : s.Parallel s') :
    ∃ results left t t', e.runCells observe total finished cells s = (.ok results, t) ∧
      e.runCells observe' total finished cells s' = (.ok left, t') ∧
      e.Curtailed observe' total finished s' results left := by
  induction cells generalizing finished s s' with
  | nil => exact ⟨[], [], s, s', rfl, rfl, .stopped [] (List.prefix_refl [])⟩
  | cons c rest ih =>
    have go : e.cancellation.check s = (false, s) := by
      rw [check_token token, Session.isCancelled, parallel.calm.1]
    have own : (e.result c s).combo = c := ofOutcome_combo rfl
    have calm := runCell_calm steady c parallel.left
    obtain ⟨told, told', report, -, aside⟩ :=
      follows.parallel (finished + 1) total (e.result c s) _ _ calm
    cases cancelled : s'.isCancelled with
    | true =>
      obtain ⟨results, -, t, -, later, -⟩ := ih (finished + 1) aside
      exact ⟨_, [], t, s', runCells_cons go report later,
        runCells_cancelled token cancelled total finished _, .stopped [] (List.nil_prefix)⟩
    | false =>
      have go' : e.cancellation.check s' = (false, s') := by rw [check_token token, cancelled]
      rcases runCell_agrees steady c parallel with agrees | ⟨-, cut, cancelled⟩
      · have same : e.result c s' = e.result c s := by rw [result, result, agrees.1]
        obtain ⟨next, next', report, report', still⟩ :=
          follows.parallel (finished + 1) total (e.result c s) _ _ agrees.2
        obtain ⟨results, left, t, t', later, later', curtailed⟩ := ih (finished + 1) still
        refine ⟨e.result c s :: results, e.result c s :: left, t, t',
          runCells_cons go report later, ?_, ?_⟩
        · rw [← same] at report' ⊢
          exact runCells_cons go' report' later'
        · exact curtailed.cons go' (cell_happens same.symm) report'
      · obtain ⟨results, -, t, -, later, -⟩ := ih (finished + 1) aside
        obtain ⟨last, report', still⟩ :=
          follows.stays (finished + 1) total (e.result c s') _ cancelled
        refine ⟨e.result c s :: results, [e.result c s'], t, last, runCells_cons go report later,
          runCells_cons go' report' (runCells_cancelled token still total (finished + 1) rest), ?_⟩
        refine .cut [] results (e.result c s) (e.result c s') s' rfl (.cons go' (.nil s')) ?_
        rw [own]
        exact cut

structure Undisturbed (e : Experiment) (observe' : Observer) (total : Nat) (s' : Session)
    (results left : List CellResult) : Prop where
  length : left.length ≤ results.length
  same : ∀ i, i + 1 < left.length → left[i]? = results[i]?
  last : ∀ i, i + 1 = left.length → left[i]? = results[i]? ∨
    ∃ r r' start, results[i]? = some r ∧ left[i]? = some r' ∧
      MatrixHistory e observe' (cellEvents total 0 (results.take i) ++ [.asked false]) s' start ∧
      e.CellCut r.combo start r r'

theorem Curtailed.undisturbed {total : Nat} {results left : List CellResult}
    (curtailed : e.Curtailed observe' total 0 s' results left) :
    e.Undisturbed observe' total s' results left := by
  cases curtailed with
  | stopped left first =>
    have same (i : Nat) (within : i < left.length) : left[i]? = results[i]? := by
      obtain ⟨after, rfl⟩ := first
      rw [List.getElem?_append_left within]
    exact ⟨first.length_le, fun i within => same i (by omega), fun i within =>
      .inl (same i (by omega))⟩
  | cut before after r r' start whole reached cut =>
    subst whole
    constructor
    case length => simp
    case same =>
      intro i within
      have early : i < before.length := by simpa using within
      rw [List.getElem?_append_left early, List.getElem?_append_left early]
    case last =>
      intro i within
      obtain rfl : i = before.length := by simpa using within
      refine .inr ⟨r, r', start, by simp, by simp, ?_, cut⟩
      simpa using reached

end Experiment

theorem runMatrix_course (e : Experiment) (m : MatrixRequest) :
    (∃ f, ∀ observe s, runMatrix e m observe s = (.error f, s)) ∨
      (combos m.config = .ok [] ∧ ∀ observe s, runMatrix e m observe s = (.ok [], s)) ∨
      ∃ cells toggles models, combos m.config = .ok cells ∧ m.Valid toggles models ∧
        ∀ observe s, runMatrix e m observe s =
          Experiment.runCells { e with toggles := toggles, models := models } observe cells.length 0
            cells s := by
  cases found : combos m.config with
  | error f => exact .inl ⟨f, fun observe s => by rw [runMatrix, found]; rfl⟩
  | ok cells =>
    cases cells with
    | nil => exact .inr (.inl ⟨rfl, fun observe s => by rw [runMatrix, found]; rfl⟩)
    | cons c rest =>
      by_cases tooMany : m.cap.getD e.settings.matrixCap < (c :: rest).length
      next =>
        refine .inl ⟨.matrixTooLarge (c :: rest).length (m.cap.getD e.settings.matrixCap), ?_⟩
        intro observe s
        rw [runMatrix, found]
        apply (Run.bind_of_ok rfl).trans
        simp only [List.isEmpty_cons, Bool.false_eq_true, if_false, tooMany, if_true]
        rfl
      next =>
        have passed (observe : Observer) (s : Session) : runMatrix e m observe s =
            (Run.of (Toggles.readForMatrix (orEmpty m.toggles)).toOutcome >>= fun toggles =>
              Run.of m.models.toOutcome >>= fun models =>
                Experiment.runCells { e with toggles := toggles, models := models } observe
                  (c :: rest).length 0 (c :: rest)) s := by
          rw [runMatrix, found]
          apply (Run.bind_of_ok rfl).trans
          simp only [List.isEmpty_cons, Bool.false_eq_true, if_false, tooMany]
          rfl
        cases switched : (Toggles.readForMatrix (orEmpty m.toggles)).toOutcome with
        | error f =>
          refine .inl ⟨f, fun observe s => ?_⟩
          rw [passed, switched]
          rfl
        | ok toggles =>
          cases modelled : m.models.toOutcome with
          | error f =>
            refine .inl ⟨f, fun observe s => ?_⟩
            rw [passed, switched, modelled]
            rfl
          | ok models =>
            refine .inr (.inr ⟨c :: rest, toggles, models, rfl, ⟨switched, modelled⟩, ?_⟩)
            intro observe s
            rw [passed, switched, modelled]
            rfl

theorem runMatrix_undisturbed (e : Experiment) (m : MatrixRequest) (observe observe' : Observer)
    (s s' : Session) (token : e.cancellation = .token) (steady : e.ask.Steady)
    (follows : observe.Follows observe') (parallel : s.Parallel s') :
    (∃ f, (runMatrix e m observe s).1 = .error f ∧ (runMatrix e m observe' s').1 = .error f) ∨
      ∃ results left, (runMatrix e m observe s).1 = .ok results ∧
        (runMatrix e m observe' s').1 = .ok left ∧
        ∃ cells toggles models, combos m.config = .ok cells ∧
          (cells ≠ [] → m.Valid toggles models) ∧
          Experiment.Undisturbed { e with toggles := toggles, models := models } observe'
            cells.length s' results left := by
  rcases runMatrix_course e m with ⟨f, refused⟩ | ⟨found, empty⟩ |
    ⟨cells, toggles, models, found, valid, ran⟩
  · exact .inl ⟨f, by rw [refused], by rw [refused]⟩
  · refine .inr ⟨[], [], by rw [empty], by rw [empty], [], e.toggles, e.models, found, nofun, ?_⟩
    exact (Experiment.Curtailed.stopped [] (List.prefix_refl [])).undisturbed
  · obtain ⟨results, left, t, t', plain, other, curtailed⟩ :=
      Experiment.runCells_curtailed (e := { e with toggles := toggles, models := models }) token
        steady follows cells.length cells 0 parallel
    exact .inr ⟨results, left, by rw [ran, plain], by rw [ran, other], cells, toggles, models,
      found, fun _ => valid, curtailed.undisturbed⟩

theorem Observer.silent_follows : Observer.silent.Follows .silent where
  parallel _ _ _ s s' parallel := ⟨s, s', rfl, rfl, parallel⟩
  stays _ _ _ s cancelled := ⟨s, rfl, cancelled⟩

def gardenSession : Session :=
  { providers := [{ answer := .ok { text := some "Roses are red." } },
      { answer := .error (.reported { message := "busy", status := some 429 }) },
      { answer := .ok { text := some "Violets are blue." } }] }

def gardenMatrix : MatrixRequest :=
  { config := .obj [("tones", .arr [.str "witty", .str "academic"]),
      ("lengths", .arr [.str "short"]), ("formats", .arr [.str "bullets"])]
    models := .ok { execution := some "gemini-2.5-flash", keys := some { google := "key" } } }

def gardenExperiment : Experiment :=
  { prompt := .str "a poem"
    outputType := .str "copy"
    ask := fun _ _ _ => pure (.str "Write a poem.")
    cancellation := .token }

def haltedGarden : Session := { gardenSession with cancelledFrom := some (1 / 2) }

def executions (o : Outcome (List CellResult)) : Option (List (Option String × Option String)) :=
  o.toOption.map fun results => results.map fun r => (r.execution, r.executionError)

theorem runMatrix_gardenMatrix :
    gardenExperiment.cancellation = .token ∧ gardenExperiment.ask.Steady ∧
      Observer.silent.Follows .silent ∧ gardenSession.Parallel haltedGarden ∧
      ∃ results left,
        (runMatrix gardenExperiment gardenMatrix .silent gardenSession).1 = .ok results ∧
        (runMatrix gardenExperiment gardenMatrix .silent haltedGarden).1 = .ok left ∧
        executions (.ok results) =
          some [(some "Roses are red.", none), (some "Violets are blue.", none)] ∧
        executions (.ok left) =
          some [(some "Roses are red.", none), (none, some "Cancelled during backoff wait")] ∧
        ∃ cells toggles models, combos gardenMatrix.config = .ok cells ∧
          (cells ≠ [] → gardenMatrix.Valid toggles models) ∧
          Experiment.Undisturbed { gardenExperiment with toggles := toggles, models := models }
            .silent cells.length haltedGarden results left := by
  have steady : gardenExperiment.ask.Steady :=
    .level fun _ _ _ => Run.pure_level (Json.str "Write a poem.")
  have forward : gardenSession.Forward
    | 0 | 1 | 2 | _ + 3 => le_refl _
  have calm : Cancellation.token.Calm gardenSession := by
    refine ⟨rfl, rfl, fun n => ?_⟩
    match n with
    | 0 | 1 | 2 | _ + 3 => rfl
  have parallel : gardenSession.Parallel haltedGarden := .of_calm forward calm (some (1 / 2))
  have plain : executions (runMatrix gardenExperiment gardenMatrix .silent gardenSession).1 =
      some [(some "Roses are red.", none), (some "Violets are blue.", none)] := by decide +kernel
  have halted : executions (runMatrix gardenExperiment gardenMatrix .silent haltedGarden).1 =
      some [(some "Roses are red.", none), (none, some "Cancelled during backoff wait")] := by
    decide +kernel
  refine ⟨rfl, steady, Observer.silent_follows, parallel, ?_⟩
  rcases runMatrix_undisturbed gardenExperiment gardenMatrix .silent .silent gardenSession
    haltedGarden rfl steady Observer.silent_follows parallel with
    ⟨f, refused, -⟩ | ⟨results, left, ran, ran', undisturbed⟩
  · rw [refused] at plain
    exact nomatch plain
  · rw [ran] at plain
    rw [ran'] at halted
    exact ⟨results, left, ran, ran', plain, halted, undisturbed⟩

end PromptStudio
