import PromptStudio.Matrix.Matrix
import PromptStudio.Proofs.Matrix.Combos
import PromptStudio.Proofs.Session.Runs

set_option autoImplicit false

namespace PromptStudio

def CellResult.ofOutcome (c : Combo) : Outcome CellResult → CellResult
  | .ok r => r
  | .error f => { combo := c, error := some (errorText f) }

inductive MatrixEvent where
  | asked (stop : Bool)
  | cell (combo : Combo) (result : CellResult)
  | told (finished total : Nat) (result : CellResult)

def MatrixEvent.Happens (e : Experiment) (observe : Observer) :
    MatrixEvent → Session → Session → Prop
  | .asked stop, s, s' => e.cancellation.check s = (stop, s')
  | .cell c r, s, s' => ∃ o, e.runCell c s = (o, s') ∧ r = .ofOutcome c o
  | .told finished total r, s, s' => observe finished total r s = (.ok (), s')

inductive MatrixHistory (e : Experiment) (observe : Observer) :
    List MatrixEvent → Session → Session → Prop where
  | nil (s : Session) : MatrixHistory e observe [] s s
  | cons {event : MatrixEvent} {events : List MatrixEvent} {s between s' : Session}
      (first : event.Happens e observe s between)
      (later : MatrixHistory e observe events between s') :
      MatrixHistory e observe (event :: events) s s'

/-- The cells that were run: each is preceded by the question whether to stop, and followed by the
report of its result. -/
def cellEvents (total : Nat) : (finished : Nat) → List CellResult → List MatrixEvent
  | _, [] => []
  | finished, r :: rest =>
    .asked false :: .cell r.combo r :: .told (finished + 1) total r ::
      cellEvents total (finished + 1) rest

/-- Cells that are left over were left by a question that was answered with yes. -/
def stopEvents (total finished : Nat) : List MatrixEvent :=
  if finished = total then [] else [.asked true]

def Observer.Quiet (observe : Observer) : Prop :=
  ∀ finished total r s, ∃ s', observe finished total r s = (.ok (), s')

namespace Experiment

variable {e : Experiment} {observe : Observer}

theorem judged_combo {keys : Keys} {r r' : CellResult} {output : String} {s s' : Session}
    (done : e.judged keys r output s = (.ok r', s')) : r'.combo = r.combo := by
  unfold judged at done
  cases judge : e.judge? with
  | none =>
    rw [judge] at done
    obtain ⟨rfl, -⟩ := Run.pure_eq_ok.mp done
    rfl
  | some model =>
    rw [judge] at done
    obtain ⟨_, _, -, done⟩ := Run.bind_eq_ok.mp done
    obtain ⟨_, _, -, done⟩ := Run.bind_eq_ok.mp done
    obtain ⟨rfl, -⟩ := Run.pure_eq_ok.mp done
    rfl

theorem executed_combo {r r' : CellResult} {s s' : Session}
    (done : e.executed r s = (.ok r', s')) : r'.combo = r.combo := by
  unfold executed at done
  cases executor : e.executor? with
  | none =>
    rw [executor] at done
    obtain ⟨rfl, -⟩ := Run.pure_eq_ok.mp done
    rfl
  | some with' =>
    rw [executor] at done
    by_cases blank : (r.blueprint == "") = true
    next =>
      simp only [blank, if_true] at done
      obtain ⟨rfl, -⟩ := Run.pure_eq_ok.mp done
      rfl
    next =>
      simp only [blank] at done
      obtain ⟨outcome, _, -, done⟩ := Run.bind_eq_ok.mp done
      cases outcome with
      | error f =>
        obtain ⟨rfl, -⟩ := Run.pure_eq_ok.mp done
        rfl
      | ok output => exact (judged_combo done).trans rfl

theorem runCell_combo {c : Combo} {r : CellResult} {s s' : Session}
    (done : e.runCell c s = (.ok r, s')) : r.combo = c := by
  obtain ⟨_, _, -, done⟩ := Run.bind_eq_ok.mp done
  exact executed_combo done

theorem ofOutcome_combo {c : Combo} {o : Outcome CellResult} {s s' : Session}
    (done : e.runCell c s = (o, s')) : (CellResult.ofOutcome c o).combo = c := by
  cases o with
  | ok r => exact runCell_combo done
  | error f => rfl

theorem attemptCell_apply (e : Experiment) (c : Combo) (s : Session) :
    e.attemptCell c s = (.ok (.ofOutcome c (e.runCell c s).1), (e.runCell c s).2) := by
  rw [attemptCell, Run.bind_of_ok (Run.outcome_apply (e.runCell c) s)]
  cases (e.runCell c s).1 <;> rfl

theorem isCancelled_apply (e : Experiment) (s : Session) :
    e.cancellation.isCancelled s = (.ok (e.cancellation.check s).1, (e.cancellation.check s).2) :=
  rfl

theorem runCells_stopped {c : Combo} {rest : List Combo} {total finished : Nat}
    {s asked : Session} (stop : e.cancellation.check s = (true, asked)) :
    e.runCells observe total finished (c :: rest) s = (.ok [], asked) := by
  rw [runCells, Run.bind_of_ok (isCancelled_apply e s), stop]
  rfl

theorem runCells_cons {c : Combo} {rest : List Combo} {total finished : Nat}
    {s asked told s' : Session} {results : List CellResult}
    (go : e.cancellation.check s = (false, asked))
    (report : observe (finished + 1) total (.ofOutcome c (e.runCell c asked).1)
      (e.runCell c asked).2 = (.ok (), told))
    (later : e.runCells observe total (finished + 1) rest told = (.ok results, s')) :
    e.runCells observe total finished (c :: rest) s =
      (.ok (.ofOutcome c (e.runCell c asked).1 :: results), s') := by
  rw [runCells, Run.bind_of_ok (isCancelled_apply e s), go]
  simp only [Bool.false_eq_true, if_false]
  rw [Run.bind_of_ok (attemptCell_apply e c asked), Run.bind_of_ok report, Run.bind_of_ok later]
  rfl

theorem cell_happens {c : Combo} {s : Session} {r : CellResult}
    (same : r = .ofOutcome c (e.runCell c s).1) :
    MatrixEvent.Happens e observe (.cell r.combo r) s (e.runCell c s).2 := by
  have own : r.combo = c := by
    rw [same]
    exact ofOutcome_combo rfl
  rw [own]
  exact ⟨(e.runCell c s).1, rfl, same⟩

-- Induction on the cells that are left: the run either stops here or goes on from the session that
-- the report of this cell left.
theorem runCells_history (quiet : observe.Quiet) (total : Nat) (cells : List Combo)
    (finished : Nat) (whole : finished + cells.length = total) (s : Session) :
    ∃ results s', e.runCells observe total finished cells s = (.ok results, s') ∧
      results.length ≤ cells.length ∧
      results.map (·.combo) = cells.take results.length ∧
      MatrixHistory e observe
        (cellEvents total finished results ++ stopEvents total (finished + results.length)) s s' := by
  induction cells generalizing finished s with
  | nil =>
    have complete : stopEvents total (finished + 0) = [] := if_pos whole
    refine ⟨[], s, rfl, Nat.le_refl _, rfl, ?_⟩
    rw [List.length_nil, complete]
    exact .nil s
  | cons c rest ih =>
    cases asked : e.cancellation.check s with
    | mk stop between =>
      cases stop with
      | true =>
        have left : stopEvents total (finished + 0) = [.asked true] := by
          apply if_neg
          simp only [List.length_cons] at whole
          omega
        refine ⟨[], between, runCells_stopped asked, Nat.zero_le _, rfl, ?_⟩
        rw [cellEvents, List.nil_append, List.length_nil, left]
        exact .cons asked (.nil between)
      | false =>
        generalize ran : CellResult.ofOutcome c (e.runCell c between).1 = r
        obtain ⟨told, report⟩ := quiet (finished + 1) total r (e.runCell c between).2
        obtain ⟨results, s', later, within, inOrder, history⟩ :=
          ih (finished + 1) (by simp only [List.length_cons] at whole; omega) told
        have run := runCells_cons asked (ran ▸ report) later
        rw [ran] at run
        have own : r.combo = c := by
          rw [← ran]
          exact ofOutcome_combo rfl
        refine ⟨r :: results, s', run, by simpa using within, ?_, ?_⟩
        · rw [List.map_cons, List.length_cons, List.take_succ_cons, inOrder, own]
        · rw [Nat.add_right_comm] at history
          exact .cons asked (.cons (cell_happens ran.symm) (.cons report history))

end Experiment

structure MatrixRequest.Valid (m : MatrixRequest) (toggles : Toggles) (models : ModelSettings) :
    Prop where
  toggles : (Toggles.readForMatrix (orEmpty m.toggles)).toOutcome = .ok toggles
  models : m.models.toOutcome = .ok models

theorem runMatrix_cases {e : Experiment} {m : MatrixRequest} {observe : Observer}
    {results : List CellResult} {s s' : Session}
    (ran : runMatrix e m observe s = (.ok results, s')) :
    ∃ cells, combos m.config = .ok cells ∧
      ((cells = [] ∧ results = [] ∧ s = s') ∨
        (cells ≠ [] ∧ cells.length ≤ m.cap.getD e.settings.matrixCap ∧
          ∃ toggles models, m.Valid toggles models ∧
            Experiment.runCells { e with toggles := toggles, models := models } observe
              cells.length 0 cells s = (.ok results, s'))) := by
  obtain ⟨cells, between, listed, ran⟩ := Run.bind_eq_ok.mp ran
  obtain ⟨found, rfl⟩ := Run.of_eq_ok.mp listed
  refine ⟨cells, found, ?_⟩
  by_cases empty : cells = []
  next =>
    subst empty
    obtain ⟨rfl, rfl⟩ := Run.pure_eq_ok.mp ran
    exact .inl ⟨rfl, rfl, rfl⟩
  next =>
    simp only [List.isEmpty_iff, empty, if_false] at ran
    by_cases tooMany : m.cap.getD e.settings.matrixCap < cells.length
    next =>
      simp only [tooMany, if_true] at ran
      exact nomatch ran
    next =>
      simp only [tooMany, if_false] at ran
      obtain ⟨toggles, _, readToggles, ran⟩ := Run.bind_eq_ok.mp ran
      obtain ⟨switched, rfl⟩ := Run.of_eq_ok.mp readToggles
      obtain ⟨models, _, readModels, ran⟩ := Run.bind_eq_ok.mp ran
      obtain ⟨modelled, rfl⟩ := Run.of_eq_ok.mp readModels
      exact .inr ⟨empty, Int.not_lt.mp tooMany, toggles, models, ⟨switched, modelled⟩, ran⟩

/-- `results` belong to the first cells, and `s'` is what running these and no others left. -/
structure MatrixRun (e : Experiment) (observe : Observer) (cells : List Combo)
    (results : List CellResult) (s s' : Session) : Prop where
  within : results.length ≤ cells.length
  inOrder : results.map (·.combo) = cells.take results.length
  history : MatrixHistory e observe
    (cellEvents cells.length 0 results ++ stopEvents cells.length results.length) s s'

theorem runMatrix_matrixRun (e : Experiment) (m : MatrixRequest) (observe : Observer)
    (toggles : Toggles) (models : ModelSettings) (axes : TextAxes m.config)
    (valid : m.Valid toggles models) (quiet : observe.Quiet) (s : Session) :
    ∃ cells, combos m.config = .ok cells ∧
      (cells = [] → runMatrix e m observe s = (.ok [], s)) ∧
      (cells ≠ [] → m.cap.getD e.settings.matrixCap < cells.length →
        runMatrix e m observe s =
          (.error (.matrixTooLarge cells.length (m.cap.getD e.settings.matrixCap)), s)) ∧
      (cells ≠ [] → cells.length ≤ m.cap.getD e.settings.matrixCap →
        ∃ results s', runMatrix e m observe s = (.ok results, s') ∧
          MatrixRun { e with toggles := toggles, models := models } observe cells results s s') := by
  obtain ⟨cells, found⟩ := combos_texts axes
  have listed : Run.of (combos m.config) s = (.ok cells, s) := by rw [Run.of_apply, found]
  refine ⟨cells, found, ?_, ?_, ?_⟩
  · rintro rfl
    exact Run.bind_of_ok listed
  · intro filled tooMany
    apply (Run.bind_of_ok listed).trans
    simp only [List.isEmpty_iff, filled, if_false, tooMany, if_true]
    rfl
  · intro filled fits
    have switched : Run.of (Toggles.readForMatrix (orEmpty m.toggles)).toOutcome s =
        (.ok toggles, s) := by rw [Run.of_apply, valid.toggles]
    have modelled : Run.of m.models.toOutcome s = (.ok models, s) := by
      rw [Run.of_apply, valid.models]
    have unbounded : ¬m.cap.getD e.settings.matrixCap < cells.length := by omega
    obtain ⟨results, s', run, within, inOrder, history⟩ :=
      Experiment.runCells_history (e := { e with toggles := toggles, models := models }) quiet
        cells.length cells 0 (Nat.zero_add _) s
    refine ⟨results, s', ?_, within, inOrder, by simpa using history⟩
    apply (Run.bind_of_ok listed).trans
    simp only [List.isEmpty_iff, filled, if_false, unbounded]
    exact (Run.bind_of_ok switched).trans ((Run.bind_of_ok modelled).trans run)

def repeatedTone : MatrixRequest :=
  { config := .obj [("tones", .arr [.str "calm", .str "bold", .str "calm"]),
      ("lengths", .arr [.str "short"]), ("formats", .arr [.str "list"])] }

def failingExperiment : Experiment :=
  { prompt := .str "a talk"
    outputType := .str "deck"
    ask := fun _ _ _ => Run.fail (.runtime "no answer")
    cancellation := .answers [false, true] }

theorem runMatrix_repeatedTone :
    TextAxes repeatedTone.config ∧ repeatedTone.Valid .forMatrix {} ∧ Observer.silent.Quiet ∧
    combos repeatedTone.config = .ok [⟨"calm", "short", "list"⟩, ⟨"bold", "short", "list"⟩] ∧
    ∃ results s', runMatrix failingExperiment repeatedTone .silent {} = (.ok results, s') ∧
      MatrixRun failingExperiment .silent [⟨"calm", "short", "list"⟩, ⟨"bold", "short", "list"⟩]
        results {} s' := by
  have axes : TextAxes repeatedTone.config := by
    refine ⟨_, rfl, ?_⟩
    simp only [axisNames, List.forall_mem_cons]
    exact ⟨⟨["calm", "bold", "calm"], rfl⟩, ⟨["short"], rfl⟩, ⟨["list"], rfl⟩, by simp⟩
  have valid : repeatedTone.Valid .forMatrix {} := ⟨rfl, rfl⟩
  have quiet : Observer.silent.Quiet := fun _ _ _ s => ⟨s, rfl⟩
  have listed : combos repeatedTone.config =
      .ok [⟨"calm", "short", "list"⟩, ⟨"bold", "short", "list"⟩] := rfl
  obtain ⟨cells, found, -, -, run⟩ :=
    runMatrix_matrixRun failingExperiment repeatedTone .silent .forMatrix {} axes valid quiet {}
  rw [listed] at found
  injection found with same
  subst same
  exact ⟨axes, valid, quiet, listed, run (by simp) (by decide)⟩

end PromptStudio
