import PromptStudio.Matrix.Cell

set_option autoImplicit false

/-!
# Running a matrix

Cells are run one after the other. Before each one the run may be cancelled, and after each one the
caller is told; a cell that fails becomes a result with an error.
-/

namespace PromptStudio

/-- What is done after a cell: the number finished, the number there are, and the result. -/
abbrev Observer := Nat → Nat → CellResult → Run Unit

def Observer.silent : Observer := fun _ _ _ => pure ()

def errorText (f : Failure) : String := if f.message == "" then "Unknown error" else f.message

namespace Experiment

def attemptCell (e : Experiment) (c : Combo) : Run CellResult := do
  match ← (e.runCell c).outcome with
  | .ok r => return r
  | .error f => return { combo := c, error := some (errorText f) }

-- Run the cells that are left; `finished` counts those before them.
def runCells (e : Experiment) (observe : Observer) (total : Nat) :
    (finished : Nat) → List Combo → Run (List CellResult)
  | _, [] => pure []
  | finished, c :: rest => do
    if ← e.cancellation.isCancelled then return []
    let r ← e.attemptCell c
    observe (finished + 1) total r
    return r :: (← runCells e observe total (finished + 1) rest)

end Experiment

/-- A matrix as it is asked for; switches and models are checked only when there are cells. -/
structure MatrixRequest where
  config : Json
  toggles : Json := .null
  models : Checked ModelSettings := .ok {}
  cap : Option Int := none

def orEmpty (v : Json) : Json := if v.truthy then v else .obj []

def runMatrix (e : Experiment) (m : MatrixRequest) (observe : Observer) :
    Run (List CellResult) := do
  let cells ← combos m.config
  if cells.isEmpty then return []
  let cap := m.cap.getD e.settings.matrixCap
  if cap < cells.length then Run.fail (.matrixTooLarge cells.length cap)
  else
    let toggles ← (Toggles.readForMatrix (orEmpty m.toggles)).toOutcome
    let models ← m.models.toOutcome
    { e with toggles := toggles, models := models }.runCells observe cells.length 0 cells

end PromptStudio
