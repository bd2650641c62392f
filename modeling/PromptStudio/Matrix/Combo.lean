import PromptStudio.Form.Mapping
import PromptStudio.Form.Reader
import PromptStudio.Json.Equality

set_option autoImplicit false

/-!
# Combinations

A matrix has an axis of tones, one of lengths and one of formats. Its cells are the combinations,
the tone changing slowest, and a value that is repeated on an axis counts once.
-/

namespace PromptStudio

structure Combo where
  tone : String
  length : String
  format : String
  deriving DecidableEq, Inhabited

namespace Combo

def read : Reader Combo :=
  Reader.record "Combo" fun fields =>
    Combo.mk
      <$> Reader.needed fields "tone" Reader.text
      <*> Reader.needed fields "length" Reader.text
      <*> Reader.needed fields "format" Reader.text

def toFields (c : Combo) : Entries Json :=
  [("tone", .str c.tone), ("length", .str c.length), ("format", .str c.format)]

def toJson (c : Combo) : Json := .obj c.toFields

end Combo

-- Every way to take one item of each list, the first list outermost.
def product {α : Type} : List (List α) → List (List α)
  | [] => [[]]
  | axis :: rest => axis.flatMap fun a => (product rest).map (a :: ·)

def filledItems? : Json → Option (List Json)
  | .arr (item :: rest) => some (item :: rest)
  | _ => none

-- The product of lists that are all filled; of anything else there is none.
def cartesian (arrays : Json) : Outcome (List (List Json)) :=
  let productOf (axes : List Json) : List (List Json) :=
    match axes.mapM filledItems? with
    | some lists => product lists
    | none => []
  match arrays with
  | .arr [] => .ok []
  | .arr axes => .ok (productOf axes)
  | .str _ => .ok []
  | .obj _ => .ok []
  | v =>
    if v.truthy then .error (.wrongType ("'" ++ v.typeName ++ "' object is not iterable"))
    else .ok []

-- Each value once, at its first place.
def distinct (seen : List Json) : List Json → List Json
  | [] => []
  | v :: rest =>
    if seen.any (·.equals v) then distinct seen rest else v :: distinct (v :: seen) rest

-- Containers cannot be told apart on an axis.
def axisValues (values : List Json) : Outcome (List Json) := do
  for v in values do
    match v with
    | .arr _ => throw (.wrongType "unhashable type: 'list'")
    | .obj _ => throw (.wrongType "unhashable type: 'dict'")
    | _ => pure ()
  return distinct [] values

def axisNames : List String := ["tones", "lengths", "formats"]

def comboOf (values : List Json) : Outcome Combo :=
  (Combo.read (.obj (["tone", "length", "format"].zip values))).toOutcome

def axisOf (fields : Entries Json) (name : String) : Option (List Json) :=
  match Entries.get? fields name with
  | none => some []
  | some v => v.asItems?

def combos (config : Json) : Outcome (List Combo) :=
  match config with
  | .obj fields =>
    match axisNames.mapM (axisOf fields) with
    | none => .error .matrixAxesNotLists
    | some axes => do (product (← axes.mapM axisValues)).mapM comboOf
  | _ => .error .matrixConfigMissing

end PromptStudio
