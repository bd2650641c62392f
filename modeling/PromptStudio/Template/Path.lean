import PromptStudio.Template.Datum
import PromptStudio.Text.Numeral

set_option autoImplicit false

/-!
# Dotted paths

`a.b.c` walks names of objects and records and positions of lists. A path that leads nowhere gives
`none`, which is not the same as null.
-/

namespace PromptStudio

def segments (path : List Char) : List (List Char) :=
  ((path.splitOn '.').map trimChars).filter (fun segment => !segment.isEmpty)

-- Negative positions count from the end.
def itemAt? {α : Type} (items : List α) (position : Int) : Option α :=
  if 0 ≤ position then items[position.toNat]?
  else if -(items.length : Int) ≤ position then items[(position + items.length).toNat]?
  else none

-- A whole number is a fraction and a complex number too.
def wholeParts (n : Int) : Entries Json :=
  [("real", .int n), ("imag", .int 0), ("numerator", .int n), ("denominator", .int 1)]

def Json.numberParts : Json → Entries Json
  | .int n => wholeParts n
  | .bool b => wholeParts (if b then 1 else 0)
  | .float x => [("real", .float x), ("imag", .float (.finite 0))]
  | _ => []

namespace Datum

-- One hop. Of what a value has beside its data only the parts of numbers and of moments are known
-- here: the operations that a text, a number or a model carries are no data, and a name that only
-- one of them has leads nowhere.
def step (d : Datum) (segment : List Char) : Option Datum :=
  match d with
  | .plain (.obj fields) => (Entries.get? fields (String.ofList segment)).map .plain
  | .plain (.arr items) => ((integerOf? segment).bind (itemAt? items)).map .plain
  | .record fields => Entries.get? fields (String.ofList segment)
  | .map entries => Entries.get? entries (String.ofList segment)
  | .list items => (integerOf? segment).bind (itemAt? items)
  | .moment time => (time.part? (String.ofList segment)).map fun n => .plain (.int n)
  | .plain v => (Entries.get? v.numberParts (String.ofList segment)).map .plain

-- Null leads nowhere further, and neither does nothing.
def hop (place : Option Datum) (segment : List Char) : Option Datum :=
  match place with
  | none => none
  | some d => if d.isNull then none else d.step segment

def walk (place : Option Datum) (path : List (List Char)) : Option Datum := path.foldl hop place

end Datum

-- What a path leads to; the empty path leads nowhere.
def resolve (context : Option Datum) (path : List Char) : Option Datum :=
  if path.isEmpty then none else Datum.walk context (segments path)

end PromptStudio
