import PromptStudio.Json.Printer
import PromptStudio.Moment

set_option autoImplicit false

/-!
# Context data

What a template can reach: a JSON value, a moment, a record whose fields are data again, or a map
or a list of such data.
-/

namespace PromptStudio

inductive Datum where
  | plain (value : Json)
  | moment (time : Moment)
  | record (fields : List (String × Datum))
  | map (entries : List (String × Datum))
  | list (items : List Datum)
  deriving Inhabited

namespace Datum

-- A record counts whatever it holds.
def truthy : Datum → Bool
  | .plain v => v.truthy
  | .moment _ => true
  | .record _ => true
  | .map entries => !entries.isEmpty
  | .list items => !items.isEmpty

def isNull : Datum → Bool
  | .plain .null => true
  | _ => false

mutual

-- What JSON can hold as it is; a record or a moment is more than its fields.
def json? : Datum → Option Json
  | .plain v => some v
  | .moment _ => none
  | .record _ => none
  | .map entries => (jsonFields? entries).map .obj
  | .list items => (jsonItems? items).map .arr

def jsonFields? : List (String × Datum) → Option (List (String × Json))
  | [] => some []
  | (key, d) :: rest =>
    match d.json?, jsonFields? rest with
    | some v, some fields => some ((key, v) :: fields)
    | _, _ => none

def jsonItems? : List Datum → Option (List Json)
  | [] => some []
  | d :: rest =>
    match d.json?, jsonItems? rest with
    | some v, some items => some (v :: items)
    | _, _ => none

end

mutual

-- The datum as JSON: a record becomes an object, a moment its text.
def toJson : Datum → Json
  | .plain v => v
  | .moment time => .str time.iso
  | .record fields => .obj (toFields fields)
  | .map entries => .obj (toFields entries)
  | .list items => .arr (toItems items)

def toFields : List (String × Datum) → List (String × Json)
  | [] => []
  | (key, d) :: rest => (key, d.toJson) :: toFields rest

def toItems : List Datum → List Json
  | [] => []
  | d :: rest => d.toJson :: toItems rest

end

-- Compact JSON; empty where a numeral is too long for it.
def compact (v : Json) : List Char := if v.isWritable then v.chars .compact else []

-- The text that takes the place of a placeholder: containers and truth values as compact JSON.
-- A map or a list that JSON cannot hold has none. An integer that stands alone is written whatever
-- its length, since one that was read from a text has no more than `digitLimit` digits.
def chars : Datum → List Char
  | .plain .null => []
  | .plain (.str s) => s.toList
  | .plain (.int n) => intChars n
  | .plain (.float x) => x.text.toList
  | .plain v => compact v
  | .moment time => time.spaced.toList
  | .record fields => compact (Datum.record fields).toJson
  | .map entries => ((Datum.map entries).json?.map compact).getD []
  | .list items => ((Datum.list items).json?.map compact).getD []

def charsOf : Option Datum → List Char
  | none => []
  | some d => d.chars

end Datum

end PromptStudio
