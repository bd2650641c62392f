import PromptStudio.Form.Mapping
import PromptStudio.Reply.Decode

set_option autoImplicit false

/-!
# Blueprint text

Where an architect's reply keeps the blueprint is not certain. Strategies are tried in order, and
the first that gives a value wins.
-/

namespace PromptStudio

inductive Strategy where
  | fenced
  | whole
  | outer
  | ownText
  | path (keys : List String)
  | serialized (key : Option String)
  deriving DecidableEq, Inhabited

namespace Strategy

-- The text to search; what is empty counts as empty text.
def searched (response : Json) : Outcome (List Char) :=
  match response with
  | .str s => .ok s.toList
  | v => if v.truthy then .error (.wrongType "expected string or bytes-like object") else .ok []

def runWhole : Json → Outcome (Option Json)
  | .null => .ok none
  | .str s => .ok (decodeTrimmed? s.toList)
  | v => .error (v.lacks "strip")

def solidText? : Json → Option String
  | .str s => if (trimChars s.toList).isEmpty then none else some (trim s)
  | _ => none

-- The value that names lead to through objects; a missing name leads to null.
def follow? : Json → List String → Option Json
  | v, [] => some v
  | .obj fields, key :: rest => follow? ((Entries.get? fields key).getD .null) rest
  | _, _ :: _ => none

def runPath (keys : List String) (response : Json) : Option String :=
  (follow? response keys).bind solidText?

def textOf : Json → Option String
  | .null => none
  | .str s => some (trim s)
  | v => v.write? .plain

def runSerialized (key : Option String) (response : Json) : Option String :=
  match key with
  | none => textOf response
  | some key =>
    let value := match response with
      | .obj fields => (Entries.get? fields key).getD .null
      | v => v
    if value.truthy then textOf value else none

def run : Strategy → Json → Outcome (Option Json)
  | .fenced, v => (searched v).map decodeFenced?
  | .whole, v => runWhole v
  | .outer, v => (searched v).map decodeOuter?
  | .ownText, v => .ok (v.asText?.map fun s => .str (trim s))
  | .path keys, v => .ok ((runPath keys v).map .str)
  | .serialized key, v => .ok ((runSerialized key v).map .str)

def firstOf : List Strategy → Json → Outcome (Option Json)
  | [], _ => .ok none
  | s :: rest, v =>
    match s.run v with
    | .ok none => firstOf rest v
    | outcome => outcome

end Strategy

def decodeStrategies : List Strategy := [.fenced, .whole, .outer]

-- Where a blueprint may stand in a reply, best place first.
def blueprintPaths : List (List String) :=
  [["final_output", "expanded_prompt_text"], ["final_output", "expandedPromptText"],
    ["final_output", "expanded_prompt"], ["expanded_prompt_text"], ["expandedPromptText"],
    ["expanded_prompt", "text"], ["expanded_prompt"], ["final_prompt"]]

-- The blueprint in a reply; empty when nothing can be used.
def blueprintOf (response : Json) : String :=
  let found :=
    match response with
    | .str s => some (trim s)
    | v =>
      (blueprintPaths.findSome? (Strategy.runPath · v)).or
        ((Strategy.runSerialized (some "final_output") v).or (Strategy.runSerialized none v))
  found.getD ""

end PromptStudio
