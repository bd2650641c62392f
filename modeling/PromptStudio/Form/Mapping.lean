import PromptStudio.Failure
import PromptStudio.Json.Printer

set_option autoImplicit false

/-!
# Loose mappings and lists

Where a mapping is expected, a list of pairs is one too; where texts are to be joined, the
characters of a text and the names of an object will do.
-/

namespace PromptStudio

namespace Json

def typeName : Json → String
  | .null => "NoneType"
  | .bool _ => "bool"
  | .int _ => "int"
  | .float _ => "float"
  | .str _ => "str"
  | .arr _ => "list"
  | .obj _ => "dict"

-- What goes wrong where a value is looked at in a way that it lacks.
def lacks (v : Json) (look : String) : Failure :=
  .noMember ("'" ++ v.typeName ++ "' object has no attribute '" ++ look ++ "'")

-- The entries of an object; all else lacks the way to look.
def ownEntries (look : String) : Json → Outcome (Entries Json)
  | .obj fields => .ok fields
  | v => .error (v.lacks look)

-- The entries of an object, where what is empty counts as one without any.
def entriesFor (look : String) (v : Json) : Outcome (Entries Json) :=
  if v.truthy then v.ownEntries look else .ok []

def pairFault (position length : Nat) : Failure :=
  .badValue ("dictionary update sequence element #" ++ toString position ++ " has length " ++
    toString length ++ "; 2 is required")

def halfFault (position : Nat) : Failure :=
  .wrongType ("cannot convert dictionary update sequence element #" ++ toString position ++
    " to a sequence")

def halves? (position : Nat) : Json → Outcome (Json × Json)
  | .arr items =>
    match items with
    | [a, b] => .ok (a, b)
    | _ => .error (pairFault position items.length)
  | .obj fields =>
    match fields with
    | [(a, _), (b, _)] => .ok (.str a, .str b)
    | _ => .error (pairFault position fields.length)
  | .str s =>
    match s.toList with
    | [a, b] => .ok (.str (String.ofList [a]), .str (String.ofList [b]))
    | cs => .error (pairFault position cs.length)
  | _ => .error (halfFault position)

-- A name that is not text can never be asked for, so it is left out.
def pairEntry (position : Nat) (item : Json) : Outcome (Entries Json) := do
  match ← halves? position item with
  | (.str key, v) => return [(key, v)]
  | (.arr _, _) => throw (.wrongType "unhashable type: 'list'")
  | (.obj _, _) => throw (.wrongType "unhashable type: 'dict'")
  | _ => return []

def pairEntries (position : Nat) : List Json → Outcome (Entries Json)
  | [] => .ok []
  | item :: rest => do return (← pairEntry position item) ++ (← pairEntries (position + 1) rest)

-- The value as a mapping; what is empty is an empty one.
def asMapping (v : Json) : Outcome (Entries Json) :=
  match v with
  | .obj fields => .ok fields
  | .arr items => (pairEntries 0 items).map Entries.ofPairs
  | .str s => if s == "" then .ok [] else .error (pairFault 0 1)
  | v =>
    if v.truthy then .error (.wrongType ("'" ++ v.typeName ++ "' object is not iterable"))
    else .ok []

def elements : Json → Outcome (List Json)
  | .arr items => .ok items
  | .str s => .ok (s.toList.map fun c => .str (String.ofList [c]))
  | .obj fields => .ok (fields.map fun entry => .str entry.1)
  | v => .error (.wrongType ("'" ++ v.typeName ++ "' object is not iterable"))

def textParts (position : Nat) : List Json → Outcome (List String)
  | [] => .ok []
  | .str s :: rest => do return s :: (← textParts (position + 1) rest)
  | v :: _ =>
    .error (.wrongType ("sequence item " ++ toString position ++ ": expected str instance, " ++
      v.typeName ++ " found"))

def commaJoined (v : Json) : Outcome String := do
  return String.intercalate ", " (← textParts 0 (← elements v))

end Json

end PromptStudio
