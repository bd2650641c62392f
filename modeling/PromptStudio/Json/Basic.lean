import PromptStudio.Entries
import PromptStudio.Number.Binary64

set_option autoImplicit false

/-!
# JSON values

Whole numbers and doubles are different values; an object keeps the order of its names.
-/

namespace PromptStudio

inductive Json where
  | null
  | bool (value : Bool)
  | int (value : Int)
  | float (value : Binary64)
  | str (value : String)
  | arr (items : List Json)
  | obj (fields : List (String × Json))
  deriving Inhabited

namespace Json

-- Nothing, zero, and whatever is empty do not count.
def truthy : Json → Bool
  | .null => false
  | .bool b => b
  | .int n => n != 0
  | .float x => !x.isZero
  | .str s => s != ""
  | .arr items => !items.isEmpty
  | .obj fields => !fields.isEmpty

def isNull : Json → Bool
  | .null => true
  | _ => false

def asText? : Json → Option String
  | .str s => some s
  | _ => none

def asFields? : Json → Option (Entries Json)
  | .obj fields => some fields
  | _ => none

def asItems? : Json → Option (List Json)
  | .arr items => some items
  | _ => none

-- The value under a name, when this is an object that has it.
def get? (v : Json) (key : String) : Option Json :=
  match v with
  | .obj fields => Entries.get? fields key
  | _ => none

def field (v : Json) (key : String) : Json := (v.get? key).getD .null

def texts (items : List String) : Json := .arr (items.map .str)

def ofOption {α : Type} (write : α → Json) : Option α → Json
  | none => .null
  | some a => write a

def ofTextMap (entries : Entries String) : Json := .obj (entries.map fun (k, v) => (k, .str v))

@[simp] theorem truthy_null : Json.null.truthy = false := rfl
@[simp] theorem truthy_str (s : String) : (Json.str s).truthy = (s != "") := rfl

end Json

end PromptStudio
