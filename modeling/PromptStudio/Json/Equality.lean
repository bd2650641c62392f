import PromptStudio.Json.Basic

set_option autoImplicit false

/-!
# Equality of values

`Json.equals` compares numbers by exact value, takes truth values for the numbers 0 and 1, and
ignores the order of names. `strictEquals` sets truth values apart at the top.
-/

namespace PromptStudio

namespace Json

def scalarEquals : Json → Json → Bool
  | .null, .null => true
  | .str a, .str b => a == b
  | .bool a, .bool b => a == b
  | .bool a, .int n => (if a then 1 else 0) == n
  | .int n, .bool a => (if a then 1 else 0) == n
  | .bool a, .float x => x.equalsInt (if a then 1 else 0)
  | .float x, .bool a => x.equalsInt (if a then 1 else 0)
  | .int m, .int n => m == n
  | .int n, .float x => x.equalsInt n
  | .float x, .int n => x.equalsInt n
  | .float x, .float y => x.equals y
  | _, _ => false

mutual

def equals : Json → Json → Bool
  | .arr xs, .arr ys => equalsItems xs ys
  | .obj xs, .obj ys => xs.length == ys.length && equalsFields xs ys
  | x, y => scalarEquals x y

def equalsItems : List Json → List Json → Bool
  | [], [] => true
  | x :: xs, y :: ys => x.equals y && equalsItems xs ys
  | _, _ => false

-- Every entry on the left has an equal one of its name on the right.
def equalsFields : List (String × Json) → List (String × Json) → Bool
  | [], _ => true
  | (key, x) :: xs, ys =>
    (match Entries.get? ys key with
      | some y => x.equals y
      | none => false) && equalsFields xs ys

end

end Json

-- Equality for conditions; `none` stands for a path that leads nowhere.
def strictEquals : Option Json → Option Json → Bool
  | none, none => true
  | some (.bool a), some (.bool b) => a == b
  | some (.bool _), _ => false
  | _, some (.bool _) => false
  | some x, some y => x.equals y
  | _, _ => false

end PromptStudio
