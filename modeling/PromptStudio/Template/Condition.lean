import PromptStudio.Form.Reader
import PromptStudio.Json.Equality
import PromptStudio.Template.Path

set_option autoImplicit false

/-!
# Conditions

A condition compares what a path leads to with a constant. A condition without a field holds.
-/

namespace PromptStudio

inductive Operator where
  | equals
  | notEquals
  | isIn
  | notIn
  | present
  | truthy
  | falsey
  deriving DecidableEq, Inhabited

namespace Operator

def named : List (String × Operator) :=
  [("equals", .equals), ("notEquals", .notEquals), ("in", .isIn), ("notIn", .notIn),
    ("exists", .present), ("truthy", .truthy), ("falsey", .falsey)]

def name : Operator → String
  | .equals => "equals"
  | .notEquals => "notEquals"
  | .isIn => "in"
  | .notIn => "notIn"
  | .present => "exists"
  | .truthy => "truthy"
  | .falsey => "falsey"

-- Null stands for `truthy`; `==` and `!=` are other spellings.
def read : Reader Operator
  | .null => .ok .truthy
  | .str "==" => .ok .equals
  | .str "!=" => .ok .notEquals
  | .arr _ => .stop (.wrongType "unhashable type: 'list'")
  | .obj _ => .stop (.wrongType "unhashable type: 'dict'")
  | v => Reader.choice named v

end Operator

structure Condition where
  field : Option String := none
  operator : Operator := .truthy
  value : Json := .null
  deriving Inhabited

namespace Condition

def read : Reader Condition :=
  Reader.record "Condition" fun fields =>
    Condition.mk
      <$> Reader.withDefault fields "field" none (Reader.optional Reader.text)
      <*> Reader.withDefault fields "operator" .truthy Operator.read
      <*> Reader.withDefault fields "value" .null Reader.anything

def toJson (c : Condition) : Json :=
  .obj [("field", Json.ofOption .str c.field), ("operator", .str c.operator.name),
    ("value", c.value)]

-- Equality of a place with a constant; records and moments equal no constant.
def matchesConstant (place : Option Datum) (constant : Json) : Bool :=
  match place with
  | none => false
  | some d => match d.json? with
    | some v => strictEquals (some v) (some constant)
    | none => false

def isPresent : Option Datum → Bool
  | none => false
  | some (.plain .null) => false
  | some (.plain (.str s)) => s != ""
  | some _ => true

def holdsAt (operator : Operator) (constant : Json) (place : Option Datum) : Bool :=
  match operator with
  | .equals => matchesConstant place constant
  | .notEquals => !matchesConstant place constant
  | .isIn =>
    match constant with
    | .arr options => options.any (matchesConstant place)
    | _ => false
  | .notIn =>
    match constant with
    | .arr options => !options.any (matchesConstant place)
    | _ => false
  | .present => isPresent place
  | .truthy => (place.map Datum.truthy).getD false
  | .falsey => !(place.map Datum.truthy).getD false

def holds (c : Condition) (context : Option Datum) : Bool :=
  match c.field with
  | none => true
  | some field => field == "" || holdsAt c.operator c.value (resolve context field.toList)

end Condition

end PromptStudio
