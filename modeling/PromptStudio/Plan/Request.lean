import PromptStudio.Form.Reader

set_option autoImplicit false

/-!
# Plan requests

What a caller asks of a plan: the brief, the chosen controls as plain maps, and the switches.
-/

namespace PromptStudio

structure Toggles where
  allowPlaceholders : Bool := false
  stripMeta : Bool := false
  aestheticMode : Bool := false
  deriving DecidableEq, Inhabited

def Toggles.read : Reader Toggles :=
  Reader.record "PlanToggles" fun fields =>
    Toggles.mk
      <$> Reader.withDefault fields "allow_placeholders" false Reader.boolean
      <*> Reader.withDefault fields "strip_meta" false Reader.boolean
      <*> Reader.withDefault fields "aesthetic_mode" false Reader.boolean

structure PlanRequest where
  specId : Option String := none
  userInput : String := ""
  tone : Option (Entries Json) := none
  outputType : Option (Entries Json) := none
  format : Option (Entries Json) := none
  length : Option (Entries Json) := none
  notes : String := ""
  contextConstraints : String := ""
  toggles : Toggles := {}
  typeSpecific : Entries Json := []
  deriving Inhabited

namespace PlanRequest

def controlReader : Reader (Option (Entries Json)) :=
  Reader.optional (Reader.mapOf Reader.anything)

def read : Reader PlanRequest :=
  Reader.record "PlanRequest" fun fields =>
    PlanRequest.mk
      <$> Reader.withDefault fields "spec_id" none (Reader.optional Reader.text)
      <*> Reader.withDefault fields "user_input" "" Reader.text
      <*> Reader.withDefault fields "tone" none controlReader
      <*> Reader.withDefault fields "output_type" none controlReader
      <*> Reader.withDefault fields "format" none controlReader
      <*> Reader.withDefault fields "length" none controlReader
      <*> Reader.withDefault fields "notes" "" Reader.text
      <*> Reader.withDefault fields "context_constraints" "" Reader.text
      <*> Reader.withDefault fields "toggles" {} Toggles.read
      <*> Reader.withDefault fields "type_specific" [] (Reader.mapOf Reader.anything)

end PlanRequest

end PromptStudio
