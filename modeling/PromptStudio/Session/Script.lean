import PromptStudio.Failure
import PromptStudio.Json.Basic

set_option autoImplicit false

/-!
# Scripts

A script says what the n-th use of something brings: after a delay an answer or a failure. The last
entry stands for all uses after it.
-/

namespace PromptStudio

structure Entry (α : Type) where
  interrupts : Bool := false
  delay : Rat := 0
  answer : Outcome α
  deriving Inhabited

abbrev Script (α : Type) := List (Entry α)

-- The entry for the use number `n`, counted from 0; an empty script always gives `fallback`.
def Script.entry {α : Type} (s : Script α) (fallback : α) (n : Nat) : Entry α :=
  ((s[n]?).or s.getLast?).getD { answer := .ok fallback }

/-- What a provider sends back; `blocks` replaces the text where a reply comes in parts. -/
structure ProviderReply where
  text : Option String := some ""
  blocks : Option (List (String × Option String)) := none
  usage : Option (Json × Json) := none
  deriving Inhabited

end PromptStudio
