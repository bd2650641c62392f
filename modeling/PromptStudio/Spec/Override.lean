import PromptStudio.Spec.Merge

set_option autoImplicit false

/-!
# Overrides

Choices of the caller on top of a spec. Tone and format belong to what was inferred, length to the
constraints; whole parts are merged as they are.
-/

namespace PromptStudio

def chosen (choices : Section) (key : String) : Option Json :=
  match Entries.get? choices key with
  | some v => if v.truthy then some v else none
  | none => none

def chosenUnder (choices : Section) (key target : String) : Section :=
  match chosen choices key with
  | some v => [(target, v)]
  | none => []

def part (key : String) (fields : Section) : Section :=
  if fields.isEmpty then [] else [(key, .obj fields)]

def overrideUpdates (choices : Section) : Outcome Section := do
  let inferred := chosenUnder choices "tone" "tone" ++ chosenUnder choices "format" "format"
  let length := chosenUnder choices "length" "length"
  let own := ((chosen choices "type_specific").or (chosen choices "typeSpecific")).map
    fun v => ("type_specific", v)
  let constraints ← match chosen choices "constraints" with
    | some v => (PromptSpec.spread v).map (Entries.overlay length ·)
    | none => .ok length
  return part "inferred" inferred ++ part "constraints" constraints ++ own.toList ++
    ["intent", "audience", "context", "quality"].flatMap fun key => chosenUnder choices key key

namespace PromptSpec

def override (s : PromptSpec) (choices : Json) : Outcome PromptSpec :=
  match choices with
  | .obj (entry :: rest) => do
    let updates ← overrideUpdates (entry :: rest)
    (s.mergePatch updates).toOutcome
  | v => if v.truthy then .error (v.lacks "get") else .ok s

end PromptSpec

end PromptStudio
