import PromptStudio.Json.Basic

set_option autoImplicit false

namespace PromptStudio.Json

mutual

def Distinct : Json → Prop
  | .arr items => ItemsDistinct items
  | .obj fields => (Entries.keys fields).Nodup ∧ FieldsDistinct fields
  | _ => True

def ItemsDistinct : List Json → Prop
  | [] => True
  | item :: rest => item.Distinct ∧ ItemsDistinct rest

def FieldsDistinct : List (String × Json) → Prop
  | [] => True
  | (_, v) :: rest => v.Distinct ∧ FieldsDistinct rest

end

theorem FieldsDistinct.of_mem {fields : List (String × Json)} (distinct : FieldsDistinct fields)
    {key : String} {v : Json} (inside : (key, v) ∈ fields) : v.Distinct := by
  induction fields with
  | nil => simp at inside
  | cons entry rest ih =>
    rcases List.mem_cons.mp inside with rfl | later
    · exact distinct.1
    · exact ih distinct.2 later

theorem Distinct.names {fields : List (String × Json)} (distinct : (Json.obj fields).Distinct) :
    (Entries.keys fields).Nodup :=
  distinct.1

theorem Distinct.value {fields : List (String × Json)} (distinct : (Json.obj fields).Distinct)
    {key : String} {v : Json} (inside : (key, v) ∈ fields) : v.Distinct :=
  FieldsDistinct.of_mem distinct.2 inside

end PromptStudio.Json
