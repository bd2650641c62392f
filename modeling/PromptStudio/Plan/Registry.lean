import PromptStudio.Json.Printer
import PromptStudio.Template.Blocks

set_option autoImplicit false

/-!
# Registry of plan specs

An entry holds the steps of a plan for one output type, and metadata that the steps can mention.
-/

namespace PromptStudio

structure RegistrySpec where
  id : String
  version : Int := 1
  metadata : Entries Json := []
  systemSteps : List Step := []
  userSteps : List Step := []
  deriving Inhabited

namespace RegistrySpec

def read : Reader RegistrySpec :=
  Reader.record "RegistrySpec" fun fields =>
    RegistrySpec.mk
      <$> Reader.needed fields "id" Reader.text
      <*> Reader.withDefault fields "version" 1 Reader.integer
      <*> Reader.withDefault fields "metadata" [] (Reader.mapOf Reader.anything)
      <*> Reader.withDefault fields "system_steps" [] (Reader.tupleOf Step.read)
      <*> Reader.withDefault fields "user_steps" [] (Reader.tupleOf Step.read)

def toJson (s : RegistrySpec) : Json :=
  .obj [("id", .str s.id), ("version", .int s.version), ("metadata", .obj s.metadata),
    ("system_steps", .arr (s.systemSteps.map Step.toJson)),
    ("user_steps", .arr (s.userSteps.map Step.toJson))]

end RegistrySpec

abbrev Registry := Entries RegistrySpec

namespace Registry

def read (v : Entries Json) : Outcome Registry :=
  v.mapM fun (key, raw) => do return (key, ← (RegistrySpec.read raw).toOutcome)

def pick? (r : Registry) (id : String) : Option RegistrySpec :=
  (Entries.get? r id).or (Entries.get? r "default")

-- Look in the given registry, then in the standard one; an empty registry counts as none.
def resolve (standard given : Registry) (id : Option String) : Outcome RegistrySpec :=
  match (pick? given (id.getD "")).or (pick? standard (id.getD "")) with
  | some spec => .ok spec
  | none => .error (.specNotFound (id.getD "None"))

end Registry

-- One line for each item; anything but a list gives no text.
def bulletList (bullet : String) : Json → String
  | .arr items => String.intercalate "\n" (items.map fun item => bullet ++ item.display)
  | _ => ""

-- Add, for each list in the metadata, its text under the name with `List` appended.
def withListTexts (metadata : Entries Json) : Entries Json :=
  metadata.foldl
    (fun (all : Entries Json) (key, v) =>
      match v with
      | .arr _ => Entries.put all (key ++ "List") (.str (bulletList "- " v))
      | _ => all)
    metadata

end PromptStudio
