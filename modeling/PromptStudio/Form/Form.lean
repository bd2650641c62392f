import PromptStudio.Form.Reader

set_option autoImplicit false

/-!
# Forms

A form is a list of fields, each with a kind and a default. Filling a form checks the fields that
are given, brings their values to the form's own shape, and completes the rest.
-/

namespace PromptStudio

inductive Kind where
  | text
  | integer
  | boolean
  | anything
  | texts
  | values
  | textMap
  | tag (name : String)
  | orNull (kind : Kind)
  deriving DecidableEq, Inhabited

namespace Kind

-- The accepted value in the form's own shape: what reads as a number is stored as a number.
def read : Kind → Reader Json
  | .text, v => (Reader.text v).map .str
  | .integer, v => (Reader.integer v).map .int
  | .boolean, v => (Reader.boolean v).map .bool
  | .anything, v => .ok v
  | .texts, v => (Reader.listOf Reader.text v).map Json.texts
  | .values, v => (Reader.listOf Reader.anything v).map .arr
  | .textMap, v => (Reader.mapOf Reader.text v).map Json.ofTextMap
  | .tag name, v => (Reader.choice [(name, name)] v).map .str
  | .orNull _, .null => .ok .null
  | .orNull kind, v => kind.read v

def accepts (kind : Kind) (v : Json) : Bool := (kind.read v).toOption.isSome

end Kind

structure Field where
  name : String
  kind : Kind
  default : Json
  deriving Inhabited

/-- `isOpen` forms keep names they do not declare. -/
structure Form where
  name : String
  fields : List Field
  isOpen : Bool := false
  deriving Inhabited

/-- A filled form: declared fields first and in order, then the others as given. -/
abbrev Section := Entries Json

namespace Section

def value (s : Section) (key : String) : Json := (Entries.get? s key).getD .null

def text (s : Section) (key : String) : String := ((value s key).asText?).getD ""

def text? (s : Section) (key : String) : Option String := (value s key).asText?

def flag (s : Section) (key : String) : Bool := (value s key).truthy

def items (s : Section) (key : String) : List Json := ((value s key).asItems?).getD []

def texts (s : Section) (key : String) : List String := (items s key).filterMap Json.asText?

def textOr (s : Section) (key fallback : String) : String :=
  if text s key == "" then fallback else text s key

end Section

namespace Form

def declares (f : Form) (key : String) : Bool := f.fields.any (·.name == key)

def others (f : Form) (given : Section) : Section :=
  if f.isOpen then given.filter (fun entry => !f.declares entry.1) else []

-- Check the given fields, in the order of the form, without completing them.
def givenFields (given : Section) : List Field → Checked Section
  | [] => .ok []
  | field :: rest =>
    match Entries.get? given field.name with
    | none => givenFields given rest
    | some v =>
      Checked.seq (((field.kind.read v).under field.name).map fun v more => (field.name, v) :: more)
        fun _ => givenFields given rest

def given (f : Form) (entries : Section) : Checked Section :=
  (givenFields entries f.fields).map (· ++ f.others entries)

-- Every declared field, with its default where it is missing, then the others.
def complete (f : Form) (given : Section) : Section :=
  f.fields.map (fun field => (field.name, (Entries.get? given field.name).getD field.default)) ++
    f.others given

def fill (f : Form) (entries : Section) : Checked Section := (f.given entries).map f.complete

def read (f : Form) : Reader Section := Reader.record f.name f.fill

def readGiven (f : Form) : Reader Section := Reader.record f.name f.given

def empty (f : Form) : Section := f.complete []

def refused (f : Form) (entries : Section) : List String :=
  match f.fill entries with
  | .bad problems => problems.filterMap (·.path.head?)
  | _ => []

end Form

end PromptStudio
