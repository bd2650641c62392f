import PromptStudio.Console.Arguments
import PromptStudio.Failure

set_option autoImplicit false

/-!
# Invocations

The commands of the program, and the one that a command line asks for.
-/

namespace PromptStudio

inductive Task where
  | plan
  | pipeline
  | matrix
  deriving DecidableEq, Inhabited

namespace Task

def all : List Task := [.plan, .pipeline, .matrix]

def name : Task → String
  | .plan => "plan"
  | .pipeline => "pipeline"
  | .matrix => "matrix"

def ofName? (name : String) : Option Task := all.find? fun t => t.name == name

def flag (name : String) : CommandOption := { names := [name], takesWord := false }

def word (name : String) : CommandOption := { names := [name] }

def briefOptions : List CommandOption :=
  [.helpOption, { names := ["--output-type", "-t"], choices := outputTypeNames },
    { names := ["--notes", "-n"] }]

def ownOptions : Task → List CommandOption
  | .plan =>
    [word "--tone", word "--format", word "--length", word "--constraints", flag "--infer",
      flag "--strip-meta"]
  | .pipeline =>
    [word "--tone", word "--format", word "--length", word "--model", flag "--skip-analysis"]
  | .matrix =>
    [{ names := ["--input", "-i"] }, word "--tones", word "--lengths", word "--formats",
      word "--model", word "--execution-model", flag "--execute", word "--judge-model",
      flag "--judge", flag "--dual-judge",
      { names := ["--rubric"], choices := ["lenient", "standard", "strict"] }, flag "--save"]

def command (t : Task) (program : String) : Command where
  program := program ++ " " ++ t.name
  options := briefOptions ++ t.ownOptions

end Task

structure Invocation where
  task : Task
  arguments : Arguments
  deriving DecidableEq, Inhabited

namespace Invocation

def unrecognized (program : String) (words : List String) : Halt :=
  .refused (program ++ ": error: unrecognized arguments: " ++ String.intercalate " " words)

def unknownTask (program word : String) : Halt :=
  .refused (program ++ ": error: argument command: " ++
    invalidChoice word (Task.all.map Task.name))

-- The invocation of a command; words left over before it count as its own.
def ofTask (program : String) (leftOver : List String) (name : String) (words : List String) :
    Except Halt Invocation := do
  match Task.ofName? name with
  | none => throw (unknownTask program name)
  | some task =>
    let a ← (task.command program).arguments words
    match leftOver ++ a.leftOver with
    | [] => return ⟨task, a⟩
    | words => throw (unrecognized program words)

-- Before its command a program itself takes no option but the one for help.
def options : List CommandOption := [.helpOption]

def seek (program : String) (leftOver : List String) : List String → Except Halt Invocation
  | [] => .error (if leftOver.isEmpty then .help else unrecognized program leftOver)
  | ["--"] => .error (unrecognized program (leftOver ++ ["--"]))
  | "--" :: _ => .error (unknownTask program "--")
  | word :: rest => do
    match ← CommandOption.classify options program word with
    | .option o name marked value =>
      let _ ← CommandOption.unpack options program o name marked value
      throw .help
    | .unknown word => seek program (leftOver ++ [word]) rest
    | .plain _ => ofTask program leftOver word rest
    | .separator => ofTask program leftOver word rest

def ofWords (program : String) (words : List String) : Except Halt Invocation :=
  seek program [] words

end Invocation

end PromptStudio
