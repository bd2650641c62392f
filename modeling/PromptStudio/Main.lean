import PromptStudio.Console.Display
import PromptStudio.Console.Program

set_option autoImplicit false

/-!
# The command line

Settings come from the environment and an experiment from its file. No provider is connected, so
that calls of models end as not available.
-/

namespace PromptStudio.CommandLine

def programName : String := "promptstudio"

def usage : String := String.intercalate "\n"
  (("usage: " ++ programName ++ " [-h] COMMAND [BRIEF] [OPTION...]") ::
    Task.all.map fun t =>
      "  " ++ t.name ++ ": " ++
        String.intercalate ", " ((t.command programName).options.map fun o =>
          String.intercalate "/" o.names))

def environment : IO (Entries String) := do
  let values ← Settings.variableNames.mapM fun name => do
    return (← IO.getEnv name).map fun value => (name, value)
  return values.filterMap id

def inputFiles (i : Invocation) : IO (Entries String) := do
  match i.arguments.solid? "--input" with
  | none => return []
  | some name =>
    let path := (Pathname.ofText name).text
    try
      return [(path, ← IO.FS.readFile path)]
    catch _ => return []

-- A file that was just made tells the time.
def currentMoment : IO Moment := do
  let (_, path) ← IO.FS.createTempFile
  let written := (← path.metadata).modified
  IO.FS.removeFile path
  match Moment.ofSeconds written.sec (written.nsec.toNat / 1000) with
  | .ok moment => return moment
  | .error reason => throw (IO.userError reason.message)

def unconnected : Script ProviderReply :=
  [{ answer := .error (.runtime "no provider is connected") }]

def save (directory : String) (files : Entries String) : IO Unit := do
  unless files.isEmpty do
    IO.FS.createDirAll directory
    for (name, content) in files do
      IO.FS.writeFile (directory ++ "/" ++ name) content

def finish (settings : Settings) (answer : Outcome Ending) : IO UInt32 := do
  match answer with
  | .error f =>
    IO.eprintln f.message
    return 1
  | .ok ending =>
    save settings.outputDirectory ending.saved
    match ending with
    | .done _ => return 0
    | .exit code => return code.toUInt32
    | .refused message =>
      IO.eprintln message
      return 2

def carryOut (i : Invocation) : IO UInt32 := do
  match Settings.ofEnvironment (← environment) with
  | .error f =>
    IO.eprintln f.message
    return 1
  | .ok settings =>
    let place : Workplace :=
      { settings := settings, files := ← inputFiles i, now := ← currentMoment }
    let (answer, session) := place.run i { providers := unconnected }
    for line in session.shown.flatMap Shown.lines do
      IO.println line
    finish settings answer

end PromptStudio.CommandLine

open PromptStudio in
def main (arguments : List String) : IO UInt32 := do
  match Invocation.ofWords CommandLine.programName arguments with
  | .ok i => CommandLine.carryOut i
  | .error .help =>
    IO.println CommandLine.usage
    return 0
  | .error (.refused message) =>
    IO.eprintln message
    return 2
