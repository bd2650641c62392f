import PromptStudio.Console.Option
import PromptStudio.Json.Basic

set_option autoImplicit false

/-!
# Arguments of a command

A command takes one plain word, its brief, and options. Words that nothing takes are left over.
-/

namespace PromptStudio

/-- What a command line gives a command; an option that takes no word has none. -/
structure Arguments where
  brief : Option String := none
  options : Entries (Option String) := []
  leftOver : List String := []
  deriving DecidableEq, Inhabited

namespace Arguments

def leave (a : Arguments) (words : List String) : Arguments :=
  { a with leftOver := a.leftOver ++ words }

def has (a : Arguments) (name : String) : Bool := Entries.has a.options name

def text? (a : Arguments) (name : String) : Option String := (Entries.get? a.options name).join

def solid? (a : Arguments) (name : String) : Option String := (a.text? name).filter (· != "")

end Arguments

structure Command where
  program : String
  options : List CommandOption
  deriving DecidableEq, Inhabited

namespace Command

def give (c : Command) (a : Arguments) (o : CommandOption) (word : Option String) :
    Except Halt Arguments :=
  if o = .helpOption then .error .help
  else
    match word.filter fun word => !o.choices.isEmpty && !o.choices.contains word with
    | some word => .error (o.refusal c.program (invalidChoice word o.choices))
    | none => .ok { a with options := Entries.put a.options o.key word }

def giveAll (c : Command) (last : Option (CommandOption × Option String)) :
    List CommandOption → Arguments → Except Halt Arguments
  | [], a =>
    match last with
    | some (o, word) => c.give a o word
    | none => .ok a
  | o :: rest, a => do c.giveAll last rest (← c.give a o none)

def take (c : Command) : List CommandWord → Arguments → Except Halt Arguments
  | [], a => .ok a
  | .option o name marked value :: rest, a => do
    let b ← CommandOption.unpack c.options c.program o name marked value
    let a := a.leave b.leftOver
    match b.last.filter fun (o, word) => o.takesWord && word.isNone, rest with
    | none, rest => c.take rest (← c.giveAll b.last b.flags a)
    | some (o, _), .plain word :: rest => c.take rest (← c.giveAll (some (o, some word)) b.flags a)
    | some (o, _), _ => .error (o.refusal c.program "expected one argument")
  | .plain word :: rest, a =>
    match a.brief, rest with
    | none, .separator :: rest => c.take rest { a with brief := some word }
    | none, rest => c.take rest { a with brief := some word }
    | some _, rest => c.take rest (a.leave [word])
  | .separator :: rest, a => c.take rest (if a.brief.isNone then a else a.leave ["--"])
  | .unknown word :: rest, a => c.take rest (a.leave [word])

def arguments (c : Command) (words : List String) : Except Halt Arguments := do
  c.take (← CommandOption.classifyAll c.options c.program words) {}

end Command

end PromptStudio
