import PromptStudio.Session.Run

set_option autoImplicit false

/-!
# Cancellation

A wait can be cut short by a token that is set at some time, or given up because a question, put
before and after the wait, is answered with yes.
-/

namespace PromptStudio

inductive Cancellation where
  | never
  | token
  | answers (values : List Bool)
  deriving DecidableEq, Inhabited

namespace Cancellation

-- The answer to question number `n`; the last one stands for all after it.
def answer (values : List Bool) (n : Nat) : Bool :=
  ((values[n]?).or values.getLast?).getD false

-- Whether to stop. Each question uses an answer up.
def check (c : Cancellation) (s : Session) : Bool × Session :=
  match c with
  | .never => (false, s)
  | .token => (s.isCancelled, s)
  | .answers values => (answer values s.questions, { s with questions := s.questions + 1 })

def isCancelled (c : Cancellation) : Run Bool := fun s =>
  let (stopped, s) := c.check s
  (.ok stopped, s)

-- When a wait until `due` ends: a token ends it early.
def wakeTime (c : Cancellation) (due : Rat) (s : Session) : Rat :=
  match c, s.cancelledFrom with
  | .token, some time => if time < due then time else due
  | _, _ => due

def beforeWait : Failure := .cancelled "Cancelled before backoff wait"

def duringWait : Failure := .cancelled "Cancelled during backoff wait"

def sleep (c : Cancellation) (seconds : Rat) : Run Unit := fun s =>
  match c.check s with
  | (true, s) => (.error beforeWait, s)
  | (false, s) =>
    let s := s.settle
    let due := if 0 < seconds then s.clock + seconds else s.clock
    match c.check (s.advance (c.wakeTime due s)) with
    | (true, s) => (.error duringWait, s)
    | (false, s) => (.ok (), s)

end Cancellation

end PromptStudio
