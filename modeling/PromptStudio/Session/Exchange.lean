import PromptStudio.Gateway.Diagnosis
import PromptStudio.Session.Cancellation

set_option autoImplicit false

/-!
# Exchanges

An exchange sends a request, waits for what comes back, and may send it again after a rest. It goes
on in steps, so that two exchanges can share one session, each taking its steps when they are due.
-/

namespace PromptStudio

/-- A request on its way: how long it takes and what comes of it. -/
structure Flight (α : Type) where
  seconds : Rat
  land : Run α

/-- How a request is sent, whether it is tried again, and who may cancel the rest between. -/
structure Line (α : Type) where
  send : Session → Flight α × Session
  retries : Bool
  cancellation : Cancellation

inductive Phase (α : Type) where
  | ready
  | flying (land : Run α)
  | resting
  | ended (outcome : Outcome α)

/-- `sent` counts the requests so far; the next step is taken at `due`. -/
structure Exchange (α : Type) where
  line : Line α
  sent : Nat := 0
  due : Rat
  phase : Phase α := .ready

def restSeconds : List Nat := [1, 2, 4, 8, 16]

-- The rest after attempt number `n`, counted from 1.
def restAfter (n : Nat) : Rat := (((restSeconds[n - 1]?).or restSeconds.getLast?).getD 0 : Nat)

def retryLimit (f : Failure) : Nat :=
  match f with
  | .model e => if e.kind = .unavailable then 2 else 5
  | _ => 5

namespace Exchange

variable {α : Type}

def isOver (x : Exchange α) : Bool :=
  match x.phase with
  | .ended _ => true
  | _ => false

def finished (x : Exchange α) (o : Outcome α) : Exchange α := { x with phase := .ended o }

def wake (x : Exchange α) (s : Session) : Rat :=
  match x.phase with
  | .resting => x.line.cancellation.wakeTime x.due s
  | _ => x.due

def triesAgain (x : Exchange α) (f : Failure) : Bool :=
  x.line.retries && f.isRetryable && decide (x.sent ≤ retryLimit f)

def depart (x : Exchange α) (s : Session) : Exchange α × Session :=
  let (flight, s) := x.line.send s
  ({ x with
      sent := x.sent + 1
      due := s.clock + flight.seconds
      phase := .flying flight.land }, s)

-- Rest before another attempt, unless cancelled.
def lieDown (x : Exchange α) (s : Session) : Exchange α × Session :=
  match x.line.cancellation.check s with
  | (true, s) => (x.finished (.error Cancellation.beforeWait), s)
  | (false, s) => ({ x with due := s.clock + restAfter x.sent, phase := .resting }, s.settle)

def arrive (x : Exchange α) (land : Run α) (s : Session) : Exchange α × Session :=
  match land s with
  | (.ok a, s) => (x.finished (.ok a), s)
  | (.error f, s) => if x.triesAgain f then x.lieDown s else (x.finished (.error f), s)

def getUp (x : Exchange α) (s : Session) : Exchange α × Session :=
  match x.line.cancellation.check s with
  | (true, s) => (x.finished (.error Cancellation.duringWait), s)
  | (false, s) => ({ x with phase := .ready }, s)

def step (x : Exchange α) (s : Session) : Exchange α × Session :=
  let s := s.advance (x.wake s)
  match x.phase with
  | .ready => x.depart s
  | .flying land => x.arrive land s
  | .resting => x.getUp s
  | .ended _ => (x, s)

-- Six attempts of three steps each are the most there can be.
def stepLimit : Nat := 18

def steps : (fuel : Nat) → Exchange α → Session → Exchange α × Session
  | 0, x, s => (x, s)
  | fuel + 1, x, s =>
    if x.isOver then (x, s)
    else
      let (x, s) := x.step s
      steps fuel x s

def result (x : Exchange α) : Outcome α :=
  match x.phase with
  | .ended o => o
  | _ => .error (.runtime "exchange is not over")

-- Two exchanges in one session: the step that is due first is taken first.
def jointSteps {β : Type} :
    (fuel : Nat) → Exchange α → Exchange β → Session → Exchange α × Exchange β × Session
  | 0, x, y, s => (x, y, s)
  | fuel + 1, x, y, s =>
    if x.isOver && y.isOver then (x, y, s)
    else if y.isOver || (!x.isOver && decide (x.wake s ≤ y.wake s)) then
      let (x, s) := x.step s
      jointSteps fuel x y s
    else
      let (y, s) := y.step s
      jointSteps fuel x y s

end Exchange

namespace Line

variable {α β : Type}

def start (l : Line α) (s : Session) : Exchange α := { line := l, due := s.clock }

def run (l : Line α) : Run α := fun s =>
  let (x, s) := Exchange.steps Exchange.stepLimit (l.start s) s
  (x.result, s)

def runBoth (first : Line α) (second : Line β) : Run (Outcome α × Outcome β) := fun s =>
  let (x, y, s) := Exchange.jointSteps (2 * Exchange.stepLimit) (first.start s) (second.start s) s
  (.ok (x.result, y.result), s.settle)

end Line

def Script.line (cancellation : Cancellation) : Line Json where
  send s :=
    let entry := s.callers.entry .null s.notes.length
    (⟨entry.delay, Run.of entry.answer⟩, s.note (timeJson s.clock))
  retries := true
  cancellation := cancellation

end PromptStudio
