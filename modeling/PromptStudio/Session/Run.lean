import PromptStudio.Session.Script

set_option autoImplicit false

/-!
# Runs

A run changes a session: it lets time pass, uses scripts up, and leaves records. It ends with a
value or a failure, and what it did before a failure stays done.
-/

namespace PromptStudio

def timeJson (time : Rat) : Json := .float ((Binary64.ofRat time).roundPlaces 3)

/-- A request as it was sent to a provider. -/
structure SentRequest where
  time : Rat
  provider : String
  client : Json
  request : Json
  deriving Inhabited

/-- The tokens that one call was charged for. -/
structure Bill where
  provider : String
  model : String
  input : Int
  output : Int
  deriving DecidableEq, Inhabited

/-- One use of a model caller; `temperature` only where it was passed. -/
structure Ask where
  time : Rat
  user : String
  system : String
  temperature : Option Json
  deriving Inhabited

/-- What a person gets to see. -/
inductive Shown where
  | text (line : String)
  | panel (body : String) (title subtitle : Option String) (border : String)
  | table (title : String) (columns : List (String × String)) (rows : List (List String))
  deriving DecidableEq, Inhabited

/-- `meter` is told of each bill, if the session is metered. What it does about the last one may
depend on all of them, and may be to fail. -/
structure Session where
  clock : Rat := 0
  providers : Script ProviderReply := []
  requests : List SentRequest := []
  metered : Bool := true
  meter : List Bill → Outcome Unit := fun _ => .ok ()
  bills : List Bill := []
  cancelledFrom : Option Rat := none
  questions : Nat := 0
  interrupted : Bool := false
  callers : Script Json := []
  asks : List Ask := []
  shown : List Shown := []
  notes : List Json := []
  deriving Inhabited

namespace Session

def advance (s : Session) (time : Rat) : Session := { s with clock := time }

def tell (s : Session) (line : Shown) : Session := { s with shown := s.shown ++ [line] }

def note (s : Session) (text : Json) : Session := { s with notes := s.notes ++ [text] }

def isCancelled (s : Session) : Bool :=
  match s.cancelledFrom with
  | none => false
  | some time => decide (time ≤ s.clock)

def cancelFrom (s : Session) (time : Rat) : Session :=
  match s.cancelledFrom with
  | none => { s with cancelledFrom := some time }
  | some earlier => if earlier ≤ time then s else { s with cancelledFrom := some time }

def cancel (s : Session) : Session := s.cancelFrom s.clock

-- A person asks to stop; said only once.
def interrupt (s : Session) : Session :=
  let line := "Interrupted: finishing the current cell, then stopping"
  if s.isCancelled then s else (s.tell (.text ("[yellow]" ++ line ++ "[/yellow]"))).cancel

-- An interruption is noticed when the run next has to wait for something.
def settle (s : Session) : Session :=
  if s.interrupted then { s with interrupted := false }.interrupt else s

end Session

/-- A computation over a session. -/
def Run (α : Type) := Session → Outcome α × Session

namespace Run

variable {α β : Type}

def ok (a : α) : Run α := fun s => (.ok a, s)

def fail (f : Failure) : Run α := fun s => (.error f, s)

def bind (x : Run α) (f : α → Run β) : Run β := fun s =>
  match x s with
  | (.ok a, s) => f a s
  | (.error e, s) => (.error e, s)

instance : Monad Run where
  pure := ok
  bind := bind

def of (o : Outcome α) : Run α := fun s => (o, s)

instance : MonadLift (Except Failure) Run where
  monadLift := of

def outcome (x : Run α) : Run (Outcome α) := fun s =>
  match x s with
  | (o, s) => (.ok o, s)

def mapFailure (f : Failure → Failure) (x : Run α) : Run α := fun s =>
  match x s with
  | (.ok a, s) => (.ok a, s)
  | (.error e, s) => (.error (f e), s)

def change (f : Session → Session) : Run Unit := fun s => (.ok (), f s)

def look (f : Session → α) : Run α := fun s => (.ok (f s), s)

-- Tell the meter of a bill.
def tellMeter (bill : Bill) : Run Unit := fun s =>
  (s.meter (s.bills ++ [bill]), { s with bills := s.bills ++ [bill] })

-- Let time pass; a negative time does not.
def wait (seconds : Rat) : Run Unit :=
  change fun s => s.advance (if 0 < seconds then s.clock + seconds else s.clock)

theorem pure_apply (a : α) (s : Session) : (pure a : Run α) s = (.ok a, s) := rfl

theorem bind_apply (x : Run α) (f : α → Run β) (s : Session) :
    (x >>= f) s =
      match x s with
      | (.ok a, s) => f a s
      | (.error e, s) => (.error e, s) := rfl

theorem of_apply (o : Outcome α) (s : Session) : of o s = (o, s) := rfl

end Run

end PromptStudio
