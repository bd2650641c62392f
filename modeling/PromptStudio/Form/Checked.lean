import PromptStudio.Failure

set_option autoImplicit false

/-!
# Checked values

A value, or every problem found on the way to it. Problems of two parts are reported together, in
the order of the parts; a failure that is no problem of a field stops the check at once.
-/

namespace PromptStudio

inductive Checked (α : Type) where
  | ok (value : α)
  | bad (problems : List Problem)
  | stop (failure : Failure)
  deriving Inhabited

namespace Checked

variable {α β : Type}

def map (f : α → β) : Checked α → Checked β
  | .ok a => .ok (f a)
  | .bad ps => .bad ps
  | .stop failure => .stop failure

def seq (f : Checked (α → β)) (x : Unit → Checked α) : Checked β :=
  match f with
  | .stop failure => .stop failure
  | .ok f => (x ()).map f
  | .bad ps =>
    match x () with
    | .ok _ => .bad ps
    | .bad qs => .bad (ps ++ qs)
    | .stop failure => .stop failure

instance : Functor Checked where
  map := Checked.map

instance : Applicative Checked where
  pure := .ok
  seq := Checked.seq

def toOption : Checked α → Option α
  | .ok a => some a
  | _ => none

def wrong (message : String) : Checked α := .bad [⟨[], message⟩]

def under (step : String) : Checked α → Checked α
  | .ok a => .ok a
  | .bad ps => .bad (ps.map fun p => { p with path := step :: p.path })
  | .stop failure => .stop failure

def toOutcome : Checked α → Outcome α
  | .ok a => .ok a
  | .bad ps => .error (.invalid ps)
  | .stop failure => .error failure

@[simp] theorem under_ok (step : String) (a : α) : (Checked.ok a).under step = .ok a := rfl

-- Check every item, the position being the step.
def items (check : α → Checked β) (start : Nat) : List α → Checked (List β)
  | [] => .ok []
  | a :: rest =>
    Checked.seq (((check a).under (toString start)).map List.cons)
      fun _ => items check (start + 1) rest

-- Check every entry, the name being the step.
def entries (check : α → Checked β) : List (String × α) → Checked (List (String × β))
  | [] => .ok []
  | (key, a) :: rest =>
    Checked.seq (((check a).under key).map fun b more => (key, b) :: more)
      fun _ => entries check rest

end Checked

end PromptStudio
