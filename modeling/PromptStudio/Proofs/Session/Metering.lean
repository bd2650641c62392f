import PromptStudio.Proofs.Session.Landings

set_option autoImplicit false

namespace PromptStudio

variable {α β : Type} {x : Exchange α} {l : Line α} {metered : Bool}
  {meter : List Bill → Outcome Unit}

def Session.meteredBy (s : Session) (metered : Bool) (meter : List Bill → Outcome Unit)
    (bills : List Bill) : Session :=
  { s with metered := metered, meter := meter, bills := bills }

/-- Another meter makes no difference but to the bills. -/
def Run.Blind (x : Run α) : Prop :=
  ∀ s metered meter bills, ∃ later,
    x (s.meteredBy metered meter bills) = ((x s).1, (x s).2.meteredBy metered meter later)

namespace Run

theorem of_blind (o : Outcome α) : (of o).Blind := fun _ _ _ bills => ⟨bills, rfl⟩

theorem Blind.bind {x : Run α} {f : α → Run β} (first : x.Blind) (later : ∀ a, (f a).Blind) :
    (x >>= f).Blind := by
  intro s metered meter bills
  obtain ⟨between, same⟩ := first s metered meter bills
  simp only [bind_apply, same]
  cases ran : x s with
  | mk o s' =>
    cases o with
    | error f => exact ⟨between, rfl⟩
    | ok a => exact later a s' metered meter between

theorem Blind.mapFailure {x : Run α} (blind : x.Blind) (f : Failure → Failure) :
    (x.mapFailure f).Blind := by
  intro s metered meter bills
  obtain ⟨later, same⟩ := blind s metered meter bills
  refine ⟨later, ?_⟩
  simp only [Run.mapFailure, same]
  cases ran : x s with
  | mk o s' => cases o <;> rfl

end Run

section Waiting

variable {bills : List Bill} {s : Session}

theorem Session.interrupt_meteredBy (s : Session) (metered : Bool)
    (meter : List Bill → Outcome Unit) (bills : List Bill) :
    (s.meteredBy metered meter bills).interrupt = s.interrupt.meteredBy metered meter bills := by
  unfold interrupt
  have same : (s.meteredBy metered meter bills).isCancelled = s.isCancelled := rfl
  rw [same]
  split
  next => rfl
  next =>
    unfold cancel cancelFrom tell meteredBy
    dsimp only
    split
    next => rfl
    next => split <;> rfl

theorem Session.settle_meteredBy (s : Session) (metered : Bool)
    (meter : List Bill → Outcome Unit) (bills : List Bill) :
    (s.meteredBy metered meter bills).settle = s.settle.meteredBy metered meter bills := by
  unfold settle
  have same : (s.meteredBy metered meter bills).interrupted = s.interrupted := rfl
  rw [same]
  split
  next => exact interrupt_meteredBy { s with interrupted := false } metered meter bills
  next => rfl

theorem Cancellation.check_meteredBy (k : Cancellation) :
    k.check (s.meteredBy metered meter bills) =
      ((k.check s).1, (k.check s).2.meteredBy metered meter bills) := by
  cases k <;> rfl

theorem Exchange.wake_meteredBy (x : Exchange α) :
    x.wake (s.meteredBy metered meter bills) = x.wake s := by
  unfold wake
  cases x.phase <;> rfl

end Waiting

structure Line.Blind (l : Line α) : Prop where
  send : ∀ s metered meter bills, l.send (s.meteredBy metered meter bills) =
    ((l.send s).1, (l.send s).2.meteredBy metered meter bills)
  lands : ∀ s, (l.send s).1.land.Blind

namespace Exchange

theorem lieDown_blind (x : Exchange α) (s : Session) (bills : List Bill) :
    x.lieDown (s.meteredBy metered meter bills) =
      ((x.lieDown s).1, (x.lieDown s).2.meteredBy metered meter bills) := by
  unfold lieDown
  rw [Cancellation.check_meteredBy]
  cases asked : x.line.cancellation.check s with
  | mk stop after =>
    cases stop with
    | true => rfl
    | false =>
      simp only [Session.settle_meteredBy]
      rfl

theorem getUp_blind (x : Exchange α) (s : Session) (bills : List Bill) :
    x.getUp (s.meteredBy metered meter bills) =
      ((x.getUp s).1, (x.getUp s).2.meteredBy metered meter bills) := by
  unfold getUp
  rw [Cancellation.check_meteredBy]
  cases asked : x.line.cancellation.check s with
  | mk stop after => cases stop <;> rfl

theorem arrive_blind {land : Run α} (blind : land.Blind) (s : Session) (bills : List Bill) :
    ∃ later, x.arrive land (s.meteredBy metered meter bills) =
      ((x.arrive land s).1, (x.arrive land s).2.meteredBy metered meter later) := by
  obtain ⟨later, same⟩ := blind s metered meter bills
  refine ⟨later, ?_⟩
  unfold arrive
  rw [same]
  cases landed : land s with
  | mk o after =>
    cases o with
    | ok a => rfl
    | error f =>
      dsimp only
      split
      next => exact lieDown_blind x after later
      next => rfl

theorem step_blind (blind : l.Blind) (carries : x.Carries l Run.Blind) (s : Session)
    (metered : Bool) (meter : List Bill → Outcome Unit) (bills : List Bill) :
    ∃ later, x.step (s.meteredBy metered meter bills) =
      ((x.step s).1, (x.step s).2.meteredBy metered meter later) := by
  unfold step
  rw [wake_meteredBy]
  have advanced (time : Rat) : (s.meteredBy metered meter bills).advance time =
      (s.advance time).meteredBy metered meter bills := rfl
  rw [advanced]
  cases phase : x.phase with
  | ready =>
    refine ⟨bills, ?_⟩
    simp only [depart, carries.line, blind.send]
    rfl
  | flying land => exact arrive_blind (carries.flying land phase) _ bills
  | resting => exact ⟨bills, getUp_blind x _ bills⟩
  | ended o => exact ⟨bills, rfl⟩

theorem steps_blind (blind : l.Blind) (carries : x.Carries l Run.Blind) (fuel : Nat) (s : Session)
    (metered : Bool) (meter : List Bill → Outcome Unit) (bills : List Bill) :
    ∃ later, steps fuel x (s.meteredBy metered meter bills) =
      ((steps fuel x s).1, (steps fuel x s).2.meteredBy metered meter later) := by
  induction fuel generalizing x s bills with
  | zero => exact ⟨bills, rfl⟩
  | succ fuel ih =>
    rw [steps, steps]
    split
    next => exact ⟨bills, rfl⟩
    next =>
      obtain ⟨between, same⟩ := step_blind blind carries s metered meter bills
      rw [same]
      exact ih (carries.step blind.lands s) _ between

end Exchange

theorem Line.run_blind (blind : l.Blind) : l.run.Blind := by
  intro s metered meter bills
  obtain ⟨later, same⟩ :=
    Exchange.steps_blind blind (.start l _ s) Exchange.stepLimit s metered meter bills
  refine ⟨later, ?_⟩
  have start : l.start (s.meteredBy metered meter bills) = l.start s := rfl
  simp only [run, start, same]

end PromptStudio
