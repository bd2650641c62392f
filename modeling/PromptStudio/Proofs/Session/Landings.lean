import PromptStudio.Session.Exchange

set_option autoImplicit false

namespace PromptStudio

variable {α : Type} {l : Line α} {x : Exchange α} {s : Session} {o : Outcome α}
  {P : Outcome α → Prop} {Q : Run α → Prop}

def Flight.Comes (flight : Flight α) (P : Outcome α → Prop) : Prop := ∀ s, P (flight.land s).1

namespace Exchange

structure Carries (l : Line α) (Q : Run α → Prop) (x : Exchange α) : Prop where
  line : x.line = l
  flying : ∀ land, x.phase = .flying land → Q land

section Carrying

variable (sends : ∀ s, Q (l.send s).1.land)

theorem Carries.start (l : Line α) (Q : Run α → Prop) (s : Session) : (l.start s).Carries l Q :=
  ⟨rfl, nofun⟩

theorem Carries.finished (carries : x.Carries l Q) (o : Outcome α) : (x.finished o).Carries l Q :=
  ⟨carries.line, nofun⟩

include sends in
theorem Carries.depart (carries : x.Carries l Q) (s : Session) : (x.depart s).1.Carries l Q where
  line := carries.line
  flying land phase := by
    have flight : (x.line.send s).1.land = land := Phase.flying.inj phase
    rw [← flight, carries.line]
    exact sends s

theorem Carries.lieDown (carries : x.Carries l Q) (s : Session) : (x.lieDown s).1.Carries l Q := by
  unfold Exchange.lieDown
  split
  next => exact carries.finished _
  next => exact ⟨carries.line, nofun⟩

theorem Carries.arrive (carries : x.Carries l Q) (land : Run α) (s : Session) :
    (x.arrive land s).1.Carries l Q := by
  unfold Exchange.arrive
  split
  next => exact carries.finished _
  next =>
    split
    next => exact carries.lieDown _
    next => exact carries.finished _

theorem Carries.getUp (carries : x.Carries l Q) (s : Session) : (x.getUp s).1.Carries l Q := by
  unfold Exchange.getUp
  split
  next => exact carries.finished _
  next => exact ⟨carries.line, nofun⟩

include sends in
theorem Carries.step (carries : x.Carries l Q) (s : Session) : (x.step s).1.Carries l Q := by
  unfold Exchange.step
  split
  next => exact carries.depart sends _
  next => exact carries.arrive _ _
  next => exact carries.getUp _
  next => exact carries

include sends in
theorem Carries.steps (carries : x.Carries l Q) (fuel : Nat) (s : Session) :
    (Exchange.steps fuel x s).1.Carries l Q := by
  induction fuel generalizing x s with
  | zero => exact carries
  | succ fuel ih =>
    rw [Exchange.steps]
    split
    next => exact carries
    next => exact ih (carries.step sends s) _

end Carrying

section Ending

def IsCut (o : Outcome α) : Prop := ∃ message, o = .error (.cancelled message)

theorem lieDown_ended (ended : (x.lieDown s).1.phase = .ended o) : IsCut o := by
  unfold lieDown at ended
  split at ended
  next => exact ⟨_, (Phase.ended.inj ended).symm⟩
  next => cases ended

theorem getUp_ended (ended : (x.getUp s).1.phase = .ended o) : IsCut o := by
  unfold getUp at ended
  split at ended
  next => exact ⟨_, (Phase.ended.inj ended).symm⟩
  next => cases ended

theorem arrive_ended {land : Run α} (ended : (x.arrive land s).1.phase = .ended o) :
    IsCut o ∨ o = (land s).1 := by
  unfold arrive at ended
  split at ended
  next landed => exact .inr (by rw [landed]; exact (Phase.ended.inj ended).symm)
  next landed =>
    split at ended
    next => exact .inl (lieDown_ended ended)
    next => exact .inr (by rw [landed]; exact (Phase.ended.inj ended).symm)

structure Comes (l : Line α) (P : Outcome α → Prop) (x : Exchange α) : Prop where
  carries : x.Carries l fun land => ∀ s, P (land s).1
  ended : ∀ o, x.phase = .ended o → P o

variable (lands : ∀ s, (l.send s).1.Comes P) (cut : ∀ o, IsCut o → P o)

include lands cut in
theorem Comes.step (comes : x.Comes l P) (s : Session) : (x.step s).1.Comes l P where
  carries := comes.carries.step lands s
  ended o ended := by
    unfold Exchange.step at ended
    split at ended
    next => cases ended
    next land phase =>
      rcases arrive_ended ended with cancelled | rfl
      · exact cut o cancelled
      · exact comes.carries.flying land phase _
    next => exact cut o (getUp_ended ended)
    next => exact comes.ended o ended

include lands cut in
theorem Comes.steps (comes : x.Comes l P) (fuel : Nat) (s : Session) :
    (Exchange.steps fuel x s).1.Comes l P := by
  induction fuel generalizing x s with
  | zero => exact comes
  | succ fuel ih =>
    rw [Exchange.steps]
    split
    next => exact comes
    next => exact ih (comes.step lands cut s) _

end Ending

end Exchange

theorem Line.run_comes (lands : ∀ s, (l.send s).1.Comes P) (cut : ∀ o, Exchange.IsCut o → P o)
    (unfinished : P (.error (.runtime "exchange is not over"))) (s : Session) :
    P (l.run s).1 := by
  have start : (l.start s).Comes l P := ⟨.start l _ s, nofun⟩
  have last := start.steps lands cut Exchange.stepLimit s
  change P (Exchange.steps Exchange.stepLimit (l.start s) s).1.result
  unfold Exchange.result
  split
  next o phase => exact last.ended o phase
  next => exact unfinished

end PromptStudio
