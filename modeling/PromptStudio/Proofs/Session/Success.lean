import PromptStudio.Session.Exchange

set_option autoImplicit false

namespace PromptStudio

variable {α : Type} {l : Line α} {I : Session → Prop} {x : Exchange α} {s t : Session}

namespace Line

/-- Nothing in an exchange on the line spoils the property, but a landing that succeeds may. -/
structure Keeps (l : Line α) (I : Session → Prop) : Prop where
  advance : ∀ s time, I s → I (s.advance time)
  settle : ∀ s, I s → I s.settle
  check : ∀ s, I s → I (l.cancellation.check s).2
  send : ∀ s, I s → I (l.send s).2
  failed : ∀ s t f after, I t → (l.send s).1.land t = (.error f, after) → I after

def landing (l : Line α) (s : Session) : Outcome α × Session :=
  (l.send s).1.land ((l.send s).2.advance ((l.send s).2.clock + (l.send s).1.seconds))

end Line

namespace Exchange

inductive Kept (l : Line α) (I : Session → Prop) (x : Exchange α) (s : Session) : Prop where
  | waiting (line : x.line = l) (phase : x.phase = .ready ∨ x.phase = .resting) (kept : I s)
  | flying (t : Session) (line : x.line = l) (phase : x.phase = .flying (l.send t).1.land)
      (sent : (l.send t).2 = s) (due : x.due = s.clock + (l.send t).1.seconds) (kept : I t)
  | failed (f : Failure) (phase : x.phase = .ended (.error f)) (kept : I s)
  | landed (a : α) (t : Session) (phase : x.phase = .ended (.ok a))
      (landing : l.landing t = (.ok a, s)) (kept : I t)

theorem Kept.lieDown (keeps : l.Keeps I) (line : x.line = l) (kept : I s) :
    (x.lieDown s).1.Kept l I (x.lieDown s).2 := by
  have asked := keeps.check s kept
  unfold Exchange.lieDown
  split
  next after checked =>
    rw [← line, checked] at asked
    exact .failed _ rfl asked
  next after checked =>
    rw [← line, checked] at asked
    exact .waiting line (.inr rfl) (keeps.settle after asked)

theorem Kept.getUp (keeps : l.Keeps I) (line : x.line = l) (kept : I s) :
    (x.getUp s).1.Kept l I (x.getUp s).2 := by
  have asked := keeps.check s kept
  unfold Exchange.getUp
  split
  next after checked =>
    rw [← line, checked] at asked
    exact .failed _ rfl asked
  next after checked =>
    rw [← line, checked] at asked
    exact .waiting line (.inl rfl) asked

theorem Kept.arrive (keeps : l.Keeps I) (line : x.line = l) (kept : I t)
    (due : x.due = (l.send t).2.clock + (l.send t).1.seconds) :
    (x.arrive (l.send t).1.land ((l.send t).2.advance x.due)).1.Kept l I
      (x.arrive (l.send t).1.land ((l.send t).2.advance x.due)).2 := by
  have sent := keeps.advance _ x.due (keeps.send t kept)
  unfold Exchange.arrive
  split
  next a after landed =>
    rw [due] at landed
    exact .landed a t rfl landed kept
  next f after landed =>
    have still := keeps.failed t _ f after sent landed
    split
    next => exact Kept.lieDown keeps line still
    next => exact .failed f rfl still

theorem Kept.step (keeps : l.Keeps I) (kept : x.Kept l I s) (going : x.isOver = false) :
    (x.step s).1.Kept l I (x.step s).2 := by
  cases kept with
  | waiting line phase kept =>
    have woken := keeps.advance s (x.wake s) kept
    rcases phase with phase | phase
    · simp only [Exchange.step, phase, depart, line]
      exact .flying _ rfl rfl rfl rfl woken
    · simp only [Exchange.step, phase]
      exact Kept.getUp keeps line woken
  | flying t line phase sent due kept =>
    subst sent
    have woken : x.wake (l.send t).2 = x.due := by simp only [wake, phase]
    simp only [Exchange.step, phase, woken]
    exact Kept.arrive keeps line kept due
  | failed f phase kept => simp [isOver, phase] at going
  | landed a t phase landing kept => simp [isOver, phase] at going

theorem Kept.steps (keeps : l.Keeps I) (kept : x.Kept l I s) (fuel : Nat) :
    (Exchange.steps fuel x s).1.Kept l I (Exchange.steps fuel x s).2 := by
  induction fuel generalizing x s with
  | zero => exact kept
  | succ fuel ih =>
    rw [Exchange.steps]
    split
    next => exact kept
    next going => exact ih (kept.step keeps (Bool.eq_false_iff.mpr going))

end Exchange

namespace Line

theorem run_kept (keeps : l.Keeps I) (kept : I s) :
    (∃ f, (l.run s).1 = .error f ∧ I (l.run s).2) ∨
      ∃ a t, (l.run s).1 = .ok a ∧ I t ∧ l.landing t = (.ok a, (l.run s).2) := by
  have start : (l.start s).Kept l I s := .waiting rfl (.inl rfl) kept
  have last := start.steps keeps Exchange.stepLimit
  change (∃ f, (Exchange.steps Exchange.stepLimit (l.start s) s).1.result = .error f ∧ _) ∨
    ∃ a t, (Exchange.steps Exchange.stepLimit (l.start s) s).1.result = .ok a ∧ _
  unfold Exchange.result
  cases last with
  | waiting line phase kept =>
    rcases phase with phase | phase <;> exact .inl ⟨_, by rw [phase], kept⟩
  | flying t line phase sent due kept =>
    exact .inl ⟨_, by rw [phase], sent ▸ keeps.send t kept⟩
  | failed f phase kept => exact .inl ⟨f, by rw [phase], kept⟩
  | landed a t phase landing kept => exact .inr ⟨a, t, by rw [phase], kept, landing⟩

end Line

end PromptStudio
