import PromptStudio.Session.Cancellation

set_option autoImplicit false

namespace PromptStudio

def Cancellation.Calm (c : Cancellation) (s : Session) : Prop :=
  match c with
  | .never => True
  | .token => s.cancelledFrom = none ∧ s.interrupted = false ∧
      ∀ n, (s.providers.entry {} n).interrupts = false
  | .answers values => ∀ n, s.questions ≤ n → answer values n = false

/-- `s'` is `s` as far as time and providers are concerned, and calm. -/
structure Session.Steady (c : Cancellation) (s s' : Session) : Prop where
  clock : s'.clock = s.clock
  requests : s'.requests = s.requests
  providers : s'.providers = s.providers
  calm : c.Calm s'

theorem Session.Steady.trans {c : Cancellation} {s between s' : Session}
    (first : s.Steady c between) (second : between.Steady c s') : s.Steady c s' where
  clock := second.clock.trans first.clock
  requests := second.requests.trans first.requests
  providers := second.providers.trans first.providers
  calm := second.calm

namespace Cancellation

variable {c : Cancellation} {s : Session}

theorem Calm.steady (calm : c.Calm s) : s.Steady c s := ⟨rfl, rfl, rfl, calm⟩

theorem Calm.advance (calm : c.Calm s) (time : Rat) : c.Calm (s.advance time) := by
  cases c <;> exact calm

theorem check_calm (calm : c.Calm s) : ∃ s', c.check s = (false, s') ∧ s.Steady c s' := by
  cases c with
  | never => exact ⟨s, rfl, calm.steady⟩
  | token =>
    have free : s.isCancelled = false := by rw [Session.isCancelled, calm.1]
    exact ⟨s, by rw [check, free], calm.steady⟩
  | answers values =>
    have no := calm s.questions (Nat.le_refl _)
    refine ⟨{ s with questions := s.questions + 1 }, by rw [check, no], rfl, rfl, rfl, ?_⟩
    exact fun n later => calm n (Nat.le_of_succ_le later)

theorem cancel_eq (s : Session) : ∃ time, s.cancel = { s with cancelledFrom := time } := by
  unfold Session.cancel Session.cancelFrom
  split
  next => exact ⟨_, rfl⟩
  next =>
    split
    next => exact ⟨s.cancelledFrom, rfl⟩
    next => exact ⟨_, rfl⟩

theorem interrupt_eq (s : Session) :
    ∃ shown time, s.interrupt = { s with shown := shown, cancelledFrom := time } := by
  unfold Session.interrupt
  split
  next => exact ⟨s.shown, s.cancelledFrom, rfl⟩
  next =>
    obtain ⟨time, same⟩ := cancel_eq (s.tell _)
    exact ⟨_, time, same⟩

theorem settle_eq (s : Session) : ∃ shown time interrupted,
    s.settle = { s with shown := shown, cancelledFrom := time, interrupted := interrupted } := by
  unfold Session.settle
  split
  next =>
    obtain ⟨shown, time, same⟩ := interrupt_eq { s with interrupted := false }
    exact ⟨shown, time, false, same⟩
  next => exact ⟨s.shown, s.cancelledFrom, s.interrupted, rfl⟩

theorem interrupt_steady (calm : c.Calm s) (other : c ≠ .token) : s.Steady c s.interrupt := by
  obtain ⟨shown, time, same⟩ := interrupt_eq s
  rw [same]
  refine ⟨rfl, rfl, rfl, ?_⟩
  cases c with
  | never => trivial
  | token => exact absurd rfl other
  | answers values => exact calm

theorem settle_steady (calm : c.Calm s) : s.Steady c s.settle := by
  unfold Session.settle
  split
  next interrupted =>
    have other : c ≠ .token := by
      rintro rfl
      simp [calm.2.1] at interrupted
    have still : c.Calm { s with interrupted := false } := by
      cases c with
      | token => exact absurd rfl other
      | _ => exact calm
    have same : s.Steady c { s with interrupted := false } := ⟨rfl, rfl, rfl, still⟩
    exact same.trans (interrupt_steady still other)
  next => exact calm.steady

theorem wakeTime_calm (calm : c.Calm s) (due : Rat) : c.wakeTime due s = due := by
  cases c with
  | never => rfl
  | token => simp only [wakeTime, calm.1]
  | answers values => rfl

end Cancellation

end PromptStudio
