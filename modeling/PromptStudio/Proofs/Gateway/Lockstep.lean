import PromptStudio.Proofs.Gateway.Parallel
import PromptStudio.Proofs.Session.Landings

set_option autoImplicit false

namespace PromptStudio

def Run.Instant {α : Type} (x : Run α) : Prop := ∀ s, ∃ bills, (x s).2 = { s with bills := bills }

structure Run.Unmoved {α : Type} (x : Run α) : Prop where
  level : x.Level
  instant : x.Instant

/-- Sending and landing take no notice of who cancels, and no flight takes less than no time. -/
structure Line.Level (l : Line String) : Prop where
  flight : ∀ s s', s.Parallel s' → (l.send s').1 = (l.send s).1
  parallel : ∀ s s', s.Parallel s' → (l.send s).2.Parallel (l.send s').2
  notices : ∀ s : Session, s.Notices (l.send s).2
  lasting : ∀ s : Session, s.Forward → 0 ≤ (l.send s).1.seconds
  lands : ∀ s, (l.send s).1.land.Unmoved

theorem Session.Notices.isCancelled {s s' : Session} (notices : s.Notices s')
    (cancelled : s.isCancelled = true) : s'.isCancelled = true := by
  rcases notices.cancelled with same | set
  · rw [Session.isCancelled, same, notices.clock]
    exact cancelled
  · simp [Session.isCancelled, set, notices.clock]

theorem Session.Notices.forward {s s' : Session} (notices : s.Notices s') (forward : s.Forward) :
    s'.Forward := by
  intro n
  rw [notices.providers]
  exact forward n

theorem Cancellation.wakeTime_le (k : Cancellation) (due : Rat) (s : Session) :
    k.wakeTime due s ≤ due := by
  unfold wakeTime
  split
  next time _ =>
    by_cases early : time < due
    · rw [if_pos early]
      exact early.le
    · rw [if_neg early]
  next => exact le_refl _

namespace Exchange

variable {l : Line String} {x y : Exchange String} {s s' : Session} {f : Failure}

abbrev Along (l : Line String) (x : Exchange String) : Prop := x.Carries l Run.Unmoved

/-- The token is set when the exchange would begin a rest, or before the rest is over. -/
inductive Cut (x : Exchange String) (s : Session) : Failure → Prop where
  | before (land : Run String) (f : Failure) (after : Session) (phase : x.phase = .flying land)
      (landed : land (s.advance x.due) = (.error f, after)) (again : x.triesAgain f = true)
      (token : x.line.cancellation = .token) (cancelled : after.isCancelled = true) :
      Cut x s Cancellation.beforeWait
  | during (phase : x.phase = .resting) (token : x.line.cancellation = .token)
      (cancelled : (s.advance (x.wake s)).isCancelled = true) :
      Cut x s Cancellation.duringWait

section Steps

theorem Cut.step (along : x.Along l) (cut : x.Cut s f) :
    ∃ after, x.step s = (x.finished (.error f), after) ∧ after.isCancelled = true ∧
      after.clock = x.wake s ∧ after.providers = s.providers := by
  cases cut with
  | before land g after phase landed again token cancelled =>
    have wake : x.wake s = x.due := by simp [Exchange.wake, phase]
    obtain ⟨bills, left⟩ := (along.flying land phase).instant (s.advance x.due)
    rw [landed] at left
    obtain rfl : after = { s.advance x.due with bills := bills } := left
    refine ⟨_, ?_, cancelled, wake.symm, rfl⟩
    simp [Exchange.step, wake, phase, Exchange.arrive, landed, again, Exchange.lieDown, token,
      Cancellation.check, cancelled]
  | during phase token cancelled =>
    refine ⟨s.advance (x.wake s), ?_, cancelled, rfl, rfl⟩
    simp [Exchange.step, phase, Exchange.getUp, token, Cancellation.check, cancelled]

theorem Cut.uneasy (along : x.Along l) (cut : x.Cut s f) : ¬s.Parallel s := by
  intro parallel
  have unset : s.cancelledFrom = none := parallel.calm.1
  cases cut with
  | before land g after phase landed again token cancelled =>
    obtain ⟨bills, left⟩ := (along.flying land phase).instant (s.advance x.due)
    rw [landed] at left
    obtain rfl : after = { s.advance x.due with bills := bills } := left
    simp [Session.isCancelled, Session.advance, unset] at cancelled
  | during phase token cancelled =>
    simp [Session.isCancelled, Session.advance, unset] at cancelled

theorem Cut.going (cut : x.Cut s f) : x.isOver = false := by
  cases cut with
  | before land g after phase => simp [Exchange.isOver, phase]
  | during phase => simp [Exchange.isOver, phase]

theorem Cut.cancelled (cut : x.Cut s f) : ∃ message, f = .cancelled message := by
  cases cut <;> exact ⟨_, rfl⟩

end Steps

section Agreeing

structure StepAgrees (x : Exchange String) (s s' : Session) : Prop where
  wake : x.wake s' = x.wake s
  next : (x.step s').1 = (x.step s).1
  parallel : (x.step s).2.Parallel (x.step s').2

theorem wake_le (parallel : s.Parallel s') : x.wake s' ≤ x.wake s := by
  unfold wake
  cases x.phase with
  | resting =>
    rw [(parallel.wakeTime x.line.cancellation x.due).1]
    exact Cancellation.wakeTime_le _ _ s'
  | _ => exact le_refl _

theorem lieDown_agrees (x : Exchange String) {s s' : Session} (parallel : s.Parallel s') :
    (x.line.cancellation = .token ∧ s'.isCancelled = true) ∨
      ((x.lieDown s').1 = (x.lieDown s).1 ∧ (x.lieDown s).2.Parallel (x.lieDown s').2) := by
  rcases parallel.check x.line.cancellation with cut | ⟨stop, t, t', plain, other, still⟩
  · exact .inl cut
  · unfold lieDown
    rw [plain, other]
    cases stop with
    | true => exact .inr ⟨rfl, still⟩
    | false => exact .inr ⟨by simp only [still.clock], still.settle⟩

theorem arrive_agrees (along : x.Along l) {land : Run String} (phase : x.phase = .flying land)
    (parallel : (s.advance x.due).Parallel (s'.advance x.due)) :
    x.Cut s' Cancellation.beforeWait ∨
      ((x.arrive land (s'.advance x.due)).1 = (x.arrive land (s.advance x.due)).1 ∧
        (x.arrive land (s.advance x.due)).2.Parallel (x.arrive land (s'.advance x.due)).2) := by
  obtain ⟨same, still⟩ := (along.flying land phase).level _ _ parallel
  unfold arrive
  cases plain : land (s.advance x.due) with
  | mk o t =>
    cases other : land (s'.advance x.due) with
    | mk o' t' =>
      rw [plain, other] at same still
      obtain rfl : o' = o := same
      cases o' with
      | ok text => exact .inr ⟨rfl, still⟩
      | error g =>
        cases again : x.triesAgain g with
        | false =>
          simp only [again]
          exact .inr ⟨rfl, still⟩
        | true =>
          simp only [again, if_true]
          rcases x.lieDown_agrees still with ⟨token, cancelled⟩ | agrees
          · exact .inl (.before land g t' phase other again token cancelled)
          · exact .inr agrees

-- The step lemma: either the rest is cut, or nothing shows that somebody cancelled.
theorem step_agrees (level : l.Level) (along : x.Along l) (parallel : s.Parallel s') :
    (∃ f, x.Cut s' f) ∨ x.StepAgrees s s' := by
  have ready := parallel.advance x.due
  cases phase : x.phase with
  | ready =>
    have flight := level.flight _ _ ready
    have still := level.parallel _ _ ready
    refine .inr ⟨by simp only [wake, phase], ?_, ?_⟩
    · simp only [step, wake, phase, depart, along.line, flight, still.clock]
    · simpa only [step, wake, phase, depart, along.line] using still
  | flying land =>
    rcases arrive_agrees along phase ready with cut | agrees
    · exact .inl ⟨_, cut⟩
    · refine .inr ⟨by simp only [wake, phase], ?_, ?_⟩
      · simpa only [step, wake, phase] using agrees.1
      · simpa only [step, wake, phase] using agrees.2
  | resting =>
    obtain ⟨plain, late | ⟨token, cancelled⟩⟩ := parallel.wakeTime x.line.cancellation x.due
    · have woken : x.wake s = x.due := by simp only [wake, phase, plain]
      have woken' : x.wake s' = x.due := by simp only [wake, phase, late]
      rcases ready.check x.line.cancellation with ⟨token, cancelled⟩ | ⟨stop, t, t', up, up', still⟩
      · exact .inl ⟨_, .during phase token (by rw [woken']; exact cancelled)⟩
      · refine .inr ⟨woken'.trans woken.symm, ?_, ?_⟩
        · cases stop <;> simp only [step, woken, woken', phase, getUp, up, up']
        · cases stop <;> simpa only [step, woken, woken', phase, getUp, up, up'] using still
    · exact .inl ⟨_, .during phase token (by simpa only [wake, phase] using cancelled)⟩
  | ended o =>
    refine .inr ⟨by simp only [wake, phase], ?_, ?_⟩
    · simp only [step, phase]
    · simpa only [step, wake, phase] using ready

structure CutAt (fuel : Nat) (x : Exchange String) (s : Session) (f : Failure) : Prop where
  reached : ∃ n < fuel, ∃ y t, steps n x s = (y, t) ∧ y.Cut t f
  failed : (steps fuel x s).1.phase = .ended (.error f)
  cancelled : (steps fuel x s).2.isCancelled = true

theorem Cut.cutAt (along : x.Along l) (cut : x.Cut s f) (fuel : Nat) :
    CutAt (fuel + 1) x s f := by
  obtain ⟨after, stepped, cancelled, -⟩ := cut.step along
  have done : steps (fuel + 1) x s = (x.finished (.error f), after) := by
    rw [Call.steps_succ cut.going, stepped]
    exact Call.steps_over rfl fuel
  exact ⟨⟨0, Nat.succ_pos fuel, x, s, rfl, cut⟩, by rw [done]; rfl, by rw [done]; exact cancelled⟩

theorem CutAt.succ {fuel : Nat} (going : x.isOver = false)
    (cut : CutAt fuel (x.step s).1 (x.step s).2 f) : CutAt (fuel + 1) x s f := by
  obtain ⟨n, within, y, t, reached, last⟩ := cut.reached
  refine ⟨⟨n + 1, Nat.succ_lt_succ within, y, t, ?_, last⟩, ?_, ?_⟩
  · rw [Call.steps_succ going, reached]
  · rw [Call.steps_succ going]
    exact cut.failed
  · rw [Call.steps_succ going]
    exact cut.cancelled

-- Induction on the fuel: the steps are the same up to the first cut.
theorem steps_agree (level : l.Level) (fuel : Nat) (along : x.Along l)
    (parallel : s.Parallel s') :
    (∃ f, CutAt fuel x s' f) ∨
      ((steps fuel x s').1 = (steps fuel x s).1 ∧
        (steps fuel x s).2.Parallel (steps fuel x s').2) := by
  induction fuel generalizing x s s' with
  | zero => exact .inr ⟨rfl, parallel⟩
  | succ fuel ih =>
    cases going : x.isOver with
    | true =>
      rw [Call.steps_over going, Call.steps_over going]
      exact .inr ⟨rfl, parallel⟩
    | false =>
      rcases step_agrees level along parallel with ⟨f, cut⟩ | ⟨-, next, still⟩
      · exact .inl ⟨f, cut.cutAt along fuel⟩
      · rcases ih (along.step level.lands s) still with ⟨f, cut⟩ | agree
        · rw [← next] at cut
          exact .inl ⟨f, cut.succ going⟩
        · rw [Call.steps_succ going, Call.steps_succ going, next]
          exact .inr agree

-- What is reached before anything is cut is as calm as the start, and a calm session cuts nothing.
theorem CutAt.uneasy (level : l.Level) {fuel : Nat} (along : x.Along l)
    (cut : CutAt fuel x s f) : ¬s.Parallel s := by
  intro calm
  induction fuel using Nat.strong_induction_on generalizing f with
  | _ fuel ih =>
    obtain ⟨n, within, y, t, reached, last⟩ := cut.reached
    rcases steps_agree level n along calm with ⟨g, earlier⟩ | ⟨-, still⟩
    · exact ih n within earlier
    · rw [reached] at still
      exact last.uneasy (reached ▸ along.steps level.lands n s) still

end Agreeing

end Exchange

namespace Line

variable {l : Line String} {s s' : Session}

def Cut (l : Line String) (s : Session) (f : Failure) : Prop :=
  Exchange.CutAt Exchange.stepLimit (l.start s) s f

theorem Cut.cancelled {f : Failure} (cut : l.Cut s f) : ∃ message, f = .cancelled message := by
  obtain ⟨n, -, y, t, -, last⟩ := cut.reached
  exact last.cancelled

theorem start_agrees (l : Line String) (parallel : s.Parallel s') : l.start s' = l.start s := by
  rw [start, start, parallel.clock]

theorem run_levelUnless (level : l.Level) : l.run.LevelUnless l.Cut := by
  intro s s' parallel
  rcases Exchange.steps_agree level Exchange.stepLimit (.start l _ s) parallel with
    ⟨f, cut⟩ | ⟨same, still⟩
  · refine .inr ⟨f, (Exchange.steps Exchange.stepLimit (l.start s) s').2, ?_⟩
    constructor
    case cut =>
      rw [Cut, l.start_agrees parallel]
      exact cut
    case uneasy => exact cut.uneasy level (.start l _ s)
    case failed => simp only [run, l.start_agrees parallel, Exchange.result, cut.failed]
    case cancelled => exact cut.cancelled
  · refine .inl ⟨?_, ?_⟩
    · simp only [run, l.start_agrees parallel, same]
    · simpa only [run, l.start_agrees parallel] using still

end Line

end PromptStudio
