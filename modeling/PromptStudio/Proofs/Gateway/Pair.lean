import PromptStudio.Proofs.Gateway.Lockstep

set_option autoImplicit false

namespace PromptStudio

namespace Session

variable {s s' : Session} {bound later : Rat}

def IsSetBy (s : Session) (bound : Rat) : Prop :=
  ∃ time, s.cancelledFrom = some time ∧ time ≤ bound

theorem isCancelled_iff : s.isCancelled = true ↔ s.IsSetBy s.clock := by
  unfold isCancelled IsSetBy
  cases s.cancelledFrom <;> simp

theorem IsSetBy.mono (set : s.IsSetBy bound) (after : bound ≤ later) : s.IsSetBy later := by
  obtain ⟨time, found, early⟩ := set
  exact ⟨time, found, early.trans after⟩

theorem Notices.isSetBy (notices : s.Notices s') (set : s.IsSetBy s.clock) :
    s'.IsSetBy s'.clock :=
  isCancelled_iff.mp (notices.isCancelled (isCancelled_iff.mpr set))

end Session

namespace Exchange

variable {l first second : Line String} {x y : Exchange String} {s s' : Session} {f : Failure}

section Late

/-- The session is cancelled, and will be when the exchange takes its next step. -/
structure Late (y : Exchange String) (s : Session) : Prop where
  now : s.IsSetBy s.clock
  due : s.IsSetBy y.due
  forward : s.Forward

theorem wake_le_due (y : Exchange String) (s : Session) : y.wake s ≤ y.due := by
  unfold wake
  split
  next => exact Cancellation.wakeTime_le _ _ s
  next => exact le_refl _

theorem Late.wake (late : y.Late s) : s.IsSetBy (y.wake s) := by
  obtain ⟨time, set, early⟩ := late.due
  refine ⟨time, set, ?_⟩
  unfold Exchange.wake Cancellation.wakeTime
  split
  next =>
    split
    next found =>
      obtain rfl : time = _ := Option.some.inj (set.symm.trans found)
      split
      next => exact le_refl _
      next => exact early
    next => exact early
  next => exact early

theorem Late.depart (level : l.Level) (along : y.Along l) (late : y.Late s) :
    (y.depart s).1.Late (y.depart s).2 := by
  have notices := level.notices s
  have now := notices.isSetBy late.now
  have lasting : 0 ≤ (l.send s).1.seconds := level.lasting s late.forward
  have after : (l.send s).2.clock ≤ (l.send s).2.clock + (l.send s).1.seconds := by grind
  simp only [Exchange.depart, along.line]
  exact ⟨now, now.mono after, notices.forward late.forward⟩

theorem check_questions (k : Cancellation) (s : Session) :
    ∃ n, (k.check s).2 = { s with questions := n } := by
  cases k with
  | answers values => exact ⟨_, rfl⟩
  | _ => exact ⟨s.questions, rfl⟩

theorem Late.lieDown (late : y.Late s) : (y.lieDown s).1.Late (y.lieDown s).2 := by
  unfold Exchange.lieDown
  obtain ⟨n, asked⟩ := check_questions y.line.cancellation s
  split
  next checked =>
    rw [checked] at asked
    subst asked
    exact ⟨late.now, late.due, late.forward⟩
  next checked =>
    rw [checked] at asked
    subst asked
    have notices := Session.settle_notices { s with questions := n }
    have now := notices.isSetBy late.now
    have after : s.clock ≤ s.clock + restAfter y.sent := by
      have rest := Call.restAfter_nonneg y.sent
      grind
    exact ⟨now, now.mono (notices.clock.le.trans after), notices.forward late.forward⟩

theorem Late.arrive (late : y.Late s) {land : Run String} (instant : land.Instant) :
    (y.arrive land s).1.Late (y.arrive land s).2 := by
  unfold Exchange.arrive
  obtain ⟨bills, left⟩ := instant s
  have landed : y.Late { s with bills := bills } := ⟨late.now, late.due, late.forward⟩
  split
  next done =>
    rw [done] at left
    subst left
    exact ⟨landed.now, landed.due, landed.forward⟩
  next done =>
    rw [done] at left
    subst left
    split
    next => exact landed.lieDown
    next => exact ⟨landed.now, landed.due, landed.forward⟩

theorem Late.getUp (late : y.Late s) : (y.getUp s).1.Late (y.getUp s).2 := by
  unfold Exchange.getUp
  obtain ⟨n, asked⟩ := check_questions y.line.cancellation s
  split
  all_goals
    next checked =>
      rw [checked] at asked
      subst asked
      exact ⟨late.now, late.due, late.forward⟩

theorem Late.step (level : l.Level) (along : y.Along l) (late : y.Late s) :
    (y.step s).1.Late (y.step s).2 := by
  have woken : y.Late (s.advance (y.wake s)) := ⟨late.wake, late.due, late.forward⟩
  unfold Exchange.step
  split
  next => exact woken.depart level along
  next land phase => exact woken.arrive (along.flying land phase).instant
  next => exact woken.getUp
  next => exact woken

theorem Late.steps (level : l.Level) (fuel : Nat) (along : y.Along l) (late : y.Late s) :
    (Exchange.steps fuel y s).2.isCancelled = true := by
  induction fuel generalizing y s with
  | zero => exact Session.isCancelled_iff.mpr late.now
  | succ fuel ih =>
    cases going : y.isOver with
    | true =>
      rw [Call.steps_over going]
      exact Session.isCancelled_iff.mpr late.now
    | false =>
      rw [Call.steps_succ going]
      exact ih (along.step level.lands s) (late.step level along)

-- The exchange that is cut was due before the other one, if that one is not over.
theorem Cut.leaves (level : l.Level) (along : x.Along first) (along' : y.Along l)
    (forward : s.Forward) (cut : x.Cut s f) (order : y.isOver = true ∨ x.wake s ≤ y.wake s) :
    ∃ after, x.step s = (x.finished (.error f), after) ∧
      ∀ fuel, (Exchange.steps fuel y after).2.isCancelled = true := by
  obtain ⟨after, stepped, cancelled, clock, providers⟩ := cut.step along
  refine ⟨after, stepped, fun fuel => ?_⟩
  rcases order with done | order
  · rw [Call.steps_over done]
    exact cancelled
  · have now := Session.isCancelled_iff.mp cancelled
    have due : x.wake s ≤ y.due := order.trans (y.wake_le_due s)
    have kept : after.Forward := by
      intro n
      rw [providers]
      exact forward n
    have late : y.Late after := ⟨now, now.mono (clock.le.trans due), kept⟩
    exact late.steps level fuel along'

end Late

section Pairs

def goesFirst (x y : Exchange String) (s : Session) : Bool :=
  y.isOver || (!x.isOver && decide (x.wake s ≤ y.wake s))

theorem goesFirst_eq_true :
    x.goesFirst y s = true ↔ y.isOver = true ∨ x.isOver = false ∧ x.wake s ≤ y.wake s := by
  simp [goesFirst]

theorem goesFirst_eq_false :
    x.goesFirst y s = false ↔ y.isOver = false ∧ (x.isOver = true ∨ y.wake s < x.wake s) := by
  cases going : x.isOver <;> simp [goesFirst, going]

theorem jointSteps_succ (going : (x.isOver && y.isOver) = false) (fuel : Nat) :
    jointSteps (fuel + 1) x y s =
      if x.goesFirst y s then jointSteps fuel (x.step s).1 y (x.step s).2
      else jointSteps fuel x (y.step s).1 (y.step s).2 := by
  simp only [jointSteps, going]
  rfl

theorem jointSteps_over (done : (x.isOver && y.isOver) = true) (fuel : Nat) :
    jointSteps fuel x y s = (x, y, s) := by
  cases fuel with
  | zero => rfl
  | succ fuel => simp only [jointSteps, done, if_true]

theorem jointSteps_first_over (done : x.isOver = true) (fuel : Nat) :
    jointSteps fuel x y s = (x, steps fuel y s) := by
  induction fuel generalizing y s with
  | zero => rfl
  | succ fuel ih =>
    cases going : y.isOver with
    | true => rw [jointSteps_over (by simp [done, going]), Call.steps_over going]
    | false =>
      have turn : x.goesFirst y s = false := by simp [goesFirst, done, going]
      rw [jointSteps_succ (by simp [going]), turn, Call.steps_succ going]
      exact ih

theorem jointSteps_second_over (done : y.isOver = true) (fuel : Nat) :
    jointSteps fuel x y s = ((steps fuel x s).1, y, (steps fuel x s).2) := by
  induction fuel generalizing x s with
  | zero => rfl
  | succ fuel ih =>
    cases going : x.isOver with
    | true => rw [jointSteps_over (by simp [done, going]), Call.steps_over going]
    | false =>
      have turn : x.goesFirst y s = true := by simp [goesFirst, done]
      rw [jointSteps_succ (by simp [going]), turn, Call.steps_succ going]
      exact ih

inductive PairCut (x y : Exchange String) (s : Session) : Prop where
  | first (turn : x.goesFirst y s = true) (f : Failure) (cut : x.Cut s f)
  | second (turn : x.goesFirst y s = false) (f : Failure) (cut : y.Cut s f)

structure PairCutAt (fuel : Nat) (x y : Exchange String) (s : Session) : Prop where
  reached : ∃ n < fuel, ∃ x' y' t, jointSteps n x y s = (x', y', t) ∧ PairCut x' y' t
  failed : (∃ f, (jointSteps fuel x y s).1.phase = .ended (.error f)) ∨
    ∃ f, (jointSteps fuel x y s).2.1.phase = .ended (.error f)
  cancelled : (jointSteps fuel x y s).2.2.isCancelled = true

theorem PairCut.going (cut : PairCut x y s) : (x.isOver && y.isOver) = false := by
  cases cut with
  | first _ f cut => simp [cut.going]
  | second _ f cut => simp [cut.going]

theorem PairCut.pairCutAt (level : first.Level) (level' : second.Level) (along : x.Along first)
    (along' : y.Along second) (forward : s.Forward) (cut : PairCut x y s) (fuel : Nat) :
    PairCutAt (fuel + 1) x y s := by
  have reached : ∃ n < fuel + 1, ∃ x' y' t, jointSteps n x y s = (x', y', t) ∧ PairCut x' y' t :=
    ⟨0, Nat.succ_pos fuel, x, y, s, rfl, cut⟩
  have going := cut.going
  cases cut with
  | first turn f cut =>
    have order : y.isOver = true ∨ x.wake s ≤ y.wake s :=
      (goesFirst_eq_true.mp turn).imp_right And.right
    obtain ⟨after, stepped, cancelled⟩ := cut.leaves level' along along' forward order
    have done : jointSteps (fuel + 1) x y s = (x.finished (.error f), steps fuel y after) := by
      rw [jointSteps_succ going, turn, if_pos rfl, stepped]
      exact jointSteps_first_over rfl fuel
    refine ⟨reached, .inl ⟨f, ?_⟩, ?_⟩
    · rw [done]
      rfl
    · rw [done]
      exact cancelled fuel
  | second turn f cut =>
    have order : x.isOver = true ∨ y.wake s ≤ x.wake s :=
      (goesFirst_eq_false.mp turn).2.imp_right le_of_lt
    obtain ⟨after, stepped, cancelled⟩ := cut.leaves level along' along forward order
    have done : jointSteps (fuel + 1) x y s =
        ((steps fuel x after).1, y.finished (.error f), (steps fuel x after).2) := by
      rw [jointSteps_succ going, turn, if_neg (by simp), stepped]
      exact jointSteps_second_over rfl fuel
    refine ⟨reached, .inr ⟨f, ?_⟩, ?_⟩
    · rw [done]
      rfl
    · rw [done]
      exact cancelled fuel

theorem PairCutAt.succ {fuel : Nat} {x' y' : Exchange String} {t : Session}
    (step : ∀ fuel, jointSteps (fuel + 1) x y s = jointSteps fuel x' y' t)
    (cut : PairCutAt fuel x' y' t) : PairCutAt (fuel + 1) x y s := by
  obtain ⟨n, within, last, last', t', reached, cutThere⟩ := cut.reached
  constructor
  case reached =>
    exact ⟨n + 1, Nat.succ_lt_succ within, last, last', t', by rw [step, reached], cutThere⟩
  case failed => rw [step]; exact cut.failed
  case cancelled => rw [step]; exact cut.cancelled

structure PairAgrees (fuel : Nat) (x y : Exchange String) (s s' : Session) : Prop where
  first : (jointSteps fuel x y s').1 = (jointSteps fuel x y s).1
  second : (jointSteps fuel x y s').2.1 = (jointSteps fuel x y s).2.1
  parallel : (jointSteps fuel x y s).2.2.Parallel (jointSteps fuel x y s').2.2

theorem PairAgrees.succ {fuel : Nat} {x' y' : Exchange String} {t t' : Session}
    (step : jointSteps (fuel + 1) x y s = jointSteps fuel x' y' t)
    (step' : jointSteps (fuel + 1) x y s' = jointSteps fuel x' y' t')
    (agrees : PairAgrees fuel x' y' t t') : PairAgrees (fuel + 1) x y s s' where
  first := by rw [step, step']; exact agrees.first
  second := by rw [step, step']; exact agrees.second
  parallel := by rw [step, step']; exact agrees.parallel

-- The exchange whose turn it is in the second session wakes no earlier there than in the first, and
-- the other one no later, so it is its turn in both.
theorem goesFirst_agrees (parallel : s.Parallel s') :
    (x.goesFirst y s' = true → x.StepAgrees s s' → x.goesFirst y s = true) ∧
      (x.goesFirst y s' = false → y.StepAgrees s s' → x.goesFirst y s = false) := by
  have earlier := wake_le (x := x) parallel
  have earlier' := wake_le (x := y) parallel
  simp only [goesFirst_eq_true, goesFirst_eq_false]
  constructor
  · intro turn agrees
    exact turn.imp_right fun ⟨going, order⟩ => ⟨going, agrees.wake ▸ order.trans earlier'⟩
  · intro turn agrees
    exact ⟨turn.1, turn.2.imp_right fun order => (agrees.wake ▸ order).trans_le earlier⟩

-- Induction on the fuel: the steps are the same up to the first cut.
theorem jointSteps_agree (level : first.Level) (level' : second.Level) (fuel : Nat)
    (along : x.Along first) (along' : y.Along second) (parallel : s.Parallel s') :
    PairCutAt fuel x y s' ∨ PairAgrees fuel x y s s' := by
  induction fuel generalizing x y s s' with
  | zero => exact .inr ⟨rfl, rfl, parallel⟩
  | succ fuel ih =>
    cases going : x.isOver && y.isOver with
    | true =>
      refine .inr ⟨?_, ?_, ?_⟩ <;> rw [jointSteps_over going, jointSteps_over going]
      exact parallel
    | false =>
      obtain ⟨stays, stays'⟩ := goesFirst_agrees (x := x) (y := y) parallel
      cases turn : x.goesFirst y s' with
      | true =>
        rcases step_agrees level along parallel with ⟨f, cut⟩ | agrees
        · have cut : PairCut x y s' := .first turn f cut
          exact .inl (cut.pairCutAt level level' along along' parallel.forward fuel)
        · have step : jointSteps (fuel + 1) x y s =
              jointSteps fuel (x.step s).1 y (x.step s).2 := by
            rw [jointSteps_succ going, stays turn agrees, if_pos rfl]
          have step' (fuel : Nat) : jointSteps (fuel + 1) x y s' =
              jointSteps fuel (x.step s).1 y (x.step s').2 := by
            rw [jointSteps_succ going, turn, if_pos rfl, agrees.next]
          rcases ih (along.step level.lands s) along' agrees.parallel with cut | later
          · exact .inl (cut.succ step')
          · exact .inr (later.succ step (step' fuel))
      | false =>
        rcases step_agrees level' along' parallel with ⟨f, cut⟩ | agrees
        · have cut : PairCut x y s' := .second turn f cut
          exact .inl (cut.pairCutAt level level' along along' parallel.forward fuel)
        · have step : jointSteps (fuel + 1) x y s =
              jointSteps fuel x (y.step s).1 (y.step s).2 := by
            rw [jointSteps_succ going, stays' turn agrees, if_neg (by simp)]
          have step' (fuel : Nat) : jointSteps (fuel + 1) x y s' =
              jointSteps fuel x (y.step s).1 (y.step s').2 := by
            rw [jointSteps_succ going, turn, if_neg (by simp), agrees.next]
          rcases ih along (along'.step level'.lands s) agrees.parallel with cut | later
          · exact .inl (cut.succ step')
          · exact .inr (later.succ step (step' fuel))

theorem along_jointSteps (level : first.Level) (level' : second.Level) (fuel : Nat)
    (along : x.Along first) (along' : y.Along second) (s : Session) :
    (Exchange.jointSteps fuel x y s).1.Along first ∧
      (Exchange.jointSteps fuel x y s).2.1.Along second := by
  induction fuel generalizing x y s with
  | zero => exact ⟨along, along'⟩
  | succ fuel ih =>
    cases going : x.isOver && y.isOver with
    | true =>
      rw [jointSteps_over going]
      exact ⟨along, along'⟩
    | false =>
      rw [jointSteps_succ going]
      split
      next => exact ih (along.step level.lands s) along' _
      next => exact ih along (along'.step level'.lands s) _

theorem PairCutAt.uneasy (level : first.Level) (level' : second.Level) {fuel : Nat}
    (along : x.Along first) (along' : y.Along second) (cut : PairCutAt fuel x y s) :
    ¬s.Parallel s := by
  intro calm
  induction fuel using Nat.strong_induction_on with
  | _ fuel ih =>
    obtain ⟨n, within, x', y', t, reached, last⟩ := cut.reached
    rcases jointSteps_agree level level' n along along' calm with earlier | agrees
    · exact ih n within earlier
    · obtain ⟨sent, sent'⟩ := along_jointSteps level level' n along along' s
      have still := agrees.parallel
      rw [reached] at sent sent' still
      cases last with
      | first _ f cut => exact cut.uneasy sent still
      | second _ f cut => exact cut.uneasy sent' still

end Pairs

end Exchange

namespace Line

variable {first second : Line String} {s s' : Session}

def CutBoth (first second : Line String) (s : Session) : Prop :=
  Exchange.PairCutAt (2 * Exchange.stepLimit) (first.start s) (second.start s) s

theorem runBoth_apply {final : Exchange String × Exchange String × Session}
    (ended : Exchange.jointSteps (2 * Exchange.stepLimit) (first.start s) (second.start s) s =
      final) :
    first.runBoth second s = (.ok (final.1.result, final.2.1.result), final.2.2.settle) := by
  subst ended
  rfl

theorem runBoth_agrees (level : first.Level) (level' : second.Level) (parallel : s.Parallel s') :
    (first.runBoth second).Agrees s s' ∨ first.CutBoth second s' ∧ ¬s'.Parallel s' ∧
      ∃ o o' t, first.runBoth second s' = (.ok (o, o'), t) ∧
        ((∃ f, o = .error f) ∨ ∃ f, o' = .error f) ∧ t.isCancelled = true := by
  have same := first.start_agrees parallel
  have same' := second.start_agrees parallel
  rcases Exchange.jointSteps_agree level level' (2 * Exchange.stepLimit) (.start first _ s)
    (.start second _ s) parallel with cut | agrees
  · have uneasy := cut.uneasy level level' (.start first _ s) (.start second _ s)
    rw [← same, ← same'] at cut
    have result {x : Exchange String} (failed : ∃ f, x.phase = .ended (.error f)) :
        ∃ f, x.result = .error f := by
      obtain ⟨f, ended⟩ := failed
      exact ⟨f, by rw [Exchange.result, ended]⟩
    obtain ⟨final, ended⟩ : ∃ final, Exchange.jointSteps (2 * Exchange.stepLimit)
        (first.start s') (second.start s') s' = final := ⟨_, rfl⟩
    have failed := cut.failed
    have cancelled := cut.cancelled
    rw [ended] at failed cancelled
    exact .inr ⟨cut, uneasy, _, _, _, runBoth_apply ended, failed.imp result result,
      (Session.settle_notices _).isCancelled cancelled⟩
  · refine .inl ⟨?_, ?_⟩
    · simp only [runBoth, same, same', agrees.first, agrees.second]
    · simpa only [runBoth, same, same'] using agrees.parallel.settle

end Line

end PromptStudio
