import PromptStudio.Proofs.Gateway.Outcomes

set_option autoImplicit false

namespace PromptStudio.Call

open Attempt

variable {c : Call} {settings : Settings} {k : Cancellation} {start : Session}

section Phases

variable (c settings k start)

/-- What is so in each phase after `made` attempts, the first `unsettled` of which settle nothing. -/
structure Tried (made unsettled : Nat) (x : Exchange String) (s : Session) : Prop where
  line : x.line = c.line settings k
  sent : x.sent = made
  providers : s.providers = start.providers
  requests : s.requests = start.requests ++ c.sentRequests settings.requestSeconds start made
  undecided : ∀ m < unsettled, ¬Settles (c.outcome settings.requestSeconds start m) (m + 1)
  kept : start.Uninterrupted → s.interrupted = false ∧ s.cancelledFrom = start.cancelledFrom

structure Ready (i : Nat) (x : Exchange String) (s : Session) : Prop where
  tried : c.Tried settings k start i i x s
  phase : x.phase = .ready
  due : x.due = startTime settings.requestSeconds start i
  spared : k.Spared (rests settings.requestSeconds start) start.questions i s
  asked : k.Asked s (start.questions + 2 * i)

structure Aloft (i : Nat) (x : Exchange String) (s : Session) : Prop where
  tried : c.Tried settings k start (i + 1) i x s
  phase : ∃ land, x.phase = .flying land ∧
    LandsAs land (c.outcome settings.requestSeconds start i)
  due : x.due = endTime settings.requestSeconds start i
  spared : k.Spared (rests settings.requestSeconds start) start.questions i s
  asked : k.Asked s (start.questions + 2 * i)

structure Asleep (i : Nat) (x : Exchange String) (s : Session) : Prop where
  tried : c.Tried settings k start (i + 1) (i + 1) x s
  phase : x.phase = .resting
  due : x.due = startTime settings.requestSeconds start (i + 1)
  entered : k.Entered (rests settings.requestSeconds start) start.questions i s
  asked : k.Asked s (start.questions + 2 * i + 1)

inductive Ending (i : Nat) (o : Outcome String) (s : Session) : Prop where
  | settled (decisive : Settles (c.outcome settings.requestSeconds start i) (i + 1))
      (same : o = c.outcome settings.requestSeconds start i)
      (clock : s.clock = endTime settings.requestSeconds start i)
  | cut (undecided : ¬Settles (c.outcome settings.requestSeconds start i) (i + 1))
      (cancelled : ∃ message, o = .error (.cancelled message))
      (cut : k.Cut (rests settings.requestSeconds start) start.questions i s)

structure Ended (i : Nat) (x : Exchange String) (s : Session) : Prop where
  tried : c.Tried settings k start (i + 1) i x s
  spared : k.Spared (rests settings.requestSeconds start) start.questions i s
  ending : ∃ o, x.phase = .ended o ∧ c.Ending settings k start i o s

end Phases

variable {made unsettled i : Nat} {x y : Exchange String} {s s' : Session}

theorem Tried.mono (tried : c.Tried settings k start made unsettled x s) (line : y.line = x.line)
    (sent : y.sent = x.sent) (providers : s'.providers = s.providers)
    (requests : s'.requests = s.requests) (interrupted : s'.interrupted = s.interrupted)
    (cancelled : s'.cancelledFrom = s.cancelledFrom) :
    c.Tried settings k start made unsettled y s' where
  line := line.trans tried.line
  sent := sent.trans tried.sent
  providers := providers.trans tried.providers
  requests := requests.trans tried.requests
  undecided := tried.undecided
  kept calm := ⟨interrupted.trans (tried.kept calm).1, cancelled.trans (tried.kept calm).2⟩

theorem Tried.settle (tried : c.Tried settings k start made unsettled x s) :
    c.Tried settings k start made unsettled x s.settle := by
  obtain ⟨shown, time, interrupted, settled⟩ := Cancellation.settle_eq s
  constructor
  case line => exact tried.line
  case sent => exact tried.sent
  case providers => rw [settled]; exact tried.providers
  case requests => rw [settled]; exact tried.requests
  case undecided => exact tried.undecided
  case kept =>
    intro calm
    rw [Session.settle_of_calm (tried.kept calm).1]
    exact tried.kept calm

theorem Tried.cancellation (tried : c.Tried settings k start made unsettled x s) :
    x.line.cancellation = k := by
  rw [tried.line]
  rfl

theorem Tried.uninterrupted (tried : c.Tried settings k start made unsettled x s)
    (calm : start.Uninterrupted) : s.Uninterrupted :=
  ⟨(tried.kept calm).1, by rw [tried.providers]; exact calm.2⟩

theorem Ready.step (google : c.provider = .google) (forward : start.Forward)
    (ready : c.Ready settings k start i x s) :
    c.Aloft settings k start i (x.step s).1 (x.step s).2 := by
  obtain ⟨tried, phase, due, spared, asked⟩ := ready
  have carries : c.Carries settings.requestSeconds start i
      (c.send settings.requestSeconds (s.advance x.due)).1 :=
    send_carries google tried.providers tried.requests
  have sent : (c.send settings.requestSeconds (s.advance x.due)).2.requests =
      s.requests ++ c.recorded settings.requestSeconds x.due :=
    (send_requests c settings.requestSeconds (s.advance x.due)).2
  have notices := send_notices c settings.requestSeconds (s.advance x.due)
  have past : ∀ j < i, (rests settings.requestSeconds start).closes j ≤ x.due := fun j before =>
    due ▸ startTime_mono forward before
  have departed : x.step s = ({ x with
      sent := x.sent + 1
      due := (c.send settings.requestSeconds (s.advance x.due)).2.clock +
        (c.send settings.requestSeconds (s.advance x.due)).1.seconds
      phase := .flying (c.send settings.requestSeconds (s.advance x.due)).1.land },
      (c.send settings.requestSeconds (s.advance x.due)).2) := by
    simp only [Exchange.step, Exchange.wake, phase, Exchange.depart, tried.line]
    rfl
  rw [departed]
  constructor
  case tried =>
    constructor
    case line => exact tried.line
    case sent => exact congrArg (· + 1) tried.sent
    case providers => exact notices.providers.trans tried.providers
    case requests => rw [sent, tried.requests, due, List.append_assoc]; rfl
    case undecided => exact tried.undecided
    case kept =>
      intro calm
      have quiet : (s.advance x.due).Uninterrupted := tried.uninterrupted calm
      obtain ⟨interrupted, cancelled⟩ := send_calm_tokens c settings.requestSeconds quiet
      exact ⟨interrupted, cancelled.trans (tried.kept calm).2⟩
  case phase => exact ⟨_, rfl, carries.2⟩
  case due =>
    have now : (c.send settings.requestSeconds (s.advance x.due)).2.clock = x.due := notices.clock
    change (c.send settings.requestSeconds (s.advance x.due)).2.clock + _ = _
    rw [now, carries.1, due]
    rfl
  case spared =>
    have advanced : k.Spared (rests settings.requestSeconds start) start.questions i
        (s.advance x.due) := spared.same rfl
    exact advanced.notices notices past
  case asked => exact asked.same notices.questions

-- A call that is not settled after attempt number `i` tries again if the rest is not cut.
theorem triesAgain_unsettled (google : c.provider = .google) (few : i < 6)
    (tried : c.Tried settings k start (i + 1) unsettled x s) {f : Failure} :
    x.triesAgain f = true ↔ ¬Settles (.error f) (i + 1) := by
  cases f with
  | model e => exact triesAgain_iff google (Nat.succ_le_of_lt few) tried.line tried.sent e
  | _ => simp [Exchange.triesAgain, Failure.isRetryable, Settles]

theorem lieDown_step (forward : start.Forward)
    (tried : c.Tried settings k start (i + 1) (i + 1) x s)
    (spared : k.Spared (rests settings.requestSeconds start) start.questions i s)
    (asked : k.Asked s (start.questions + 2 * i))
    (now : s.clock = endTime settings.requestSeconds start i) :
    c.Ended settings k start i (x.lieDown s).1 (x.lieDown s).2 ∨
      c.Asleep settings k start i (x.lieDown s).1 (x.lieDown s).2 := by
  have ordered : (rests settings.requestSeconds start).Ordered := rests_ordered forward
  obtain ⟨n, ⟨stopped, cut⟩ | ⟨free, entered, put⟩⟩ :=
    Cancellation.check_opens ordered spared asked now
  · have down : x.lieDown s =
        (x.finished (.error Cancellation.beforeWait), { s with questions := n }) := by
      simp only [Exchange.lieDown, tried.cancellation, stopped]
    have made : c.Tried settings k start (i + 1) (i + 1)
        (x.finished (.error Cancellation.beforeWait)) { s with questions := n } :=
      tried.mono rfl rfl rfl rfl rfl rfl
    have undecided := tried.undecided i (Nat.lt_succ_self i)
    rw [down]
    exact .inl
      { tried := { made with undecided := fun m before => made.undecided m (by omega) }
        spared := spared.same rfl
        ending := ⟨_, rfl, .cut undecided ⟨_, rfl⟩ cut⟩ }
  · have down : x.lieDown s = ({ x with
        due := s.clock + restAfter x.sent
        phase := .resting }, ({ s with questions := n } : Session).settle) := by
      simp only [Exchange.lieDown, tried.cancellation, free]
    have notices := Session.settle_notices { s with questions := n }
    rw [down]
    have lain : c.Tried settings k start (i + 1) (i + 1)
        { x with due := s.clock + restAfter x.sent, phase := .resting }
        { s with questions := n } := tried.mono rfl rfl rfl rfl rfl rfl
    refine .inr ⟨lain.settle, rfl, ?_, entered.notices ordered notices now,
      put.same notices.questions⟩
    change s.clock + restAfter x.sent = _
    rw [now, tried.sent]
    rfl

theorem Aloft.step (google : c.provider = .google) (forward : start.Forward) (few : i < 6)
    (aloft : c.Aloft settings k start i x s) :
    c.Ended settings k start i (x.step s).1 (x.step s).2 ∨
      c.Asleep settings k start i (x.step s).1 (x.step s).2 := by
  obtain ⟨tried, ⟨land, phase, lands⟩, due, spared, asked⟩ := aloft
  obtain ⟨bills, landed⟩ := lands (s.advance x.due)
  let after : Session := { s.advance x.due with bills := bills }
  have step : x.step s = x.arrive land (s.advance x.due) := by
    simp only [Exchange.step, Exchange.wake, phase]
  have ended {o : Outcome String} (same : o = c.outcome settings.requestSeconds start i)
      (decisive : Settles (c.outcome settings.requestSeconds start i) (i + 1))
      (final : x.step s = (x.finished o, after)) :
      c.Ended settings k start i (x.step s).1 (x.step s).2 := by
    rw [final]
    exact
      { tried := tried.mono rfl rfl rfl rfl rfl rfl
        spared := spared.same rfl
        ending := ⟨o, rfl, .settled decisive same due⟩ }
  cases result : c.outcome settings.requestSeconds start i with
  | ok text =>
    rw [result] at landed
    refine .inl (ended result.symm (by rw [result]; trivial) ?_)
    simp only [step, Exchange.arrive, landed, after]
  | error f =>
    rw [result] at landed
    have again := triesAgain_unsettled google few tried (f := f)
    by_cases decisive : Settles (.error f) (i + 1)
    next =>
      have final : x.triesAgain f = false := by
        by_contra tries
        exact again.mp (by simpa using tries) decisive
      refine .inl (ended result.symm (by rw [result]; exact decisive) ?_)
      simp [step, Exchange.arrive, landed, final, after]
    next =>
      have rested : x.step s = x.lieDown after := by
        simp only [step, Exchange.arrive, landed, again.mpr decisive, if_true, after]
      have unsettled : c.Tried settings k start (i + 1) (i + 1) x after := by
        have made : c.Tried settings k start (i + 1) i x after :=
          tried.mono rfl rfl rfl rfl rfl rfl
        refine { made with undecided := fun m within => ?_ }
        rcases Nat.lt_succ_iff_lt_or_eq.mp within with before | rfl
        · exact made.undecided m before
        · rw [result]
          exact decisive
      rw [rested]
      exact lieDown_step forward unsettled (spared.same rfl) (asked.same rfl) due

theorem Asleep.step (asleep : c.Asleep settings k start i x s) :
    c.Ended settings k start i (x.step s).1 (x.step s).2 ∨
      c.Ready settings k start (i + 1) (x.step s).1 (x.step s).2 := by
  obtain ⟨tried, phase, due, entered, asked⟩ := asleep
  obtain ⟨n, time, checked⟩ := Cancellation.check_closes entered asked
  have closes : (rests settings.requestSeconds start).closes i = x.due := due.symm
  rw [closes] at checked
  have step : x.step s = x.getUp (s.advance (k.wakeTime x.due s)) := by
    simp only [Exchange.step, Exchange.wake, phase, tried.cancellation]
  have undecided := tried.undecided i (Nat.lt_succ_self i)
  rcases checked with ⟨stopped, cut⟩ | ⟨free, rfl, spared, put⟩
  · have up : x.step s = (x.finished (.error Cancellation.duringWait),
        { s with clock := time, questions := n }) := by
      simp only [step, Exchange.getUp, tried.cancellation, stopped]
    have made : c.Tried settings k start (i + 1) (i + 1)
        (x.finished (.error Cancellation.duringWait)) { s with clock := time, questions := n } :=
      tried.mono rfl rfl rfl rfl rfl rfl
    rw [up]
    exact .inl
      { tried := { made with undecided := fun m before => made.undecided m (by omega) }
        spared := entered.1.same rfl
        ending := ⟨_, rfl, .cut undecided ⟨_, rfl⟩ cut⟩ }
  · have up : x.step s = ({ x with phase := .ready },
        { s with clock := x.due, questions := n }) := by
      simp only [step, Exchange.getUp, tried.cancellation, free]
    rw [up]
    exact .inr ⟨tried.mono rfl rfl rfl rfl rfl rfl, rfl, due, spared, put⟩

theorem Ready.going (ready : c.Ready settings k start i x s) : x.isOver = false := by
  simp [Exchange.isOver, ready.phase]

theorem Aloft.going (aloft : c.Aloft settings k start i x s) : x.isOver = false := by
  obtain ⟨land, phase, -⟩ := aloft.phase
  simp [Exchange.isOver, phase]

theorem Asleep.going (asleep : c.Asleep settings k start i x s) : x.isOver = false := by
  simp [Exchange.isOver, asleep.phase]

theorem Ended.isOver (ended : c.Ended settings k start i x s) : x.isOver = true := by
  obtain ⟨o, phase, -⟩ := ended.ending
  simp [Exchange.isOver, phase]

theorem settles_six (o : Outcome String) : Settles o 6 := by
  cases o with
  | ok text => trivial
  | error f =>
    cases f with
    | model e => exact decisive_six (.error e.kind)
    | _ => trivial

-- Induction on the attempts that are left. Three steps make an attempt and the rest after it, so
-- the fuel is three times as much.
theorem Ready.steps (google : c.provider = .google) (forward : start.Forward) (left : Nat)
    (whole : i + left + 1 = 6) (ready : c.Ready settings k start i x s) :
    ∃ last < 6, c.Ended settings k start last (Exchange.steps (3 * (left + 1)) x s).1
      (Exchange.steps (3 * (left + 1)) x s).2 := by
  induction left generalizing i x s with
  | zero =>
    obtain rfl : i = 5 := by omega
    have aloft := ready.step google forward
    rw [steps_succ ready.going, steps_succ aloft.going]
    rcases aloft.step google forward (by decide) with ended | asleep
    · rw [steps_over ended.isOver]
      exact ⟨5, by decide, ended⟩
    · exact absurd (settles_six _) (asleep.tried.undecided 5 (by decide))
  | succ left ih =>
    have aloft := ready.step google forward
    have fuel : 3 * (left + 1 + 1) = 3 * (left + 1) + 1 + 1 + 1 := by omega
    rw [fuel, steps_succ ready.going, steps_succ aloft.going]
    rcases aloft.step google forward (by omega) with ended | asleep
    · rw [steps_over ended.isOver]
      exact ⟨i, by omega, ended⟩
    · rw [steps_succ asleep.going]
      rcases asleep.step with ended | again
      · rw [steps_over ended.isOver]
        exact ⟨i, by omega, ended⟩
      · exact ih (by omega) again

end PromptStudio.Call
