import PromptStudio.Proofs.Gateway.Attempts
import PromptStudio.Proofs.Session.Runs

set_option autoImplicit false

namespace PromptStudio

namespace Attempt

def nth (limit : Binary64) (s : Session) (i : Nat) : Attempt :=
  of limit (s.providers.entry {} (s.requests.length + i))

/-- When attempt number `i` starts: one after the other, with a rest between. -/
def startTime (limit : Binary64) (s : Session) : Nat → Rat
  | 0 => s.clock
  | i + 1 => startTime limit s i + (nth limit s i).seconds + restAfter (i + 1)

/-- No attempt follows the attempt number `n`, counted from 1. -/
def Decisive (result : Except ErrorKind String) (n : Nat) : Prop :=
  match result with
  | .ok _ => True
  | .error kind =>
    kind = .badRequest ∨ kind = .invalidCredential ∨ (kind = .unavailable ∧ 3 ≤ n) ∨ n = 6

end Attempt

namespace Call

open Attempt

def sentRequests (c : Call) (limit : Binary64) (s : Session) : Nat → List SentRequest
  | 0 => []
  | n + 1 => sentRequests c limit s n ++ c.recorded limit (startTime limit s n)

variable {c : Call} {settings : Settings} {k : Cancellation} {start : Session}

section Phases

variable (c settings k start)

/-- What is so in each phase of a call that started in `start` and made so many attempts. -/
structure Holds (made : Nat) (x : Exchange String) (s : Session) : Prop where
  line : x.line = c.line settings k
  sent : x.sent = made
  calm : k.Calm s
  providers : s.providers = start.providers
  requests : s.requests = start.requests ++ c.sentRequests settings.requestSeconds start made

structure Poised (i : Nat) (x : Exchange String) (s : Session) : Prop where
  holds : c.Holds settings k start i x s
  phase : x.phase = .ready
  due : x.due = startTime settings.requestSeconds start i

structure Underway (i : Nat) (x : Exchange String) (s : Session) : Prop where
  holds : c.Holds settings k start (i + 1) x s
  phase : ∃ land, x.phase = .flying land ∧
    Lands k land (nth settings.requestSeconds start i).result
  due : x.due = startTime settings.requestSeconds start i +
    (nth settings.requestSeconds start i).seconds

structure Resting (i : Nat) (x : Exchange String) (s : Session) : Prop where
  holds : c.Holds settings k start (i + 1) x s
  phase : x.phase = .resting
  due : x.due = startTime settings.requestSeconds start (i + 1)

structure Over (i : Nat) (x : Exchange String) (s : Session) : Prop where
  holds : c.Holds settings k start (i + 1) x s
  phase : ∃ o, x.phase = .ended o ∧ Ends (nth settings.requestSeconds start i).result o
  clock : s.clock = startTime settings.requestSeconds start i +
    (nth settings.requestSeconds start i).seconds

end Phases

variable {i : Nat} {x : Exchange String} {s : Session}

theorem length_sentRequests (c : Call) {limit : Binary64} (time : timed limit = true) (s : Session)
    (n : Nat) : (c.sentRequests limit s n).length = n := by
  induction n with
  | zero => rfl
  | succ n ih => simp [sentRequests, recorded, time, ih]

-- Without time nothing is sent, and then the answers do not matter.
theorem Holds.attempt (holds : c.Holds settings k start i x s) :
    of settings.requestSeconds (s.providers.entry {} s.requests.length) =
      nth settings.requestSeconds start i := by
  rw [nth, holds.providers, holds.requests]
  cases time : timed settings.requestSeconds with
  | true => rw [List.length_append, length_sentRequests c time]
  | false => simp [of, time]

theorem Poised.step (google : c.provider = .google)
    (worded : ∀ n f, (start.providers.entry {} n).answer = .error f → f.Worded)
    (poised : c.Poised settings k start i x s) :
    c.Underway settings k start i (x.step s).1 (x.step s).2 := by
  obtain ⟨holds, phase, due⟩ := poised
  have calm := holds.calm.advance x.due
  have answers : ∀ n f, (s.providers.entry {} n).answer = .error f → f.Worded := by
    rw [holds.providers]
    exact worded
  obtain ⟨flight, s', sent, seconds, lands, clock, providers, requests, still⟩ :=
    send_calm (s := s.advance x.due) google settings.requestSeconds answers calm
  have attempt : of settings.requestSeconds ((s.advance x.due).providers.entry {}
      (s.advance x.due).requests.length) = nth settings.requestSeconds start i := holds.attempt
  rw [attempt] at seconds lands
  have step : x.step s = ({ x with
      sent := x.sent + 1
      due := s'.clock + flight.seconds
      phase := .flying flight.land }, s') := by
    have departed : (c.line settings k).send (s.advance x.due) = (flight, s') := sent
    simp only [Exchange.step, Exchange.wake, phase, Exchange.depart, holds.line, departed]
  rw [step]
  have now : s'.clock = startTime settings.requestSeconds start i := clock.trans due
  constructor
  case holds =>
    constructor
    case line => exact holds.line
    case sent => exact congrArg (· + 1) holds.sent
    case calm => exact still
    case providers => exact providers.trans holds.providers
    case requests =>
      have time : (s.advance x.due).clock = startTime settings.requestSeconds start i := due
      rw [requests, time, sentRequests, ← List.append_assoc, ← holds.requests]
      rfl
  case phase => exact ⟨flight.land, rfl, lands⟩
  case due => rw [now, seconds]

theorem triesAgain_iff (google : c.provider = .google) {n : Nat} (few : n ≤ 6)
    (line : x.line = c.line settings k) (sent : x.sent = n) (e : ModelError) :
    x.triesAgain (.model e) = true ↔ ¬Decisive (.error e.kind) n := by
  simp only [Exchange.triesAgain, line, Call.line, google, decide_true, Bool.true_and,
    Failure.isRetryable, retryLimit, sent, Decisive, Bool.and_eq_true, decide_eq_true_eq]
  cases e.kind <;> simp [ErrorKind.isFinal] <;> omega

theorem Holds.mono {made : Nat} {s' : Session} (holds : c.Holds settings k start made x s)
    (steady : s.Steady k s') {y : Exchange String} (line : y.line = x.line)
    (sent : y.sent = x.sent) : c.Holds settings k start made y s' where
  line := line.trans holds.line
  sent := sent.trans holds.sent
  calm := steady.calm
  providers := steady.providers.trans holds.providers
  requests := steady.requests.trans holds.requests

theorem Holds.advance {made : Nat} (holds : c.Holds settings k start made x s) (time : Rat) :
    c.Holds settings k start made x (s.advance time) :=
  { holds with calm := holds.calm.advance time }

theorem lieDown_calm (calm : x.line.cancellation.Calm s) :
    ∃ s', x.lieDown s =
        ({ x with due := s.clock + restAfter x.sent, phase := .resting }, s') ∧
      s.Steady x.line.cancellation s' := by
  obtain ⟨between, checked, same⟩ := Cancellation.check_calm calm
  have settled := Cancellation.settle_steady same.calm
  refine ⟨between.settle, ?_, same.trans settled⟩
  simp only [Exchange.lieDown, checked, same.clock]

theorem Underway.step (google : c.provider = .google) (few : i < 6)
    (underway : c.Underway settings k start i x s) :
    (Decisive (nth settings.requestSeconds start i).result (i + 1) ∧
        c.Over settings k start i (x.step s).1 (x.step s).2) ∨
      (¬Decisive (nth settings.requestSeconds start i).result (i + 1) ∧
        c.Resting settings k start i (x.step s).1 (x.step s).2) := by
  obtain ⟨holds, ⟨land, phase, lands⟩, due⟩ := underway
  obtain ⟨o, s', landed, ends, steady⟩ := lands (s.advance x.due) (holds.calm.advance x.due)
  have clock : s'.clock = startTime settings.requestSeconds start i +
      (nth settings.requestSeconds start i).seconds := steady.clock.trans due
  have ended (final : x.step s = (x.finished o, s')) :
      c.Over settings k start i (x.step s).1 (x.step s).2 := by
    rw [final]
    exact ⟨(holds.advance x.due).mono steady rfl rfl, ⟨o, rfl, ends⟩, clock⟩
  cases result : (nth settings.requestSeconds start i).result with
  | ok text =>
    rw [result] at ends
    have succeeded : o = .ok text := ends
    refine .inl ⟨trivial, ended ?_⟩
    simp only [Exchange.step, Exchange.wake, phase, Exchange.arrive, landed, succeeded]
  | error kind =>
    rw [result] at ends
    obtain ⟨e, rfl, rfl⟩ := ends
    have again := triesAgain_iff google (Nat.succ_le_of_lt few) holds.line holds.sent e
    by_cases decisive : Decisive (.error e.kind) (i + 1)
    next =>
      have final : x.triesAgain (.model e) = false :=
        Bool.eq_false_iff.mpr fun tries => again.mp tries decisive
      refine .inl ⟨decisive, ended ?_⟩
      simp [Exchange.step, Exchange.wake, phase, Exchange.arrive, landed, final]
    next =>
      have tries := again.mpr decisive
      have line : x.line.cancellation = k := by rw [holds.line]; rfl
      obtain ⟨s'', lain, rested⟩ := lieDown_calm (line ▸ steady.calm)
      have step : x.step s =
          ({ x with due := s'.clock + restAfter x.sent, phase := .resting }, s'') := by
        simp only [Exchange.step, Exchange.wake, phase, Exchange.arrive, landed, tries, if_true, lain]
      refine .inr ⟨decisive, ?_⟩
      rw [step]
      rw [line] at rested
      refine ⟨((holds.advance x.due).mono steady rfl rfl).mono rested rfl rfl, rfl, ?_⟩
      rw [clock, holds.sent]
      rfl

theorem Resting.step (resting : c.Resting settings k start i x s) :
    c.Poised settings k start (i + 1) (x.step s).1 (x.step s).2 := by
  obtain ⟨holds, phase, due⟩ := resting
  have line : x.line.cancellation = k := by rw [holds.line]; rfl
  have wake : x.wake s = x.due := by
    simp only [Exchange.wake, phase, line, Cancellation.wakeTime_calm holds.calm]
  obtain ⟨s', checked, same⟩ := Cancellation.check_calm (holds.calm.advance x.due)
  have step : x.step s = ({ x with phase := .ready }, s') := by
    simp only [Exchange.step, wake, phase, Exchange.getUp, line, checked]
  rw [step]
  exact ⟨(holds.advance x.due).mono same rfl rfl, rfl, due⟩

theorem callModel_prepared {model user system : String} {credentials : Json}
    {options : CallOptions}
    (prepared : Call.prepare settings model user system credentials options = .ok c)
    (s : Session) :
    callModel settings model user system credentials options s =
      c.run settings options.cancellation s := by
  have first : Run.of (Call.prepare settings model user system credentials options) s =
      (.ok c, s) := by rw [Run.of_apply, prepared]
  exact Run.bind_of_ok first

theorem callModel_refused {model user system : String} {credentials : Json}
    {options : CallOptions} {f : Failure}
    (refused : prepare settings model user system credentials options = .error f) (s : Session) :
    callModel settings model user system credentials options s = (.error f, s) := by
  rw [callModel, Run.bind_apply, refused]
  rfl

theorem steps_succ (going : x.isOver = false) (fuel : Nat) :
    Exchange.steps (fuel + 1) x s = Exchange.steps fuel (x.step s).1 (x.step s).2 := by
  simp [Exchange.steps, going]

theorem steps_over (ended : x.isOver = true) (fuel : Nat) : Exchange.steps fuel x s = (x, s) := by
  cases fuel with
  | zero => rfl
  | succ fuel => simp [Exchange.steps, ended]

theorem Poised.going (poised : c.Poised settings k start i x s) : x.isOver = false := by
  simp [Exchange.isOver, poised.phase]

theorem Underway.going (underway : c.Underway settings k start i x s) : x.isOver = false := by
  obtain ⟨land, phase, -⟩ := underway.phase
  simp [Exchange.isOver, phase]

theorem Resting.going (resting : c.Resting settings k start i x s) : x.isOver = false := by
  simp [Exchange.isOver, resting.phase]

theorem Over.isOver (ended : c.Over settings k start i x s) : x.isOver = true := by
  obtain ⟨o, phase, -⟩ := ended.phase
  simp [Exchange.isOver, phase]

theorem decisive_six (result : Except ErrorKind String) : Decisive result 6 := by
  cases result with
  | ok text => trivial
  | error kind => exact .inr (.inr (.inr rfl))

structure FirstDecisive (limit : Binary64) (start : Session) (i last : Nat) : Prop where
  after : i ≤ last
  within : last < 6
  decisive : Decisive (nth limit start last).result (last + 1)
  least : ∀ m, i ≤ m → m < last → ¬Decisive (nth limit start m).result (m + 1)

-- Induction on the attempts that are left. Three steps make an attempt and the rest after it, so
-- the fuel is three times as much.
theorem Poised.steps (google : c.provider = .google)
    (worded : ∀ n f, (start.providers.entry {} n).answer = .error f → f.Worded) (left : Nat)
    (whole : i + left + 1 = 6) (poised : c.Poised settings k start i x s) :
    ∃ last, FirstDecisive settings.requestSeconds start i last ∧
      c.Over settings k start last (Exchange.steps (3 * (left + 1)) x s).1
        (Exchange.steps (3 * (left + 1)) x s).2 := by
  induction left generalizing i x s with
  | zero =>
    obtain rfl : i = 5 := by omega
    have underway := poised.step google worded
    rcases underway.step google (by decide) with ⟨decisive, ended⟩ | ⟨undecided, -⟩
    · refine ⟨5, ⟨Nat.le_refl 5, by decide, decisive, by omega⟩, ?_⟩
      rw [steps_succ poised.going, steps_succ underway.going, steps_over ended.isOver]
      exact ended
    · exact absurd (decisive_six _) undecided
  | succ left ih =>
    have underway := poised.step google worded
    have fuel : 3 * (left + 1 + 1) = 3 * (left + 1) + 1 + 1 + 1 := by omega
    rw [fuel, steps_succ poised.going, steps_succ underway.going]
    rcases underway.step google (by omega) with ⟨decisive, ended⟩ | ⟨undecided, resting⟩
    · rw [steps_over ended.isOver]
      exact ⟨i, ⟨Nat.le_refl i, by omega, decisive, by omega⟩, ended⟩
    · rw [steps_succ resting.going]
      obtain ⟨last, ⟨after, within, decisive, least⟩, ended⟩ := ih (by omega) resting.step
      refine ⟨last, ⟨by omega, within, decisive, fun m later before => ?_⟩, ended⟩
      rcases Nat.eq_or_lt_of_le later with rfl | next
      · exact undecided
      · exact least m next before

end Call

end PromptStudio
