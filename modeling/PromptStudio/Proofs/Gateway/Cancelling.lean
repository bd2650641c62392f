import PromptStudio.Proofs.Gateway.Stopping

set_option autoImplicit false

namespace PromptStudio.Call

open Attempt

def told (c : Call) (o : Outcome String) : Outcome String :=
  o.mapError (reported c.provider c.model)

def CancelledAt (o : Outcome String) (s' : Session) (time : Rat) : Prop :=
  (∃ message, o = .error (.cancelled message)) ∧ s'.clock = time

/-- What a call of `n` attempts owes to a token that is set at a time. -/
structure StoppedFrom (c : Call) (limit : Binary64) (start : Session) (n : Nat)
    (o : Outcome String) (s' : Session) (time : Rat) : Prop where
  punctual : ∀ r ∈ s'.requests.drop (start.requests.length + 1), r.time ≤ time
  cut : ∀ i < n, ¬Settles (c.outcome limit start i) (i + 1) →
    time < startTime limit start (i + 1) →
      i + 1 = n ∧ CancelledAt o s' (max time (endTime limit start i))
  goesOn : ∀ i < n, ¬Settles (c.outcome limit start i) (i + 1) →
    startTime limit start (i + 1) < time → i + 1 < n

/-- What a call of `n` attempts owes to the answers given before and after each rest. -/
structure StoppedBy (c : Call) (limit : Binary64) (start : Session) (n : Nat)
    (o : Outcome String) (s' : Session) (values : List Bool) : Prop where
  refused : ∀ i, i + 1 < n →
    Cancellation.answer values (start.questions + 2 * i) = false ∧
      Cancellation.answer values (start.questions + 2 * i + 1) = false
  before : ∀ i < n, ¬Settles (c.outcome limit start i) (i + 1) →
    Cancellation.answer values (start.questions + 2 * i) = true →
      i + 1 = n ∧ CancelledAt o s' (endTime limit start i)
  after : ∀ i < n, ¬Settles (c.outcome limit start i) (i + 1) →
    Cancellation.answer values (start.questions + 2 * i) = false →
    Cancellation.answer values (start.questions + 2 * i + 1) = true →
      i + 1 = n ∧ CancelledAt o s' (startTime limit start (i + 1))

structure Stopped (c : Call) (k : Cancellation) (limit : Binary64) (start : Session) (n : Nat)
    (o : Outcome String) (s' : Session) : Prop where
  positive : 1 ≤ n
  few : n ≤ 6
  requests : s'.requests = start.requests ++ c.sentRequests limit start n
  decided : ∀ i < n, Settles (c.outcome limit start i) (i + 1) →
    i + 1 = n ∧ o = c.told (c.outcome limit start i) ∧ s'.clock = endTime limit start i
  token : k = .token → ∀ time, s'.cancelledFrom = some time →
    c.StoppedFrom limit start n o s' time
  unset : k = .token → s'.cancelledFrom = none → Settles (c.outcome limit start (n - 1)) n
  answers : ∀ values, k = .answers values → c.StoppedBy limit start n o s' values
  kept : start.Uninterrupted → s'.cancelledFrom = start.cancelledFrom

variable {c : Call} {settings : Settings} {k : Cancellation} {start : Session}

theorem sentRequests_eq {limit : Binary64} (time : timed limit = true) (s : Session) (n : Nat) :
    c.sentRequests limit s n = (List.range n).map fun i => c.sentAt (startTime limit s i) := by
  induction n with
  | zero => rfl
  | succ n ih => simp [sentRequests, recorded, time, ih, List.range_succ]

theorem time_of_retry {limit : Binary64} {s : Session} {n : Nat} {r : SentRequest}
    (later : r ∈ (c.sentRequests limit s n).drop 1) :
    ∃ i, i + 1 < n ∧ r.time = startTime limit s (i + 1) := by
  cases time : timed limit with
  | false =>
    have unsent : ∀ n, c.sentRequests limit s n = [] := by
      intro n
      induction n with
      | zero => rfl
      | succ n ih => simp [sentRequests, recorded, time, ih]
    simp [unsent] at later
  | true =>
    obtain ⟨i, found⟩ := List.mem_iff_getElem?.mp later
    rw [List.getElem?_drop, sentRequests_eq time, List.getElem?_map, Option.map_eq_some_iff] at found
    obtain ⟨j, position, rfl⟩ := found
    obtain ⟨within, rfl⟩ := List.getElem?_eq_some_iff.mp position
    rw [List.length_range] at within
    exact ⟨i, by omega, by simp [sentAt, Nat.add_comm]⟩

variable {last : Nat} {x : Exchange String} {s' : Session}

theorem Ended.undecided (ended : c.Ended settings k start last x s') {i : Nat} (within : i < last + 1)
    (decisive : Settles (c.outcome settings.requestSeconds start i) (i + 1)) : i = last := by
  rcases Nat.lt_succ_iff_lt_or_eq.mp within with before | same
  · exact absurd decisive (ended.tried.undecided i before)
  · exact same

theorem Ended.cut (ended : c.Ended settings k start last x s') {o : Outcome String}
    (phase : x.phase = .ended o)
    (undecided : ¬Settles (c.outcome settings.requestSeconds start last) (last + 1)) :
    (∃ message, o = .error (.cancelled message)) ∧
      k.Cut (rests settings.requestSeconds start) start.questions last s' := by
  obtain ⟨other, same, ending⟩ := ended.ending
  obtain rfl : o = other := by
    rw [phase] at same
    injection same
  cases ending with
  | settled decisive => exact absurd decisive undecided
  | cut _ cancelled cut => exact ⟨cancelled, cut⟩

theorem told_cancelled {o : Outcome String} (cancelled : ∃ message, o = .error (.cancelled message)) :
    ∃ message, c.told o = .error (.cancelled message) := by
  obtain ⟨message, rfl⟩ := cancelled
  exact ⟨message, rfl⟩

theorem Ended.stoppedFrom
    (ended : c.Ended settings .token start last x s') {o : Outcome String}
    (phase : x.phase = .ended o) {time : Rat} (set : s'.cancelledFrom = some time) :
    c.StoppedFrom settings.requestSeconds start (last + 1) (c.told o) s' time := by
  have spared : ∀ j < last, startTime settings.requestSeconds start (j + 1) ≤ time :=
    ended.spared time set
  constructor
  case punctual =>
    intro r later
    rw [ended.tried.requests, List.drop_length_add_append] at later
    obtain ⟨i, within, sent⟩ := time_of_retry later
    rw [sent]
    exact spared i (by omega)
  case cut =>
    intro i within undecided early
    rcases Nat.lt_succ_iff_lt_or_eq.mp within with before | rfl
    · exact absurd early (not_lt_of_ge (spared i before))
    · obtain ⟨cancelled, other, found, -, clock⟩ := ended.cut phase undecided
      obtain rfl : time = other := by simpa [set] using found
      exact ⟨rfl, told_cancelled cancelled, clock⟩
  case goesOn =>
    intro i within undecided late
    rcases Nat.lt_succ_iff_lt_or_eq.mp within with before | rfl
    · omega
    · obtain ⟨-, other, found, inside, -⟩ := ended.cut phase undecided
      obtain rfl : time = other := by simpa [set] using found
      exact absurd late (not_lt_of_ge inside)

theorem Ended.stoppedBy {values : List Bool}
    (ended : c.Ended settings (.answers values) start last x s') {o : Outcome String}
    (phase : x.phase = .ended o) :
    c.StoppedBy settings.requestSeconds start (last + 1) (c.told o) s' values := by
  have spared := ended.spared
  have cut {i : Nat} (within : i < last + 1)
      (undecided : ¬Settles (c.outcome settings.requestSeconds start i) (i + 1))
      (stops : Cancellation.answer values (start.questions + 2 * i) = true ∨
        Cancellation.answer values (start.questions + 2 * i + 1) = true) :
      i = last ∧ (∃ message, c.told o = .error (.cancelled message)) ∧
        (Cancellation.answers values).Cut (rests settings.requestSeconds start) start.questions i
          s' := by
    rcases Nat.lt_succ_iff_lt_or_eq.mp within with before | rfl
    · obtain ⟨no, no'⟩ := spared i before
      simp [no, no'] at stops
    · obtain ⟨cancelled, cut⟩ := ended.cut phase undecided
      exact ⟨rfl, told_cancelled cancelled, cut⟩
  constructor
  case refused => exact fun i within => spared i (by omega)
  case before =>
    intro i within undecided yes
    obtain ⟨rfl, cancelled, ⟨-, clock⟩ | ⟨no, -⟩⟩ := cut within undecided (.inl yes)
    · exact ⟨rfl, cancelled, clock⟩
    · simp [yes] at no
  case after =>
    intro i within undecided no yes
    obtain ⟨rfl, cancelled, ⟨yes', -⟩ | ⟨-, -, clock⟩⟩ := cut within undecided (.inr yes)
    · simp [no] at yes'
    · exact ⟨rfl, cancelled, clock⟩

theorem Ready.first (c : Call) (settings : Settings) (k : Cancellation) (start : Session) :
    c.Ready settings k start 0 ((c.line settings k).start start) start where
  tried := ⟨rfl, rfl, rfl, by simp [sentRequests], by simp, fun calm => ⟨calm.1, rfl⟩⟩
  phase := rfl
  due := rfl
  spared := .zero k _ _ _
  asked := by cases k <;> simp [Cancellation.Asked]

theorem run_stopped (google : c.provider = .google) (forward : start.Forward) :
    ∃ n o s', c.run settings k start = (o, s') ∧
      c.Stopped k settings.requestSeconds start n o s' := by
  obtain ⟨last, few, ended⟩ :=
    (Ready.first c settings k start).steps google forward 5 rfl
  obtain ⟨o, phase, ending⟩ := id ended.ending
  generalize ran : Exchange.steps (3 * (5 + 1)) ((c.line settings k).start start) start = final
    at ended phase ending
  have line : (c.line settings k).run start = (o, final.2) := by
    have steps : Exchange.steps Exchange.stepLimit ((c.line settings k).start start) start =
        final := ran
    simp only [Line.run, steps, Exchange.result, phase]
  have run : c.run settings k start = (c.told o, final.2) := by
    rw [Call.run, Run.mapFailure, line]
    cases o <;> rfl
  refine ⟨last + 1, c.told o, final.2, run, ?_⟩
  constructor
  case positive => omega
  case few => omega
  case requests => exact ended.tried.requests
  case decided =>
    intro i within decisive
    obtain rfl := ended.undecided within decisive
    cases ending with
    | settled _ same clock => exact ⟨rfl, congrArg c.told same, clock⟩
    | cut undecided => exact absurd decisive undecided
  case token =>
    rintro rfl time set
    exact ended.stoppedFrom phase set
  case unset =>
    rintro rfl unset
    by_contra undecided
    obtain ⟨-, time, set, -⟩ := ended.cut phase undecided
    simp [unset] at set
  case answers =>
    rintro values rfl
    exact ended.stoppedBy phase
  case kept => exact fun calm => (ended.tried.kept calm).2

theorem callModel_stopped (settings : Settings) (model user system : String) (credentials : Json)
    (options : CallOptions) (c : Call) (start : Session)
    (prepared : Call.prepare settings model user system credentials options = .ok c)
    (google : c.provider = .google) (forward : start.Forward) :
    ∃ n o s', callModel settings model user system credentials options start = (o, s') ∧
      c.Stopped options.cancellation settings.requestSeconds start n o s' := by
  rw [callModel_prepared prepared]
  exact run_stopped google forward

def busyReply : Entry ProviderReply :=
  { delay := 1, answer := .error (.reported { message := "busy", status := some 429 }) }

def haltedSession : Session := { providers := [busyReply], cancelledFrom := some (5 / 2) }

theorem callModel_haltedSession :
    ∃ c, Call.prepare {} "gemini-2.5-flash" "Write" "" (.obj [("gemini", .str "key")])
        { cancellation := .token } = .ok c ∧
      c.provider = .google ∧ haltedSession.Forward ∧
      ∃ o s', callModel {} "gemini-2.5-flash" "Write" "" (.obj [("gemini", .str "key")])
          { cancellation := .token } haltedSession = (o, s') ∧
        c.Stopped .token (.finite 30) haltedSession 2 o s' ∧ CancelledAt o s' 3 := by
  have entry : ∀ n, haltedSession.providers.entry {} n = busyReply
    | 0 => rfl
    | _ + 1 => rfl
  have forward : haltedSession.Forward := by
    intro n
    rw [entry]
    decide +kernel
  have calm : haltedSession.Uninterrupted := ⟨rfl, fun n => by rw [entry]; rfl⟩
  have time : timed (.finite 30) = true := by decide +kernel
  have early : (Binary64.finite 30).below (.ofRat 1) = false := by decide +kernel
  have attempt (i : Nat) : (nth (.finite 30) haltedSession i).seconds = 1 := by
    simp [nth, entry, of, time, busyReply, early]
  have first : startTime (.finite 30) haltedSession 1 = 2 := by
    rw [startTime, attempt]
    decide +kernel
  have second : endTime (.finite 30) haltedSession 1 = 3 := by
    rw [endTime, first, attempt]
    decide +kernel
  have third : startTime (.finite 30) haltedSession 2 = 5 := by
    rw [startTime, first, attempt]
    decide +kernel
  refine ⟨_, rfl, rfl, forward, ?_⟩
  obtain ⟨n, o, s', called, stopped⟩ := callModel_stopped {} "gemini-2.5-flash" "Write" ""
    (.obj [("gemini", .str "key")]) { cancellation := .token } _ haltedSession rfl rfl forward
  have undecided (c : Call) (i : Nat) (few : i + 1 < 6) :
      ¬Settles (c.outcome (.finite 30) haltedSession i) (i + 1) := by
    have refused : ∃ e, c.outcome (.finite 30) haltedSession i = .error (.model e) ∧
        e.kind = .rateLimited := by
      rw [outcome, entry]
      simp only [landing, time, busyReply, early]
      exact ⟨_, rfl, rfl⟩
    obtain ⟨e, same, kind⟩ := refused
    rw [same]
    simp [Settles, Decisive, kind]
    omega
  have set : s'.cancelledFrom = some (5 / 2) := stopped.kept calm
  have token := stopped.token rfl (5 / 2) set
  have goesOn : 1 < n :=
    token.goesOn 0 stopped.positive (undecided _ 0 (by decide)) (by rw [first]; decide +kernel)
  have cut := token.cut 1 goesOn (undecided _ 1 (by decide)) (by rw [third]; decide +kernel)
  rw [second] at cut
  obtain ⟨rfl, cancelled, clock⟩ := cut
  exact ⟨o, s', called, stopped, cancelled, clock.trans (by decide +kernel)⟩

end PromptStudio.Call
