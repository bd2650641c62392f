import PromptStudio.Proofs.Gateway.Single

set_option autoImplicit false

namespace PromptStudio.Call

open Attempt

variable {c : Call} {settings : Settings} {k : Cancellation} {start : Session}

/-- A call from the session `start` that makes `n` attempts and leaves `s'`. -/
structure Retried (c : Call) (limit : Binary64) (start : Session) (n : Nat) (o : Outcome String)
    (s' : Session) : Prop where
  positive : 1 ≤ n
  decisive : Decisive (nth limit start (n - 1)).result n
  least : ∀ m, 1 ≤ m → m < n → ¬Decisive (nth limit start (m - 1)).result m
  ends : Ends (nth limit start (n - 1)).result o
  requests : s'.requests = start.requests ++ c.sentRequests limit start n
  count : timed limit = true → s'.requests.length = start.requests.length + n
  clock : s'.clock = startTime limit start (n - 1) + (nth limit start (n - 1)).seconds
  rests : (List.range (n - 1)).map (fun i => restAfter (i + 1)) = [1, 2, 4, 8, 16].take (n - 1)
  retries : n - 1 ≤ 5
  unavailable : ∀ m, 1 ≤ m → m < n →
    (nth limit start (m - 1)).result = .error .unavailable → m ≤ 2

theorem rests_eq {count : Nat} (few : count ≤ 5) :
    (List.range count).map (fun i => restAfter (i + 1)) = [1, 2, 4, 8, 16].take count := by
  match count, few with
  | 0, _ | 1, _ | 2, _ | 3, _ | 4, _ | 5, _ => rfl

theorem Poised.first (c : Call) (settings : Settings) (calm : k.Calm start) :
    c.Poised settings k start 0 ((c.line settings k).start start) start :=
  { holds := ⟨rfl, rfl, calm, rfl, by simp [sentRequests]⟩, phase := rfl, due := rfl }

theorem reported_ends {result : Except ErrorKind String} {o : Outcome String} {s s' : Session}
    {run : Run String} (ran : run s = (o, s')) (ends : Ends result o) :
    run.mapFailure (reported c.provider c.model) s = (o, s') := by
  cases result with
  | ok text =>
    obtain rfl : o = .ok text := ends
    simp only [Run.mapFailure, ran]
  | error kind =>
    obtain ⟨e, rfl, -⟩ := ends
    simp only [Run.mapFailure, ran]
    rfl

theorem run_retried (google : c.provider = .google)
    (worded : ∀ n f, (start.providers.entry {} n).answer = .error f → f.Worded)
    (calm : k.Calm start) :
    ∃ n o s', c.run settings k start = (o, s') ∧
      c.Retried settings.requestSeconds start n o s' := by
  obtain ⟨last, ⟨-, within, decisive, least⟩, ⟨holds, ⟨o, phase, ends⟩, clock⟩⟩ :=
    (Poised.first c settings calm).steps google worded 5 rfl
  generalize ran : Exchange.steps (3 * (5 + 1)) ((c.line settings k).start start) start = final
    at holds phase clock
  have line : (c.line settings k).run start = (o, final.2) := by
    have steps : Exchange.steps Exchange.stepLimit ((c.line settings k).start start) start =
        final := ran
    simp only [Line.run, steps, Exchange.result, phase]
  have undecided : ∀ m, 1 ≤ m → m < last + 1 →
      ¬Decisive (nth settings.requestSeconds start (m - 1)).result m := by
    intro m positive before
    have first := least (m - 1) (Nat.zero_le _) (by omega)
    rwa [Nat.sub_add_cancel positive] at first
  refine ⟨last + 1, o, final.2, reported_ends line ends, ?_⟩
  constructor
  case positive => omega
  case decisive => exact decisive
  case least => exact undecided
  case ends => exact ends
  case requests => exact holds.requests
  case count =>
    intro time
    rw [holds.requests, List.length_append, length_sentRequests c time]
  case clock => exact clock
  case rests => exact rests_eq (by omega)
  case retries => omega
  case unavailable =>
    intro m positive before unavailable
    have again := undecided m positive before
    rw [unavailable] at again
    simp only [Decisive, not_or, not_and] at again
    have early := again.2.2.1 trivial
    omega

theorem run_once (other : c.provider ≠ .google) (settings : Settings) (k : Cancellation)
    (start : Session) :
    (c.run settings k start).2.requests =
      start.requests ++ c.recorded settings.requestSeconds start.clock := by
  obtain ⟨quiet, requests⟩ := send_requests c settings.requestSeconds start
  have once : (c.line settings k).retries = false := decide_eq_false other
  have session : (c.run settings k start).2 = ((c.line settings k).run start).2 :=
    Run.mapFailure_session _ _ start
  rw [session, Line.run_once once]
  exact (quiet _).trans requests

theorem callModel_attempts (settings : Settings) (model user system : String) (credentials : Json)
    (options : CallOptions) (c : Call) (start : Session)
    (prepared : Call.prepare settings model user system credentials options = .ok c) :
    (c.provider = .google → options.cancellation.Calm start →
      (∀ n f, (start.providers.entry {} n).answer = .error f → f.Worded) →
      ∃ n o s', callModel settings model user system credentials options start = (o, s') ∧
        c.Retried settings.requestSeconds start n o s') ∧
    (c.provider ≠ .google →
      (callModel settings model user system credentials options start).2.requests =
        start.requests ++ c.recorded settings.requestSeconds start.clock) := by
  have ready : callModel settings model user system credentials options start =
      c.run settings options.cancellation start := by
    have first : Run.of (Call.prepare settings model user system credentials options) start =
        (.ok c, start) := by rw [Run.of_apply, prepared]
    exact Run.bind_of_ok first
  rw [ready]
  exact ⟨fun google calm worded => run_retried google worded calm,
    fun other => run_once other settings options.cancellation start⟩

def refusal (message : String) (status : Int) : Entry ProviderReply :=
  { delay := 1, answer := .error (.reported { message := message, status := some status }) }

def crowdedSession : Session :=
  { providers := [refusal "busy" 503, refusal "slow down" 429, refusal "busy" 503] }

theorem callModel_crowdedSession :
    ∃ c, Call.prepare {} "gemini-2.5-flash" "Write" "" (.obj [("gemini", .str "key")]) {} = .ok c ∧
      c.provider = .google ∧
      (∀ n f, (crowdedSession.providers.entry {} n).answer = .error f → f.Worded) ∧
      Cancellation.never.Calm crowdedSession ∧
      ∃ o s', callModel {} "gemini-2.5-flash" "Write" "" (.obj [("gemini", .str "key")]) {}
          crowdedSession = (o, s') ∧
        c.Retried (.finite 30) crowdedSession 3 o s' := by
  have refused : ∀ n, ∃ message status,
      crowdedSession.providers.entry {} n = refusal message status
    | 0 => ⟨"busy", 503, rfl⟩
    | 1 => ⟨"slow down", 429, rfl⟩
    | 2 => ⟨"busy", 503, rfl⟩
    | _ + 3 => ⟨"busy", 503, rfl⟩
  have worded : ∀ n f, (crowdedSession.providers.entry {} n).answer = .error f → f.Worded := by
    intro n f same
    obtain ⟨message, status, entry⟩ := refused n
    rw [entry] at same
    injection same with same
    exact ⟨Report.cutMessage message, same ▸ rfl⟩
  have time : timed (.finite 30) = true := by decide +kernel
  have early : (Binary64.finite 30).below (.ofRat 1) = false := by decide +kernel
  have result (message : String) (status : Int) :
      (of (.finite 30) (refusal message status)).result = .error (.ofStatus status) := by
    simp only [of, time, refusal, early]
    rfl
  refine ⟨_, rfl, rfl, worded, trivial, ?_⟩
  obtain ⟨n, o, s', called, retried⟩ := (callModel_attempts {} "gemini-2.5-flash" "Write" ""
    (.obj [("gemini", .str "key")]) {} _ crowdedSession rfl).1 rfl trivial worded
  have first : (nth (.finite 30) crowdedSession 0).result = .error .unavailable := result "busy" 503
  have second : (nth (.finite 30) crowdedSession 1).result = .error .rateLimited :=
    result "slow down" 429
  have third : (nth (.finite 30) crowdedSession 2).result = .error .unavailable := result "busy" 503
  have three : n = 3 := by
    have positive := retried.positive
    rcases Nat.lt_trichotomy n 3 with early | same | late
    · have decisive := retried.decisive
      rcases (by omega : n = 1 ∨ n = 2) with rfl | rfl
      · exact absurd (first ▸ decisive) (by simp [Decisive])
      · exact absurd (second ▸ decisive) (by simp [Decisive])
    · exact same
    · refine absurd ?_ (retried.least 3 (by decide) late)
      exact third ▸ .inr (.inr (.inl ⟨rfl, by decide⟩))
  exact ⟨o, s', called, three ▸ retried⟩

end PromptStudio.Call
