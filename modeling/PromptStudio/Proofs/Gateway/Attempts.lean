import PromptStudio.Gateway.Gateway
import PromptStudio.Proofs.Session.Calm
import PromptStudio.Proofs.Session.Runs

set_option autoImplicit false

namespace PromptStudio

def Failure.Worded (f : Failure) : Prop := ∃ text, f.wording = .ok text

theorem Failure.asModelError_kind {f : Failure} (worded : f.Worded) (provider model : String) :
    ∃ e, f.asModelError provider model = .model e ∧ e.kind = f.kind := by
  obtain ⟨text, wording⟩ := worded
  have explained : ∃ message, f.explanation provider model = .ok message := by
    unfold explanation
    split
    next => exact ⟨_, rfl⟩
    next kind _ => exact ⟨sentence f.kind provider model text, by rw [wording]; rfl⟩
  obtain ⟨message, explained⟩ := explained
  unfold asModelError
  split
  next e => exact ⟨e, rfl, rfl⟩
  next =>
    rw [explained]
    exact ⟨_, rfl, rfl⟩

structure Attempt where
  seconds : Rat
  result : Except ErrorKind String

namespace Attempt

def timed (limit : Binary64) : Bool := !(limit.below (.finite 0) || limit.isZero)

/-- A reply without text is a failure of unknown kind. -/
def answered : Outcome ProviderReply → Except ErrorKind String
  | .ok reply => if reply.text.getD "" == "" then .error .unknown else .ok (reply.text.getD "")
  | .error f => .error f.kind

def of (limit : Binary64) (entry : Entry ProviderReply) : Attempt :=
  if !timed limit then ⟨0, .error .timeout⟩
  else if limit.below (.ofRat entry.delay) then ⟨limit.toRat?.getD 0, .error .timeout⟩
  else ⟨entry.delay, answered entry.answer⟩

def Ends (result : Except ErrorKind String) (o : Outcome String) : Prop :=
  match result with
  | .ok text => o = .ok text
  | .error kind => ∃ e, o = .error (.model e) ∧ e.kind = kind

/-- Whenever the answer is taken in, the attempt ends as it must. -/
def Lands (k : Cancellation) (land : Run String) (result : Except ErrorKind String) : Prop :=
  ∀ s, k.Calm s → ∃ o s', land s = (o, s') ∧ Ends result o ∧ s.Steady k s'

end Attempt

namespace Call

open Attempt

variable {c : Call} {k : Cancellation} {s : Session}

theorem chargeIfAny_steady (c : Call) (usage : Option (Json × Json)) (calm : k.Calm s) :
    ∃ s', c.chargeIfAny usage s = (.ok (), s') ∧ s.Steady k s' := by
  refine ⟨_, chargeIfAny_apply c usage s, rfl, rfl, rfl, ?_⟩
  cases k <;> exact calm

theorem lands_fail (f : Failure) (kind : ErrorKind) (model : ∃ e, f = .model e ∧ e.kind = kind) :
    Lands k (Run.fail f) (.error kind) := by
  obtain ⟨e, rfl, same⟩ := model
  exact fun s calm => ⟨_, s, rfl, ⟨e, rfl, same⟩, calm.steady⟩

theorem lands_timedOut (c : Call) (limit : Binary64) :
    Lands k (Run.fail (c.timedOut limit)) (.error .timeout) :=
  lands_fail _ _ ⟨_, rfl, rfl⟩

def textOf (c : Call) (reply : ProviderReply) : Outcome String :=
  match c.provider with
  | .openai => .ok (reply.text.getD "")
  | .anthropic => joinBlocks 0 (reply.blocks.getD [("text", reply.text)])
  | .google => if reply.text.getD "" == "" then .error c.noText else .ok (reply.text.getD "")

def usageOf (c : Call) (reply : ProviderReply) : Option (Json × Json) :=
  match c.provider with
  | .anthropic => some (reply.usage.getD (.int 0, .int 0))
  | _ => reply.usage

theorem accept_apply (c : Call) (reply : ProviderReply) :
    c.accept reply = (do
      let text ← Run.of (c.textOf reply)
      c.chargeIfAny (c.usageOf reply)
      return text) := by
  unfold accept textOf usageOf
  cases c.provider with
  | openai => rfl
  | anthropic => rfl
  | google =>
    dsimp only
    split <;> rfl

theorem accept_outcome (c : Call) (reply : ProviderReply) (s : Session) :
    (c.accept reply s).1 = c.textOf reply := by
  rw [accept_apply, Run.bind_apply, Run.of_apply]
  cases c.textOf reply with
  | error f => rfl
  | ok text => simp only [Run.bind_apply, chargeIfAny_apply, Run.pure_apply]

theorem accept_google (google : c.provider = .google) (reply : ProviderReply) :
    c.accept reply =
      if reply.text.getD "" == "" then Run.fail c.noText
      else do
        c.chargeIfAny reply.usage
        return reply.text.getD "" := by
  unfold accept
  rw [google]

theorem lands_accept (google : c.provider = .google) (reply : ProviderReply) :
    Lands k (c.accept reply) (answered (.ok reply)) := by
  rw [accept_google google, answered]
  split
  next => exact lands_fail _ _ ⟨_, rfl, rfl⟩
  next =>
    intro s calm
    obtain ⟨s', charged, steady⟩ := chargeIfAny_steady c reply.usage calm
    exact ⟨_, s', by rw [Run.bind_apply, charged]; rfl, rfl, steady⟩

theorem lands_settled (google : c.provider = .google) (limit : Binary64)
    {answer : Outcome ProviderReply} (worded : ∀ f, answer = .error f → f.Worded) :
    Lands k (c.settled limit answer) (answered answer) := by
  cases answer with
  | ok reply => exact lands_accept google reply
  | error f =>
    have explained := Failure.asModelError_kind (worded f rfl) c.provider.name c.model
    cases f with
    | timeout message => exact lands_timedOut c limit
    | _ =>
      simp only [settled]
      rw [if_pos google]
      exact lands_fail _ _ explained

theorem lands_flight (google : c.provider = .google) {limit : Binary64}
    (time : timed limit = true) {entry : Entry ProviderReply}
    (worded : ∀ f, entry.answer = .error f → f.Worded) :
    (c.flight limit entry).seconds = (of limit entry).seconds ∧
      Lands k (c.flight limit entry).land (of limit entry).result := by
  unfold flight of
  simp only [time, Bool.not_true, Bool.false_eq_true, if_false]
  split
  next => exact ⟨rfl, lands_timedOut c limit⟩
  next => exact ⟨rfl, lands_settled google limit worded⟩

def sentAt (c : Call) (time : Rat) : SentRequest := ⟨time, c.provider.name, c.client, c.request⟩

theorem send_untimed (c : Call) {limit : Binary64} (time : timed limit = false) (s : Session) :
    c.send limit s = (⟨0, Run.fail (c.timedOut limit)⟩, s.settle) := by
  have untimed : (limit.below (.finite 0) || limit.isZero) = true := by
    simpa only [timed, Bool.not_eq_false'] using time
  simp [send, untimed]

def afterEntry (entry : Entry ProviderReply) (s : Session) : Session :=
  if !entry.interrupts then s
  else if 0 < entry.delay then s.interrupt
  else { s with interrupted := true }

-- An interruption tells nobody but a token, and no entry interrupts while a token is calm.
theorem afterEntry_steady (calm : k.Calm s) (n : Nat) :
    s.Steady k (afterEntry (s.providers.entry {} n) s) := by
  unfold afterEntry
  split
  next => exact calm.steady
  next interrupts =>
    have other : k ≠ .token := by
      rintro rfl
      simp [calm.2.2 n] at interrupts
    split
    next => exact Cancellation.interrupt_steady calm other
    next =>
      refine ⟨rfl, rfl, rfl, ?_⟩
      cases k with
      | token => exact absurd rfl other
      | _ => exact calm

theorem send_timed (c : Call) {limit : Binary64} (time : timed limit = true) (s : Session) :
    c.send limit s =
      (c.flight limit (s.settle.providers.entry {} s.settle.requests.length),
        afterEntry (s.settle.providers.entry {} s.settle.requests.length)
          { s.settle with requests := s.settle.requests ++ [c.sent s.settle] }) := by
  have timed : (limit.below (.finite 0) || limit.isZero) = false := by
    simpa only [timed, Bool.not_eq_true'] using time
  simp only [send, timed]
  rfl

def recorded (c : Call) (limit : Binary64) (time : Rat) : List SentRequest :=
  if timed limit then [c.sentAt time] else []

theorem send_calm (google : c.provider = .google) (limit : Binary64)
    (worded : ∀ n f, (s.providers.entry {} n).answer = .error f → f.Worded) (calm : k.Calm s) :
    ∃ flight s', c.send limit s = (flight, s') ∧
      flight.seconds = (of limit (s.providers.entry {} s.requests.length)).seconds ∧
      Lands k flight.land (of limit (s.providers.entry {} s.requests.length)).result ∧
      s'.clock = s.clock ∧ s'.providers = s.providers ∧
      s'.requests = s.requests ++ c.recorded limit s.clock ∧ k.Calm s' := by
  have settled := Cancellation.settle_steady calm
  cases time : timed limit with
  | true =>
    have recorded' : k.Calm { s.settle with requests := s.settle.requests ++ [c.sent s.settle] } := by
      cases k <;> exact settled.calm
    have used := afterEntry_steady recorded' s.settle.requests.length
    rw [send_timed c time, ← settled.providers, ← settled.requests]
    have answers : ∀ f, (s.settle.providers.entry {} s.settle.requests.length).answer = .error f →
        f.Worded := by
      rw [settled.providers]
      exact worded _
    obtain ⟨seconds, lands⟩ := lands_flight google time answers
    refine ⟨_, _, rfl, seconds, lands, used.clock.trans settled.clock, used.providers, ?_, used.calm⟩
    rw [used.requests]
    simp only [recorded, time, if_true, sent, sentAt, settled.clock]
  | false =>
    have expired (entry : Entry ProviderReply) : of limit entry = ⟨0, .error .timeout⟩ := by
      simp [of, time]
    rw [expired]
    refine ⟨_, s.settle, send_untimed c time s, rfl, lands_timedOut c limit, settled.clock,
      settled.providers, ?_, settled.calm⟩
    simp [recorded, time, settled.requests]

section Requests

theorem chargeIfAny_sendsNothing (c : Call) (usage : Option (Json × Json)) :
    (c.chargeIfAny usage).SendsNothing := by
  intro s
  rw [chargeIfAny_apply]

theorem accept_sendsNothing (c : Call) (reply : ProviderReply) : (c.accept reply).SendsNothing := by
  rw [accept_apply]
  refine (Run.of_sendsNothing (c.textOf reply)).bind fun text => ?_
  exact (chargeIfAny_sendsNothing c (c.usageOf reply)).bind fun _ _ => rfl

theorem settled_sendsNothing (c : Call) (limit : Binary64) (answer : Outcome ProviderReply) :
    (c.settled limit answer).SendsNothing := by
  unfold settled
  split
  next reply => exact accept_sendsNothing c reply
  next => exact fun s => rfl
  next => exact fun s => rfl

theorem flight_sendsNothing (c : Call) (limit : Binary64) (entry : Entry ProviderReply) :
    (c.flight limit entry).land.SendsNothing := by
  unfold flight
  split
  next => exact fun s => rfl
  next => exact settled_sendsNothing c limit entry.answer

theorem afterEntry_requests (entry : Entry ProviderReply) (s : Session) :
    (afterEntry entry s).requests = s.requests := by
  obtain ⟨shown, time, same⟩ := Cancellation.interrupt_eq s
  unfold afterEntry
  split
  next => rfl
  next =>
    split
    next => rw [same]
    next => rfl

theorem send_requests (c : Call) (limit : Binary64) (s : Session) :
    (c.send limit s).1.land.SendsNothing ∧
      (c.send limit s).2.requests = s.requests ++ c.recorded limit s.clock := by
  obtain ⟨shown, time, interrupted, settled⟩ := Cancellation.settle_eq s
  cases timed' : timed limit with
  | false =>
    rw [send_untimed c timed']
    refine ⟨fun s => rfl, ?_⟩
    simp [recorded, timed', settled]
  | true =>
    rw [send_timed c timed']
    refine ⟨flight_sendsNothing c limit _, ?_⟩
    rw [afterEntry_requests]
    simp only [recorded, timed', if_true, sent, sentAt, settled]

end Requests

end Call

end PromptStudio
