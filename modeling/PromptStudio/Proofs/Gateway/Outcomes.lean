import PromptStudio.Proofs.Gateway.Phases
import PromptStudio.Proofs.Session.Waits

set_option autoImplicit false

namespace PromptStudio

namespace Attempt

def endTime (limit : Binary64) (s : Session) (i : Nat) : Rat :=
  startTime limit s i + (nth limit s i).seconds

def rests (limit : Binary64) (s : Session) : Rests where
  opens := endTime limit s
  closes i := startTime limit s (i + 1)

end Attempt

def Session.Forward (s : Session) : Prop := ∀ n, 0 ≤ (s.providers.entry {} n).delay

def Session.Uninterrupted (s : Session) : Prop :=
  s.interrupted = false ∧ ∀ n, (s.providers.entry {} n).interrupts = false

namespace Call

open Attempt

section Outcomes

def taken (c : Call) (limit : Binary64) (answer : Outcome ProviderReply) : Outcome String :=
  match answer with
  | .ok reply => if reply.text.getD "" == "" then .error c.noText else .ok (reply.text.getD "")
  | .error (.timeout _) => .error (c.timedOut limit)
  | .error f => .error (f.asModelError c.provider.name c.model)

def landing (c : Call) (limit : Binary64) (entry : Entry ProviderReply) : Outcome String :=
  if !timed limit || limit.below (.ofRat entry.delay) then .error (c.timedOut limit)
  else c.taken limit entry.answer

/-- How the attempt number `i` ends, counted from 0. -/
def outcome (c : Call) (limit : Binary64) (start : Session) (i : Nat) : Outcome String :=
  c.landing limit (start.providers.entry {} (start.requests.length + i))

/-- No attempt follows the attempt number `n` when it ends in this way. -/
def Settles (o : Outcome String) (n : Nat) : Prop :=
  match o with
  | .ok _ => True
  | .error (.model e) => Decisive (.error e.kind) n
  | .error _ => True

end Outcomes

variable {c : Call} {limit : Binary64} {s start : Session}

section Durations

theorem zero_le_of_timed (time : timed limit = true) : 0 ≤ limit.toRat?.getD 0 := by
  cases limit with
  | nan => exact le_refl _
  | infinity negative => exact le_refl _
  | negativeZero => exact le_refl _
  | finite q =>
    have above : ¬q < 0 := by
      intro below
      simp [timed, Binary64.below, Binary64.toRat?, below] at time
    exact not_lt.mp above

theorem seconds_nonneg (forward : start.Forward) (i : Nat) : 0 ≤ (nth limit start i).seconds := by
  unfold nth of
  cases time : timed limit with
  | false => exact le_refl _
  | true =>
    simp only [Bool.not_true, Bool.false_eq_true, if_false]
    split
    next => exact zero_le_of_timed time
    next => exact forward _

theorem startTime_le_endTime (forward : start.Forward) (i : Nat) :
    startTime limit start i ≤ endTime limit start i := by
  have lasting : 0 ≤ (nth limit start i).seconds := seconds_nonneg forward i
  unfold endTime
  grind

theorem restAfter_nonneg (n : Nat) : 0 ≤ restAfter n := Rat.natCast_nonneg

theorem endTime_le_startTime (i : Nat) : endTime limit start i ≤ startTime limit start (i + 1) := by
  have rest := restAfter_nonneg (i + 1)
  have next : startTime limit start (i + 1) = endTime limit start i + restAfter (i + 1) := rfl
  grind

theorem startTime_mono (forward : start.Forward) {i j : Nat} (before : i ≤ j) :
    startTime limit start i ≤ startTime limit start j := by
  induction j, before using Nat.le_induction with
  | base => exact le_refl _
  | succ j _ ih =>
    exact (ih.trans (startTime_le_endTime forward j)).trans (endTime_le_startTime j)

theorem rests_ordered (forward : start.Forward) : (rests limit start).Ordered where
  lasting := endTime_le_startTime
  apart _ i before := (startTime_mono forward before).trans (startTime_le_endTime forward i)

end Durations

section Sending

def LandsAs (land : Run String) (o : Outcome String) : Prop :=
  ∀ s, ∃ bills, land s = (o, { s with bills := bills })

theorem fail_landsAs (f : Failure) : LandsAs (Run.fail f) (.error f) := fun s => ⟨s.bills, rfl⟩

theorem accept_landsAs (google : c.provider = .google) (reply : ProviderReply) :
    LandsAs (c.accept reply)
      (if reply.text.getD "" == "" then .error c.noText else .ok (reply.text.getD "")) := by
  rw [accept_google google]
  split
  next => exact fail_landsAs c.noText
  next =>
    intro s
    exact ⟨_, by rw [Run.bind_apply, chargeIfAny_apply]; rfl⟩

theorem settled_landsAs (google : c.provider = .google) (limit : Binary64)
    (answer : Outcome ProviderReply) :
    LandsAs (c.settled limit answer) (c.taken limit answer) := by
  cases answer with
  | ok reply => exact accept_landsAs google reply
  | error f =>
    cases f with
    | timeout message => exact fail_landsAs _
    | _ =>
      simp only [settled]
      rw [if_pos google]
      exact fail_landsAs _

theorem flight_landsAs (google : c.provider = .google) (time : timed limit = true)
    (entry : Entry ProviderReply) :
    (c.flight limit entry).seconds = (of limit entry).seconds ∧
      LandsAs (c.flight limit entry).land (c.landing limit entry) := by
  unfold flight of landing
  simp only [time, Bool.not_true, Bool.false_eq_true, Bool.false_or, if_false]
  split
  next => exact ⟨rfl, fail_landsAs _⟩
  next => exact ⟨rfl, settled_landsAs google limit entry.answer⟩

theorem afterEntry_notices (entry : Entry ProviderReply) (s : Session) :
    s.Notices (afterEntry entry s) := by
  unfold afterEntry
  split
  next => exact ⟨rfl, rfl, rfl, .inl rfl⟩
  next =>
    split
    next => exact s.interrupt_notices
    next => exact ⟨rfl, rfl, rfl, .inl rfl⟩

theorem afterEntry_calm {entry : Entry ProviderReply} (calm : entry.interrupts = false)
    (s : Session) : afterEntry entry s = s := by
  simp [afterEntry, calm]

def Carries (c : Call) (limit : Binary64) (start : Session) (i : Nat) (flight : Flight String) :
    Prop :=
  flight.seconds = (nth limit start i).seconds ∧ LandsAs flight.land (c.outcome limit start i)

-- Without time the request is not sent, and then the answers do not matter.
theorem send_carries (google : c.provider = .google) {i : Nat}
    (providers : s.providers = start.providers)
    (requests : s.requests = start.requests ++ c.sentRequests limit start i) :
    c.Carries limit start i (c.send limit s).1 := by
  obtain ⟨shown, time, interrupted, settled⟩ := Cancellation.settle_eq s
  cases timed' : timed limit with
  | false =>
    rw [send_untimed c timed']
    have late : c.outcome limit start i = .error (c.timedOut limit) := by
      simp [outcome, landing, timed']
    refine ⟨by simp [nth, of, timed'], ?_⟩
    rw [late]
    exact fail_landsAs _
  | true =>
    have number : s.settle.requests.length = start.requests.length + i := by
      rw [settled, ← length_sentRequests c timed' start i, ← List.length_append, ← requests]
    have script : s.settle.providers = start.providers := by rw [settled, ← providers]
    rw [send_timed c timed', number, script]
    exact flight_landsAs google timed' _

theorem send_notices (c : Call) (limit : Binary64) (s : Session) :
    s.Notices (c.send limit s).2 := by
  cases timed' : timed limit with
  | false =>
    rw [send_untimed c timed']
    exact s.settle_notices
  | true =>
    rw [send_timed c timed']
    have recorded : s.settle.Notices
        { s.settle with requests := s.settle.requests ++ [c.sent s.settle] } :=
      ⟨rfl, rfl, rfl, .inl rfl⟩
    exact (s.settle_notices.trans recorded).trans (afterEntry_notices _ _)

theorem send_calm_tokens (c : Call) (limit : Binary64) (calm : s.Uninterrupted) :
    (c.send limit s).2.interrupted = false ∧
      (c.send limit s).2.cancelledFrom = s.cancelledFrom := by
  have settled : s.settle = s := Session.settle_of_calm calm.1
  cases timed' : timed limit with
  | false =>
    rw [send_untimed c timed', settled]
    exact ⟨calm.1, rfl⟩
  | true =>
    rw [send_timed c timed', settled, afterEntry_calm (calm.2 _)]
    exact ⟨calm.1, rfl⟩

end Sending

end Call

end PromptStudio
