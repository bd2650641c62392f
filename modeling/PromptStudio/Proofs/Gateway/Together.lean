import PromptStudio.Proofs.Gateway.Billing
import PromptStudio.Proofs.Session.Course

set_option autoImplicit false

/-!
# Two calls at a time

Two calls that share a session take turns, in an order that depends on how long everything takes.
Both are always carried through, whatever comes of the other one, and every request in the session is
an attempt of one of them.
-/

namespace PromptStudio

structure Session.Quiet (s t : Session) : Prop where
  providers : t.providers = s.providers
  requests : t.requests = s.requests

namespace Session

variable {s t after : Session}

theorem Quiet.trans (first : s.Quiet t) (second : t.Quiet after) : s.Quiet after :=
  ⟨second.providers.trans first.providers, second.requests.trans first.requests⟩

theorem settle_quiet (s : Session) : s.Quiet s.settle := by
  obtain ⟨shown, time, interrupted, same⟩ := Cancellation.settle_eq s
  rw [same]
  exact ⟨rfl, rfl⟩

theorem check_quiet (k : Cancellation) (s : Session) : s.Quiet (k.check s).2 := by
  obtain ⟨n, same⟩ := Exchange.check_questions k s
  rw [same]
  exact ⟨rfl, rfl⟩

end Session

namespace Exchange

variable {x : Exchange String} {s : Session}

theorem lieDown_quiet (x : Exchange String) (s : Session) : s.Quiet (x.lieDown s).2 := by
  have asked := Session.check_quiet x.line.cancellation s
  unfold Exchange.lieDown
  split
  next checked =>
    rw [checked] at asked
    exact asked
  next checked =>
    rw [checked] at asked
    exact asked.trans (Session.settle_quiet _)

theorem getUp_quiet (x : Exchange String) (s : Session) : s.Quiet (x.getUp s).2 := by
  have asked := Session.check_quiet x.line.cancellation s
  unfold Exchange.getUp
  split
  all_goals
    next checked =>
      rw [checked] at asked
      exact asked

theorem arrive_quiet (x : Exchange String) {land : Run String} (instant : land.Instant)
    (s : Session) : s.Quiet (x.arrive land s).2 := by
  obtain ⟨bills, left⟩ := instant s
  have landed : s.Quiet (land s).2 := by
    rw [left]
    exact ⟨rfl, rfl⟩
  unfold Exchange.arrive
  split
  next done =>
    rw [done] at landed
    exact landed
  next done =>
    rw [done] at landed
    split
    next => exact landed.trans (lieDown_quiet x _)
    next => exact landed

theorem step_quiet {l : Line String} (along : x.Along l) (waiting : x.phase ≠ .ready)
    (s : Session) : s.Quiet (x.step s).2 := by
  have woken : s.Quiet (s.advance (x.wake s)) := ⟨rfl, rfl⟩
  unfold Exchange.step
  cases phase : x.phase with
  | ready => exact absurd phase waiting
  | flying land => exact woken.trans (arrive_quiet x (along.flying land phase).instant _)
  | resting => exact woken.trans (getUp_quiet x _)
  | ended o => exact woken

end Exchange

def SentRequest.untimed (r : SentRequest) : SentRequest := { r with time := 0 }

namespace Call

open Attempt

variable {c : Call} {settings : Settings} {k : Cancellation} {limit : Binary64} {s t : Session}
  {x : Exchange String} {tries : List (Outcome String)}

def comesTo (c : Call) (limit : Binary64) (entry : Entry ProviderReply) : Outcome String :=
  if !timed limit || limit.below (.ofRat entry.delay) then .error (c.timedOut limit)
  else
    match entry.answer with
    | .ok reply => c.textOf reply
    | .error (.timeout _) => .error (c.timedOut limit)
    | .error f => .error (if c.provider = .google then f.asModelError c.provider.name c.model else f)

def reply (c : Call) (settings : Settings) (s : Session) (i : Nat) : Outcome String :=
  c.comesTo settings.requestSeconds (s.providers.entry {} (s.requests.length + i))

theorem settled_outcome (c : Call) (limit : Binary64) (answer : Outcome ProviderReply)
    (t : Session) :
    (c.settled limit answer t).1 =
      match answer with
      | .ok reply => c.textOf reply
      | .error (.timeout _) => .error (c.timedOut limit)
      | .error f =>
        .error (if c.provider = .google then f.asModelError c.provider.name c.model else f) := by
  cases answer with
  | ok reply => exact accept_outcome c reply t
  | error f => cases f <;> rfl

-- The outcome is settled when the request is sent.
theorem send_outcome (c : Call) (limit : Binary64) (s t : Session) :
    ((c.send limit s).1.land t).1 =
      c.comesTo limit (s.providers.entry {} s.requests.length) := by
  obtain ⟨shown, cancelled, interrupted, same⟩ := Cancellation.settle_eq s
  cases time : timed limit with
  | false =>
    rw [send_untimed c time]
    simp only [comesTo, time, Bool.not_false, Bool.true_or, if_true]
    rfl
  | true =>
    rw [send_timed c time]
    simp only [comesTo, time, Bool.not_true, Bool.false_or, same]
    unfold flight
    split
    next => rfl
    next => exact settled_outcome c limit _ t

theorem comesTo_untimed (c : Call) (time : timed limit = false) (entry : Entry ProviderReply) :
    c.comesTo limit entry = .error (c.timedOut limit) := by
  simp [comesTo, time]

theorem send_untimedRequests (c : Call) (limit : Binary64) (s : Session) :
    (c.send limit s).2.requests.map SentRequest.untimed =
      s.requests.map SentRequest.untimed ++ c.recorded limit 0 := by
  rw [(send_requests c limit s).2, List.map_append]
  unfold recorded
  split <;> rfl

-- The step lemma for one of the calls: another attempt, or nothing that the other call would see.
theorem step_course (course : x.Course (c.line settings k) tries)
    (along : x.Along (c.line settings k)) (going : x.isOver = false) (s : Session) :
    (x.phase = .ready ∧
        (x.step s).1.Course (c.line settings k) (tries ++ [c.reply settings s 0]) ∧
        (x.step s).2.providers = s.providers ∧
        (x.step s).2.requests.map SentRequest.untimed =
          s.requests.map SentRequest.untimed ++ c.recorded settings.requestSeconds 0) ∨
      (x.phase ≠ .ready ∧ (x.step s).1.Course (c.line settings k) tries ∧ s.Quiet (x.step s).2) := by
  rcases course.step going s with ⟨ready, departs⟩ | ⟨waiting, course⟩
  · rw [departs]
    have outcome (t : Session) :
        (((c.line settings k).send (s.advance (x.wake s))).1.land t).1 = c.reply settings s 0 :=
      send_outcome c settings.requestSeconds (s.advance (x.wake s)) t
    refine .inl ⟨ready, course.depart ready outcome, ?_⟩
    simp only [Exchange.depart, course.line]
    exact ⟨(send_uncharged c settings.requestSeconds _).providers,
      send_untimedRequests c settings.requestSeconds (s.advance (x.wake s))⟩
  · exact .inr ⟨waiting, course, Exchange.step_quiet along waiting s⟩

end Call

inductive Side where
  | first
  | second
  deriving DecidableEq

def Side.pick {α : Type} : Side → α → α → α
  | .first, a, _ => a
  | .second, _, b => b

/-- What the attempts of one side came to, when the sides took these turns. -/
def attemptsOf {α : Type} (answer : Side → Nat → α) (side : Side) : Nat → List Side → List α
  | _, [] => []
  | n, turn :: turns =>
    (if turn = side then [answer turn n] else []) ++ attemptsOf answer side (n + 1) turns

section Turns

variable {α : Type} {answer : Side → Nat → α} {side : Side}

theorem attemptsOf_append (n : Nat) (turns : List Side) (turn : Side) :
    attemptsOf answer side n (turns ++ [turn]) = attemptsOf answer side n turns ++
      if turn = side then [answer turn (n + turns.length)] else [] := by
  induction turns generalizing n with
  | nil => simp [attemptsOf]
  | cons earlier turns ih =>
    have number : n + 1 + turns.length = n + (earlier :: turns).length := by
      rw [List.length_cons]
      omega
    rw [List.cons_append, attemptsOf, ih, attemptsOf, List.append_assoc, number]

theorem length_attemptsOf (n : Nat) (turns : List Side) :
    (attemptsOf answer side n turns).length = turns.count side := by
  induction turns generalizing n with
  | nil => rfl
  | cons turn turns ih =>
    rw [attemptsOf, List.length_append, ih, List.count_cons]
    by_cases same : turn = side <;> simp [same, Nat.add_comm]

end Turns

section Pairs

variable {c d : Call} {settings : Settings} {k : Cancellation} {s s' : Session}
  {turns : List Side} {x y : Exchange String}

def repliesTo (c d : Call) (settings : Settings) (s : Session) (side : Side) (turns : List Side) :
    List (Outcome String) :=
  attemptsOf (fun turn i => (turn.pick c d).reply settings s i) side 0 turns

def requestsOf (c d : Call) (settings : Settings) (turns : List Side) : List SentRequest :=
  turns.flatMap fun turn => (turn.pick c d).recorded settings.requestSeconds 0

theorem requestsOf_timed (time : Attempt.timed settings.requestSeconds = true) :
    requestsOf c d settings turns = turns.map fun turn => (turn.pick c d).sentAt 0 := by
  simp only [requestsOf, Call.recorded, time, if_true]
  exact List.map_eq_flatMap.symm

/-- Two calls from the session `s`, whose attempts have taken these turns, and the session now. -/
structure Together (c d : Call) (settings : Settings) (k : Cancellation) (s : Session)
    (turns : List Side) (x y : Exchange String) (s' : Session) : Prop where
  first : x.Course (c.line settings k) (repliesTo c d settings s .first turns)
  second : y.Course (d.line settings k) (repliesTo c d settings s .second turns)
  along : x.Along (c.line settings k) ∧ y.Along (d.line settings k)
  providers : s'.providers = s.providers
  requests : s'.requests.map SentRequest.untimed =
    s.requests.map SentRequest.untimed ++ requestsOf c d settings turns

namespace Together

theorem start (c d : Call) (settings : Settings) (k : Cancellation) (s : Session) :
    Together c d settings k s [] ((c.line settings k).start s) ((d.line settings k).start s) s where
  first := .start _ s
  second := .start _ s
  along := ⟨.start _ _ s, .start _ _ s⟩
  providers := rfl
  requests := by simp [requestsOf]

-- Where there is time, the turns number the requests; where there is none, no answer matters.
theorem reply (together : Together c d settings k s turns x y s') (e : Call) :
    e.reply settings s' 0 = e.reply settings s turns.length := by
  unfold Call.reply
  cases time : Attempt.timed settings.requestSeconds with
  | false => rw [Call.comesTo_untimed e time, Call.comesTo_untimed e time]
  | true =>
    have numbered : (requestsOf c d settings turns).length = turns.length := by
      rw [requestsOf_timed time, List.length_map]
    have lengths := congrArg List.length together.requests
    rw [List.length_map, List.length_append, List.length_map, numbered] at lengths
    rw [together.providers, lengths, Nat.add_zero]

theorem quiet {t : Session} (together : Together c d settings k s turns x y s')
    (quiet : s'.Quiet t) : Together c d settings k s turns x y t :=
  { together with
    providers := quiet.providers.trans together.providers
    requests := by rw [quiet.requests, together.requests] }

theorem repliesTo_append (turn side : Side) :
    repliesTo c d settings s side (turns ++ [turn]) = repliesTo c d settings s side turns ++
      if turn = side then [(turn.pick c d).reply settings s turns.length] else [] := by
  rw [repliesTo, attemptsOf_append, Nat.zero_add, ← repliesTo]

-- The attempt that goes out now is the last one of its side, and none of the other side.
theorem repliesTo_own (together : Together c d settings k s turns x y s') (side : Side) :
    repliesTo c d settings s side (turns ++ [side]) =
      repliesTo c d settings s side turns ++ [(side.pick c d).reply settings s' 0] := by
  rw [repliesTo_append, if_pos rfl, together.reply]

theorem repliesTo_other {turn side : Side} (other : turn ≠ side) :
    repliesTo c d settings s side (turns ++ [turn]) = repliesTo c d settings s side turns := by
  rw [repliesTo_append, if_neg other, List.append_nil]

theorem requests_own {t : Session} (together : Together c d settings k s turns x y s')
    (side : Side)
    (sent : t.requests.map SentRequest.untimed = s'.requests.map SentRequest.untimed ++
      (side.pick c d).recorded settings.requestSeconds 0) :
    t.requests.map SentRequest.untimed =
      s.requests.map SentRequest.untimed ++ requestsOf c d settings (turns ++ [side]) := by
  have more : requestsOf c d settings (turns ++ [side]) = requestsOf c d settings turns ++
      (side.pick c d).recorded settings.requestSeconds 0 := by
    simp [requestsOf]
  rw [sent, together.requests, more, List.append_assoc]

theorem step_first (together : Together c d settings k s turns x y s')
    (going : x.isOver = false) :
    ∃ later, Together c d settings k s (turns ++ later) (x.step s').1 y (x.step s').2 ∧
      (x.phase = .ready → later = [.first]) := by
  have along := together.along.1.step (c.line_level settings k).lands s'
  rcases Call.step_course together.first together.along.1 going s' with
    ⟨ready, course, providers, requests⟩ | ⟨waiting, course, still⟩
  · refine ⟨[.first], ?_, fun _ => rfl⟩
    constructor
    case first =>
      rw [together.repliesTo_own]
      exact course
    case second =>
      rw [repliesTo_other (by decide)]
      exact together.second
    case along => exact ⟨along, together.along.2⟩
    case providers => exact providers.trans together.providers
    case requests => exact together.requests_own .first requests
  · refine ⟨[], ?_, fun ready => absurd ready waiting⟩
    rw [List.append_nil]
    exact { together.quiet still with first := course, along := ⟨along, together.along.2⟩ }

theorem step_second (together : Together c d settings k s turns x y s')
    (going : y.isOver = false) :
    ∃ later, Together c d settings k s (turns ++ later) x (y.step s').1 (y.step s').2 := by
  have along := together.along.2.step (d.line_level settings k).lands s'
  rcases Call.step_course together.second together.along.2 going s' with
    ⟨ready, course, providers, requests⟩ | ⟨waiting, course, still⟩
  · refine ⟨[.second], ?_⟩
    constructor
    case first =>
      rw [repliesTo_other (by decide)]
      exact together.first
    case second =>
      rw [together.repliesTo_own]
      exact course
    case along => exact ⟨together.along.1, along⟩
    case providers => exact providers.trans together.providers
    case requests => exact together.requests_own .second requests
  · refine ⟨[], ?_⟩
    rw [List.append_nil]
    exact { together.quiet still with second := course, along := ⟨together.along.1, along⟩ }

-- Induction on the steps that both calls together may still take: whosever turn it is, the step
-- takes one of them.
theorem jointSteps (fuel : Nat) (together : Together c d settings k s turns x y s')
    (enough : x.left + y.left ≤ fuel) :
    ∃ later, Together c d settings k s (turns ++ later) (Exchange.jointSteps fuel x y s').1
        (Exchange.jointSteps fuel x y s').2.1 (Exchange.jointSteps fuel x y s').2.2 ∧
      (Exchange.jointSteps fuel x y s').1.isOver = true ∧
      (Exchange.jointSteps fuel x y s').2.1.isOver = true := by
  induction fuel generalizing turns x y s' with
  | zero =>
    have done := together.first.isOver (by omega)
    have done' := together.second.isOver (by omega)
    exact ⟨[], by rw [List.append_nil]; exact together, done, done'⟩
  | succ fuel ih =>
    cases going : x.isOver && y.isOver with
    | true =>
      rw [Exchange.jointSteps_over going]
      rw [Bool.and_eq_true] at going
      exact ⟨[], by rw [List.append_nil]; exact together, going⟩
    | false =>
      rw [Exchange.jointSteps_succ going]
      cases turn : x.goesFirst y s' with
      | true =>
        have live : x.isOver = false := by
          rcases Exchange.goesFirst_eq_true.mp turn with done | ⟨live, -⟩
          · simpa [done] using going
          · exact live
        obtain ⟨between, stepped, -⟩ := together.step_first live
        have less := together.first.left_step live s'
        obtain ⟨later, finished, done⟩ := ih stepped (by omega)
        rw [if_pos rfl]
        exact ⟨between ++ later, by rw [← List.append_assoc]; exact finished, done⟩
      | false =>
        have live : y.isOver = false := (Exchange.goesFirst_eq_false.mp turn).1
        obtain ⟨between, stepped⟩ := together.step_second live
        have less := together.second.left_step live s'
        obtain ⟨later, finished, done⟩ := ih stepped (by omega)
        rw [if_neg (by decide)]
        exact ⟨between ++ later, by rw [← List.append_assoc]; exact finished, done⟩

end Together

/-- Two calls from the session `s` that were carried through, and what they left. The sides took
these turns, the first one first. -/
structure BothMade (c d : Call) (settings : Settings) (k : Cancellation) (s : Session)
    (turns : List Side) (o o' : Outcome String) (s' : Session) : Prop where
  begins : turns.head? = some .first
  first : (c.line settings k).CameTo (repliesTo c d settings s .first turns) o
  second : (d.line settings k).CameTo (repliesTo c d settings s .second turns) o'
  requests : s'.requests.map SentRequest.untimed =
    s.requests.map SentRequest.untimed ++ requestsOf c d settings turns

theorem runBoth_made (c d : Call) (settings : Settings) (k : Cancellation) (s : Session) :
    ∃ turns o o' s', (c.line settings k).runBoth (d.line settings k) s = (.ok (o, o'), s') ∧
      BothMade c d settings k s turns o o' s' := by
  have start := Together.start c d settings k s
  have turn : ((c.line settings k).start s).goesFirst ((d.line settings k).start s) s = true := by
    simp [Exchange.goesFirst, Exchange.isOver, Exchange.wake, Line.start]
  have fuel : 2 * Exchange.stepLimit = 35 + 1 := rfl
  obtain ⟨begun, stepped, begins⟩ := start.step_first rfl
  obtain rfl := begins rfl
  have less := start.first.left_step rfl s
  obtain ⟨later, finished, done, done'⟩ := stepped.jointSteps 35 (by
    rw [Exchange.left_start] at less ⊢
    simp only [Exchange.stepLimit] at less ⊢
    omega)
  have ended : Exchange.jointSteps (2 * Exchange.stepLimit) ((c.line settings k).start s)
      ((d.line settings k).start s) s = Exchange.jointSteps 35
        (((c.line settings k).start s).step s).1 ((d.line settings k).start s)
        (((c.line settings k).start s).step s).2 := by
    rw [fuel, Exchange.jointSteps_succ rfl, if_pos turn]
  refine ⟨_, _, _, _, Line.runBoth_apply ended, ?_, finished.first.result done,
    finished.second.result done', ?_⟩
  · rfl
  · rw [(Session.settle_quiet _).requests]
    exact finished.requests

section Turns

variable {o o' : Outcome String}

theorem length_repliesTo (c d : Call) (settings : Settings) (s : Session) (side : Side)
    (turns : List Side) : (repliesTo c d settings s side turns).length = turns.count side :=
  length_attemptsOf 0 turns

theorem BothMade.count (made : BothMade c d settings k s turns o o' s') (side : Side) :
    1 ≤ turns.count side ∧ turns.count side ≤ 6 := by
  rw [← length_repliesTo c d settings s]
  cases side with
  | first => exact ⟨made.first.length_pos, made.first.length_le⟩
  | second => exact ⟨made.second.length_pos, made.second.length_le⟩

theorem attemptsOf_eq_nil {answer : Side → Nat → Outcome String} {side : Side} {n : Nat}
    (unasked : attemptsOf answer side n turns = []) : side ∉ turns := by
  have counted : (attemptsOf answer side n turns).length = turns.count side :=
    length_attemptsOf n turns
  rw [unasked] at counted
  exact List.count_eq_zero.mp counted.symm

theorem BothMade.once (made : BothMade c d settings k s turns o o' s')
    (final : ¬(c.line settings k).Again 1 (c.reply settings s 0))
    (final' : ¬(d.line settings k).Again 1 (d.reply settings s 1)) :
    turns = [.first, .second] ∧ o = c.reply settings s 0 ∧ o' = d.reply settings s 1 := by
  obtain ⟨rest, rfl⟩ : ∃ rest, turns = .first :: rest := by
    cases turns with
    | nil => cases made.begins
    | cons turn rest =>
      obtain rfl := Option.some.inj made.begins
      exact ⟨rest, rfl⟩
  obtain ⟨others, outcome⟩ := made.first.of_first final
  have alone : Side.first ∉ rest := attemptsOf_eq_nil others
  have second := made.second
  cases rest with
  | nil => exact absurd second.length_pos (by rw [length_repliesTo]; decide)
  | cons turn rest =>
    cases turn with
    | first => exact absurd List.mem_cons_self alone
    | second =>
      obtain ⟨others', outcome'⟩ := second.of_first final'
      have alone' : Side.second ∉ rest := attemptsOf_eq_nil others'
      have done : rest = [] := by
        refine List.eq_nil_iff_forall_not_mem.mpr fun turn listed => ?_
        cases turn with
        | first => exact alone (.tail _ listed)
        | second => exact alone' listed
      rw [done]
      exact ⟨rfl, outcome, outcome'⟩

theorem Call.not_again (c : Call) (other : c.provider ≠ .google) (settings : Settings)
    (k : Cancellation) (n : Nat) (o : Outcome String) : ¬(c.line settings k).Again n o := by
  rintro ⟨f, -, retries, -⟩
  exact other (of_decide_eq_true retries)

end Turns

end Pairs

end PromptStudio
