import PromptStudio.Proofs.Gateway.Outcomes
import PromptStudio.Proofs.Session.Runs

set_option autoImplicit false

/-!
# Two sessions side by side

In the first session nobody cancels, and in the second somebody may. The rest is the same, so a run
that does not ask whether it is cancelled does the same in both.
-/

namespace PromptStudio

/-- The session next to `s` in which a token may be set, at a time or by a person who interrupts. -/
inductive Session.Parallel (s : Session) : Session → Prop where
  | intro (script : Script ProviderReply) (time : Option Rat) (interrupted : Bool)
      (shown : List Shown)
      (delays : ∀ n, (script.entry {} n).delay = (s.providers.entry {} n).delay)
      (answers : ∀ n, (script.entry {} n).answer = (s.providers.entry {} n).answer)
      (forward : s.Forward) (calm : Cancellation.token.Calm s) :
      Parallel s { s with
        providers := script
        cancelledFrom := time
        interrupted := interrupted
        shown := shown }

namespace Session.Parallel

variable {s s' : Session}

theorem of_calm (forward : s.Forward) (calm : Cancellation.token.Calm s) (time : Option Rat) :
    s.Parallel { s with cancelledFrom := time } :=
  .intro s.providers time s.interrupted s.shown (fun _ => rfl) (fun _ => rfl) forward calm

theorem refl (forward : s.Forward) (calm : Cancellation.token.Calm s) : s.Parallel s :=
  .intro s.providers s.cancelledFrom s.interrupted s.shown (fun _ => rfl) (fun _ => rfl) forward
    calm

theorem calm (parallel : s.Parallel s') : Cancellation.token.Calm s := by
  cases parallel
  assumption

theorem clock (parallel : s.Parallel s') : s'.clock = s.clock := by cases parallel; rfl

theorem forward (parallel : s.Parallel s') : s'.Forward := by
  cases parallel with
  | intro script time interrupted shown delays answers forward calm =>
    intro n
    exact (forward n).trans_eq (delays n).symm

theorem left (parallel : s.Parallel s') : s.Parallel s := by
  cases parallel with
  | intro script time interrupted shown delays answers forward calm => exact refl forward calm

theorem advance (parallel : s.Parallel s') (time : Rat) :
    (s.advance time).Parallel (s'.advance time) := by
  cases parallel with
  | intro script until' interrupted shown delays answers forward calm =>
    exact .intro script until' interrupted shown delays answers forward calm

theorem settle (parallel : s.Parallel s') : s.settle.Parallel s'.settle := by
  cases parallel with
  | intro script time interrupted shown delays answers forward calm =>
    rw [settle_of_calm calm.2.1]
    obtain ⟨shown', time', interrupted', settled⟩ := Cancellation.settle_eq { s with
      providers := script
      cancelledFrom := time
      interrupted := interrupted
      shown := shown }
    rw [settled]
    exact .intro script time' interrupted' shown' delays answers forward calm

theorem check (parallel : s.Parallel s') (k : Cancellation) :
    (k = .token ∧ s'.isCancelled = true) ∨
      ∃ stop t t', k.check s = (stop, t) ∧ k.check s' = (stop, t') ∧ t.Parallel t' := by
  cases k with
  | never => exact .inr ⟨false, s, s', rfl, rfl, parallel⟩
  | token =>
    have free : s.isCancelled = false := by rw [Session.isCancelled, parallel.calm.1]
    cases stopped : s'.isCancelled with
    | true => exact .inl ⟨rfl, rfl⟩
    | false =>
      exact .inr ⟨false, s, s', by rw [Cancellation.check, free],
        by rw [Cancellation.check, stopped], parallel⟩
  | answers values =>
    cases parallel with
    | intro script time interrupted shown delays answers forward calm =>
      exact .inr ⟨_, _, _, rfl, rfl,
        .intro script time interrupted shown delays answers forward calm⟩

theorem wakeTime (parallel : s.Parallel s') (k : Cancellation) (due : Rat) :
    k.wakeTime due s = due ∧
      (k.wakeTime due s' = due ∨
        k = .token ∧ (s'.advance (k.wakeTime due s')).isCancelled = true) := by
  cases k with
  | never => exact ⟨rfl, .inl rfl⟩
  | answers values => exact ⟨rfl, .inl rfl⟩
  | token =>
    refine ⟨Cancellation.wakeTime_calm parallel.calm due, ?_⟩
    rcases Option.eq_none_or_eq_some s'.cancelledFrom with unset | ⟨time, set⟩
    · exact .inl (by simp only [Cancellation.wakeTime, unset])
    · by_cases early : time < due
      · right
        simp [Cancellation.wakeTime, set, early, Session.advance, Session.isCancelled]
      · exact .inl (by simp only [Cancellation.wakeTime, set, early, if_false])

end Session.Parallel

namespace Run

variable {α β : Type} {x : Run α} {s s' : Session}

def Agrees (x : Run α) (s s' : Session) : Prop :=
  (x s').1 = (x s).1 ∧ (x s).2.Parallel (x s').2

def Level (x : Run α) : Prop := ∀ s s', s.Parallel s' → x.Agrees s s'

/-- The run fails because it was cut, which cannot happen in a calm session. -/
structure CutShort (x : Run α) (cut : Session → Failure → Prop) (s : Session) (f : Failure)
    (s' : Session) : Prop where
  cut : cut s f
  uneasy : ¬s.Parallel s
  failed : x s = (.error f, s')
  cancelled : s'.isCancelled = true

def LevelUnless (x : Run α) (cut : Session → Failure → Prop) : Prop :=
  ∀ s s', s.Parallel s' → x.Agrees s s' ∨ ∃ f t, x.CutShort cut s' f t

theorem of_level (o : Outcome α) : (of o).Level := fun _ _ parallel => ⟨rfl, parallel⟩

theorem pure_level (a : α) : (pure a : Run α).Level := of_level (.ok a)

theorem fail_level (f : Failure) : (fail f : Run α).Level := of_level (.error f)

-- From sessions in which the first run agrees, it is enough that what follows does.
theorem Agrees.bind {f : α → Run β} (first : x.Agrees s s')
    (later : ∀ a, (x s).1 = .ok a → (f a).Agrees (x s).2 (x s').2) : (x >>= f).Agrees s s' := by
  obtain ⟨same, parallel⟩ := first
  unfold Agrees at later ⊢
  rw [bind_apply, bind_apply]
  cases plain : x s with
  | mk o t =>
    cases other : x s' with
    | mk o' t' =>
      rw [plain, other] at same parallel later
      obtain rfl : o' = o := same
      cases o' with
      | error failure => exact ⟨rfl, parallel⟩
      | ok a => exact later a rfl

theorem Level.bind {f : α → Run β} (first : x.Level) (later : ∀ a, (f a).Level) :
    (x >>= f).Level := fun s s' parallel =>
  (first s s' parallel).bind fun a _ => later a _ _ (first s s' parallel).2

theorem Level.unless (level : x.Level) (cut : Session → Failure → Prop) : x.LevelUnless cut :=
  fun s s' parallel => .inl (level s s' parallel)

theorem LevelUnless.bind {cut : Session → Failure → Prop} {f : α → Run β}
    (first : x.LevelUnless cut) (later : ∀ a, (f a).Level) : (x >>= f).LevelUnless cut := by
  intro s s' parallel
  rcases first s s' parallel with agrees | ⟨failure, t, short⟩
  · exact .inl (agrees.bind fun a _ => later a _ _ agrees.2)
  · exact .inr ⟨failure, t, { short with failed := by rw [bind_apply, short.failed] }⟩

theorem of_bind_levelUnless {cut : Session → Failure → Prop} {o : Outcome α} {f : α → Run β}
    (later : ∀ a, o = .ok a → (f a).LevelUnless cut) : (of o >>= f).LevelUnless cut := by
  cases o with
  | error failure => exact (fail_level failure).unless cut
  | ok a => exact later a rfl

theorem LevelUnless.mono {cut wider : Session → Failure → Prop} (level : x.LevelUnless cut)
    (within : ∀ s f, cut s f → wider s f) : x.LevelUnless wider := by
  intro s s' parallel
  rcases level s s' parallel with agrees | ⟨failure, t, short⟩
  · exact .inl agrees
  · exact .inr ⟨failure, t, { short with cut := within s' failure short.cut }⟩

theorem LevelUnless.calm {cut : Session → Failure → Prop} (level : x.LevelUnless cut)
    (calm : s.Parallel s) : (x s).2.Parallel (x s).2 := by
  rcases level s s calm with agrees | ⟨failure, t, short⟩
  · exact agrees.2
  · exact absurd calm short.uneasy

theorem Agrees.mapFailure (agrees : x.Agrees s s') (g : Failure → Failure) :
    (x.mapFailure g).Agrees s s' := by
  obtain ⟨same, parallel⟩ := agrees
  unfold Agrees Run.mapFailure
  cases plain : x s with
  | mk o t =>
    cases other : x s' with
    | mk o' t' =>
      rw [plain, other] at same parallel
      obtain rfl : o' = o := same
      cases o' <;> exact ⟨rfl, parallel⟩

theorem Agrees.outcome (agrees : x.Agrees s s') : x.outcome.Agrees s s' :=
  ⟨congrArg Except.ok agrees.1, agrees.2⟩

end Run

end PromptStudio
