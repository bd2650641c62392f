import PromptStudio.Judge.Panel
import PromptStudio.Proofs.Gateway.Pair

set_option autoImplicit false

namespace PromptStudio

namespace Call

open Attempt

variable {c : Call} {settings : Settings} {k : Cancellation} {s s' : Session}

inductive Charged (c : Call) : Run String → Prop where
  | free (o : Outcome String) : Charged c (Run.of o)
  | charged (usage : Json × Json) (text : String) :
      Charged c (do c.charge usage; return text)

section Charges

theorem charge_level (c : Call) (usage : Json × Json) : (c.charge usage).Level := by
  intro s s' parallel
  unfold Run.Agrees
  rw [charge_apply, charge_apply]
  cases parallel with
  | intro script time interrupted shown delays answers forward calm =>
    exact ⟨rfl, .intro script time interrupted shown delays answers forward calm⟩

theorem Charged.level {land : Run String} (charged : c.Charged land) : land.Level := by
  cases charged with
  | free o => exact Run.of_level o
  | charged usage text => exact (charge_level c usage).bind fun _ => Run.pure_level text

theorem Charged.instant {land : Run String} (charged : c.Charged land) : land.Instant := by
  cases charged with
  | free o => exact fun s => ⟨s.bills, rfl⟩
  | charged usage text => exact fun s => ⟨_, by rw [Run.bind_apply, charge_apply]; rfl⟩

theorem chargeIfAny_charged (c : Call) (usage : Option (Json × Json)) (text : String) :
    c.Charged (do c.chargeIfAny usage; return text) := by
  cases usage with
  | none => exact .free (.ok text)
  | some usage => exact .charged usage text

theorem accept_charged (c : Call) (reply : ProviderReply) : c.Charged (c.accept reply) := by
  rw [accept_apply]
  cases c.textOf reply with
  | error f => exact .free (.error f)
  | ok text => exact chargeIfAny_charged c (c.usageOf reply) text

theorem flight_charged (c : Call) (limit : Binary64) (entry : Entry ProviderReply) :
    c.Charged (c.flight limit entry).land := by
  unfold flight
  split
  next => exact .free (.error (c.timedOut limit))
  next =>
    unfold settled
    split
    next => exact accept_charged c _
    next => exact .free (.error (c.timedOut limit))
    next => exact .free (.error _)

theorem send_charged (c : Call) (limit : Binary64) (s : Session) :
    c.Charged (c.send limit s).1.land := by
  cases time : timed limit with
  | false =>
    rw [send_untimed c time]
    exact .free (.error (c.timedOut limit))
  | true =>
    rw [send_timed c time]
    exact flight_charged c limit _

end Charges

section Sending

theorem flight_lasting (c : Call) {limit : Binary64} (time : timed limit = true)
    {entry : Entry ProviderReply} (forward : 0 ≤ entry.delay) :
    0 ≤ (c.flight limit entry).seconds := by
  unfold flight
  split
  next => exact zero_le_of_timed time
  next => exact forward

theorem send_lasting (c : Call) (limit : Binary64) (forward : s.Forward) :
    0 ≤ (c.send limit s).1.seconds := by
  cases time : timed limit with
  | false =>
    rw [send_untimed c time]
  | true =>
    rw [send_timed c time]
    exact flight_lasting c time (s.settle_notices.forward forward _)

theorem flight_congr (c : Call) (limit : Binary64) {entry other : Entry ProviderReply}
    (delay : other.delay = entry.delay) (answer : other.answer = entry.answer) :
    c.flight limit other = c.flight limit entry := by
  rw [flight, flight, delay, answer]

theorem afterEntry_parallel {entry other : Entry ProviderReply} (parallel : s.Parallel s')
    (calm : entry.interrupts = false) : (afterEntry entry s).Parallel (afterEntry other s') := by
  rw [afterEntry_calm calm]
  cases parallel with
  | intro script time interrupted shown delays answers forward still =>
    unfold afterEntry
    split
    next => exact .intro script time interrupted shown delays answers forward still
    next =>
      split
      next =>
        obtain ⟨shown', time', noticed⟩ := Cancellation.interrupt_eq { s with
          providers := script
          cancelledFrom := time
          interrupted := interrupted
          shown := shown }
        rw [noticed]
        exact .intro script time' interrupted shown' delays answers forward still
      next => exact .intro script time true shown delays answers forward still

theorem send_parallel (c : Call) (limit : Binary64) (parallel : s.Parallel s') :
    (c.send limit s').1 = (c.send limit s).1 ∧
      (c.send limit s).2.Parallel (c.send limit s').2 := by
  have settled := parallel.settle
  cases time : timed limit with
  | false =>
    rw [send_untimed c time, send_untimed c time]
    exact ⟨rfl, settled⟩
  | true =>
    rw [send_timed c time, send_timed c time]
    generalize s.settle = t at settled
    generalize s'.settle = t' at settled
    cases settled with
    | intro script until' interrupted shown delays answers forward calm =>
      refine ⟨flight_congr c limit (delays _) (answers _), ?_⟩
      exact afterEntry_parallel
        (.intro script until' interrupted shown delays answers forward calm) (calm.2.2 _)

theorem line_level (c : Call) (settings : Settings) (k : Cancellation) :
    (c.line settings k).Level where
  flight _ _ parallel := (send_parallel c settings.requestSeconds parallel).1
  parallel _ _ parallel := (send_parallel c settings.requestSeconds parallel).2
  notices := send_notices c settings.requestSeconds
  lasting _ forward := send_lasting c settings.requestSeconds forward
  lands s :=
    have charged := send_charged c settings.requestSeconds s
    ⟨charged.level, charged.instant⟩

theorem run_levelUnless (c : Call) (settings : Settings) (k : Cancellation) :
    (c.run settings k).LevelUnless (c.line settings k).Cut := by
  intro s s' parallel
  rcases Line.run_levelUnless (c.line_level settings k) s s' parallel with
    agrees | ⟨f, t, short⟩
  · exact .inl (agrees.mapFailure _)
  · obtain ⟨message, rfl⟩ := short.cut.cancelled
    refine .inr ⟨_, t, { short with failed := ?_ }⟩
    rw [run, Run.mapFailure, short.failed]
    rfl

end Sending

end Call

inductive CallCut (settings : Settings) (model user system : String) (credentials : Json)
    (options : CallOptions) (s : Session) (f : Failure) : Prop where
  | intro (c : Call)
      (prepared : Call.prepare settings model user system credentials options = .ok c)
      (cut : (c.line settings options.cancellation).Cut s f) :
      CallCut settings model user system credentials options s f

theorem callModel_levelUnless (settings : Settings) (model user system : String)
    (credentials : Json) (options : CallOptions) :
    (callModel settings model user system credentials options).LevelUnless
      (CallCut settings model user system credentials options) := by
  intro s s' parallel
  cases prepared : Call.prepare settings model user system credentials options with
  | error f =>
    have refused := Call.callModel_refused prepared
    refine .inl ⟨?_, ?_⟩
    · rw [refused, refused]
    · rw [refused, refused]
      exact parallel
  | ok c =>
    have called := Call.callModel_prepared prepared
    rcases c.run_levelUnless settings options.cancellation s s' parallel with
      agrees | ⟨f, t, short⟩
    · refine .inl ⟨?_, ?_⟩
      · rw [called, called]
        exact agrees.1
      · rw [called, called]
        exact agrees.2
    · exact .inr ⟨f, t,
        { short with cut := ⟨c, prepared, short.cut⟩, failed := (called s').trans short.failed }⟩

namespace Caller

inductive Cut (ask : Caller) (user system : String) (temperature : Option Json) (s : Session)
    (f : Failure) : Prop where
  | intro (settings : Settings) (model : String) (credentials : Json) (options : CallerOptions)
      (gateway : ask = modelCaller settings model credentials options)
      (cut : CallCut settings model user system credentials
        { jsonMode := options.jsonMode
          temperature :=
            if (temperature.getD .null).isNull then options.temperature
            else temperature.getD .null
          cancellation := options.cancellation } s f) :
      Cut ask user system temperature s f

/-- The caller takes no notice of who cancels, or is a model of the gateway. -/
inductive Steady (ask : Caller) : Prop where
  | level (level : ∀ user system temperature, (ask user system temperature).Level)
  | gateway (settings : Settings) (model : String) (credentials : Json) (options : CallerOptions)
      (same : ask = modelCaller settings model credentials options)

theorem Steady.levelUnless {ask : Caller} (steady : ask.Steady) (user system : String)
    (temperature : Option Json) :
    (ask user system temperature).LevelUnless (ask.Cut user system temperature) := by
  cases steady with
  | level level => exact (level user system temperature).unless _
  | gateway settings model credentials options same =>
    have called := (callModel_levelUnless settings model user system credentials
      { jsonMode := options.jsonMode
        temperature :=
          if (temperature.getD .null).isNull then options.temperature else temperature.getD .null
        cancellation := options.cancellation }).bind fun text => Run.pure_level
          (if options.jsonMode then decodedOrText text else .str text)
    intro s s' parallel
    rcases called s s' parallel with agrees | ⟨f, t, short⟩
    · rw [same]
      exact .inl agrees
    · have cut : ask.Cut user system temperature s' f :=
        ⟨settings, model, credentials, options, same, short.cut⟩
      refine .inr ⟨f, t, { short with cut := cut, failed := ?_ }⟩
      rw [same]
      exact short.failed

end Caller

namespace Hearing

variable {h : Hearing} {settings : Settings} {s s' : Session}

inductive Cut (h : Hearing) (settings : Settings) (s : Session) : Prop where
  | single (c : Call) (f : Failure) (alone : h.options.dual = false)
      (called : h.call settings soleJudge = .ok c)
      (cut : (c.line settings h.cancellation).Cut s f)
  | dual (strict style : Call) (both : h.options.dual = true)
      (called : h.call settings strictJudge = .ok strict)
      (called' : h.call settings styleJudge = .ok style)
      (cut : (strict.line settings h.cancellation).CutBoth (style.line settings h.cancellation) s)

theorem joined_error {strict style : Outcome Verdict}
    (failed : (∃ f, strict = .error f) ∨ ∃ f, style = .error f) :
    ∃ f, joined strict style = .error f := by
  rcases failed with ⟨f, rfl⟩ | ⟨f, rfl⟩
  · exact ⟨f, rfl⟩
  · cases strict with
    | error g => exact ⟨g, rfl⟩
    | ok v => exact ⟨f, rfl⟩

theorem verdict_error (c : Call) {o : Outcome String} (failed : ∃ f, o = .error f) :
    ∃ f, verdict c o = .error f := by
  obtain ⟨f, rfl⟩ := failed
  exact ⟨_, rfl⟩

theorem single_levelUnless (alone : h.options.dual = false) :
    (h.single settings).LevelUnless fun s _ => h.Cut settings s := by
  intro s s' parallel
  unfold single
  cases called : h.call settings soleJudge with
  | error f => exact .inl ⟨rfl, parallel⟩
  | ok c =>
    rcases Line.run_levelUnless (c.line_level settings h.cancellation) s s' parallel with
      agrees | ⟨f, t, short⟩
    · exact .inl (agrees.outcome.bind fun text _ => (Run.of_level (verdict c text)) _ _ agrees.2)
    · obtain ⟨g, refused⟩ := verdict_error c ⟨f, rfl⟩
      have ran : ((c.line settings h.cancellation).run.outcome >>= fun text =>
          Run.of (verdict c text)) s' = (.error g, t) := by
        rw [Run.bind_of_ok (Run.outcome_apply _ s'), short.failed, ← refused]
        rfl
      exact .inr ⟨g, t,
        { short with cut := .single c f alone called short.cut, failed := ran }⟩

theorem dual_levelUnless (both : h.options.dual = true) :
    (h.dual settings).LevelUnless fun s _ => h.Cut settings s := by
  intro s s' parallel
  unfold dual
  cases called : h.call settings strictJudge with
  | error f => exact .inl ⟨rfl, parallel⟩
  | ok strict =>
    cases called' : h.call settings styleJudge with
    | error f => exact .inl ⟨rfl, parallel⟩
    | ok style =>
      rcases Line.runBoth_agrees (strict.line_level settings h.cancellation)
        (style.line_level settings h.cancellation) parallel with
        agrees | ⟨cut, uneasy, o, o', t, ran, failed, cancelled⟩
      · exact .inl (agrees.bind fun texts _ => Run.of_level
          (joined (verdict strict texts.1) (verdict style texts.2)) _ _ agrees.2)
      · obtain ⟨g, refused⟩ := joined_error
          (failed.imp (verdict_error strict) (verdict_error style))
        have ran : ((strict.line settings h.cancellation).runBoth
            (style.line settings h.cancellation) >>= fun texts =>
              Run.of (joined (verdict strict texts.1) (verdict style texts.2))) s' =
            (.error g, t) := by
          rw [Run.bind_of_ok ran, ← refused]
          rfl
        exact .inr ⟨g, t, .dual strict style both called called' cut, uneasy, ran, cancelled⟩

theorem evaluate_levelUnless (h : Hearing) (settings : Settings) :
    (h.evaluate settings).LevelUnless fun s _ => h.Cut settings s := by
  unfold evaluate
  have told (v : Verdict) : (pure ⟨v, h.options⟩ : Run Evaluation).Level := Run.pure_level _
  cases both : h.options.dual with
  | true => exact (dual_levelUnless both).bind told
  | false => exact (single_levelUnless both).bind told

end Hearing

end PromptStudio
