import PromptStudio.Proofs.Gateway.Pair
import PromptStudio.Proofs.Gateway.Phases
import PromptStudio.Proofs.Gateway.Undisturbed
import PromptStudio.Proofs.Session.Metering
import PromptStudio.Proofs.Session.Success

set_option autoImplicit false

namespace PromptStudio

namespace Session

structure Uncharged (s t : Session) : Prop where
  bills : t.bills = s.bills
  metered : t.metered = s.metered
  providers : t.providers = s.providers
  requests : s.requests <+: t.requests

variable {s t after : Session}

theorem Uncharged.refl (s : Session) : s.Uncharged s := ⟨rfl, rfl, rfl, List.prefix_refl _⟩

theorem Uncharged.trans (first : s.Uncharged t) (second : t.Uncharged after) :
    s.Uncharged after where
  bills := second.bills.trans first.bills
  metered := second.metered.trans first.metered
  providers := second.providers.trans first.providers
  requests := first.requests.trans second.requests

theorem interrupt_uncharged (s : Session) : s.Uncharged s.interrupt := by
  obtain ⟨shown, time, same⟩ := Cancellation.interrupt_eq s
  rw [same]
  exact ⟨rfl, rfl, rfl, List.prefix_refl _⟩

theorem settle_uncharged (s : Session) : s.Uncharged s.settle := by
  obtain ⟨shown, time, interrupted, same⟩ := Cancellation.settle_eq s
  rw [same]
  exact ⟨rfl, rfl, rfl, List.prefix_refl _⟩

theorem check_uncharged (k : Cancellation) (s : Session) : s.Uncharged (k.check s).2 := by
  obtain ⟨n, same⟩ := Exchange.check_questions k s
  rw [same]
  exact ⟨rfl, rfl, rfl, List.prefix_refl _⟩

end Session

namespace Call

open Attempt

variable {c : Call} {limit : Binary64} {s t after : Session} {text : String}

section Charging

def billFor (c : Call) (reply : ProviderReply) : Option Bill := (c.usageOf reply).bind c.bill?

theorem accept_ok {reply : ProviderReply} (accepted : c.accept reply s = (.ok text, after)) :
    c.textOf reply = .ok text ∧
      after = { s with bills := s.bills ++ if s.metered then (c.billFor reply).toList else [] } := by
  rw [accept_apply, Run.bind_apply, Run.of_apply] at accepted
  cases said : c.textOf reply with
  | error f =>
    rw [said] at accepted
    cases accepted
  | ok said =>
    simp only [said, Run.bind_apply, chargeIfAny_apply, Run.pure_apply] at accepted
    obtain ⟨same, left⟩ := Prod.mk.inj accepted
    exact ⟨same, left.symm⟩

theorem flight_ok {entry : Entry ProviderReply}
    (landed : (c.flight limit entry).land s = (.ok text, after)) :
    ∃ reply, entry.answer = .ok reply ∧ c.accept reply s = (.ok text, after) := by
  unfold flight at landed
  split at landed
  next => cases landed
  next =>
    unfold settled at landed
    split at landed
    next reply answer => exact ⟨reply, answer, landed⟩
    next => cases landed
    next => cases landed

theorem Charged.of_error {land : Run String} (charged : c.Charged land) {f : Failure}
    (failed : land s = (.error f, after)) : after = s := by
  cases charged with
  | free o => exact (Prod.mk.inj failed).2.symm
  | charged usage text =>
    rw [Run.bind_apply, charge_apply] at failed
    cases failed

theorem afterEntry_uncharged (entry : Entry ProviderReply) (s : Session) :
    s.Uncharged (afterEntry entry s) := by
  unfold afterEntry
  split
  next => exact .refl s
  next =>
    split
    next => exact s.interrupt_uncharged
    next => exact ⟨rfl, rfl, rfl, List.prefix_refl _⟩

theorem send_uncharged (c : Call) (limit : Binary64) (s : Session) :
    s.Uncharged (c.send limit s).2 := by
  cases time : timed limit with
  | false =>
    rw [send_untimed c time]
    exact s.settle_uncharged
  | true =>
    rw [send_timed c time]
    have asked : s.settle.Uncharged
        { s.settle with requests := s.settle.requests ++ [c.sent s.settle] } :=
      ⟨rfl, rfl, rfl, List.prefix_append _ _⟩
    exact (s.settle_uncharged.trans asked).trans (afterEntry_uncharged _ _)

theorem line_uncharged (c : Call) (settings : Settings) (k : Cancellation) (start : Session) :
    (c.line settings k).Keeps start.Uncharged where
  advance _ _ kept := kept.trans ⟨rfl, rfl, rfl, List.prefix_refl _⟩
  settle s kept := kept.trans s.settle_uncharged
  check s kept := kept.trans (Session.check_uncharged k s)
  send s kept := kept.trans (send_uncharged c settings.requestSeconds s)
  failed s t f after kept landed := by
    rw [(send_charged c settings.requestSeconds s).of_error landed]
    exact kept

end Charging

section Answering

/-- The last request of a call was answered by the reply, and the reply says the text. -/
structure Answered (c : Call) (s s' : Session) (reply : ProviderReply) (text : String) : Prop where
  requests : ∃ earlier time, s.requests <+: earlier ∧ s'.requests = earlier ++ [c.sentAt time]
  answer : (s.providers.entry {} (s'.requests.length - 1)).answer = .ok reply
  text : c.textOf reply = .ok text

theorem landing_answered {settings : Settings} {k : Cancellation} (kept : s.Uncharged t)
    (landing : (c.line settings k).landing t = (.ok text, after)) :
    ∃ reply, c.Answered s after reply text ∧
      after.bills = s.bills ++ if s.metered then (c.billFor reply).toList else [] := by
  change (c.send settings.requestSeconds t).1.land _ = _ at landing
  have sent := send_uncharged c settings.requestSeconds t
  have requests := (send_requests c settings.requestSeconds t).2
  cases time : timed settings.requestSeconds with
  | false =>
    rw [send_untimed c time] at landing
    cases landing
  | true =>
    obtain ⟨shown, cancelled, interrupted, settled⟩ := Cancellation.settle_eq t
    have flight : (c.send settings.requestSeconds t).1 =
        c.flight settings.requestSeconds (s.providers.entry {} t.requests.length) := by
      rw [send_timed c time, settled, ← kept.providers]
    obtain ⟨reply, answer, accepted⟩ := flight_ok (flight ▸ landing)
    obtain ⟨said, rfl⟩ := accept_ok accepted
    simp only [recorded, time, if_true] at requests
    refine ⟨reply, ⟨⟨t.requests, t.clock, kept.requests, requests⟩, ?_, said⟩, ?_⟩
    · change (s.providers.entry {} ((c.send settings.requestSeconds t).2.requests.length - 1)).answer
        = _
      rw [requests, List.length_append]
      exact answer
    · change (c.send settings.requestSeconds t).2.bills ++
        (if (c.send settings.requestSeconds t).2.metered then _ else _) = _
      rw [sent.bills, sent.metered, kept.bills, kept.metered]

end Answering

section Metering

theorem charge_blind (c : Call) (usage : Json × Json) : (c.charge usage).Blind := by
  intro s metered meter bills
  exact ⟨_, by rw [charge_apply, charge_apply]; rfl⟩

theorem Charged.blind {land : Run String} (charged : c.Charged land) : land.Blind := by
  cases charged with
  | free o => exact Run.of_blind o
  | charged usage text => exact (charge_blind c usage).bind fun _ => Run.of_blind (.ok text)

theorem afterEntry_meteredBy (entry : Entry ProviderReply) (s : Session) (metered : Bool)
    (meter : List Bill → Outcome Unit) (bills : List Bill) :
    afterEntry entry (s.meteredBy metered meter bills) =
      (afterEntry entry s).meteredBy metered meter bills := by
  unfold afterEntry
  rw [Session.interrupt_meteredBy]
  split
  next => rfl
  next => split <;> rfl

theorem line_blind (c : Call) (settings : Settings) (k : Cancellation) :
    (c.line settings k).Blind where
  send s metered meter bills := by
    change c.send settings.requestSeconds _ = (_, (c.send settings.requestSeconds s).2.meteredBy ..)
    cases time : timed settings.requestSeconds with
    | false =>
      rw [send_untimed c time, Session.settle_meteredBy]
      change _ = ((c.send settings.requestSeconds s).1, _)
      rw [send_untimed c time]
    | true =>
      have asked (t : Session) : { t.meteredBy metered meter bills with
            requests := t.requests ++ [c.sent t] } =
          { t with requests := t.requests ++ [c.sent t] }.meteredBy metered meter bills := rfl
      change _ = ((c.send settings.requestSeconds s).1, _)
      rw [send_timed c time, send_timed c time, Session.settle_meteredBy]
      exact Prod.ext rfl ((congrArg _ (asked s.settle)).trans (afterEntry_meteredBy _ _ _ _ _))
  lands s := (send_charged c settings.requestSeconds s).blind

end Metering

end Call

namespace Call

/-- The charge for a call from `s` that came to `o` and left `s'`: the bill for the reply that the text
came from, or nothing. -/
def ChargedFor (c : Call) (s : Session) (o : Outcome String) (s' : Session) : Prop :=
  match o with
  | .error _ => s'.bills = s.bills
  | .ok text => ∃ reply, c.Answered s s' reply text ∧
    (s'.bills = s.bills ++ if s.metered then (c.billFor reply).toList else []) ∧
    ∀ input output : Int, c.usageOf reply = some (.int input, .int output) →
      s.metered = true → s'.bills = s.bills ++ [⟨c.provider.name, c.model, input, output⟩]

theorem billFor_counts {c : Call} {reply : ProviderReply} {input output : Int}
    (counts : c.usageOf reply = some (.int input, .int output)) :
    c.billFor reply = some ⟨c.provider.name, c.model, input, output⟩ := by
  rw [billFor, counts]
  rfl

theorem run_chargedFor (c : Call) (settings : Settings) (k : Cancellation) (s : Session) :
    c.ChargedFor s (c.run settings k s).1 (c.run settings k s).2 := by
  have session : (c.run settings k s).2 = ((c.line settings k).run s).2 :=
    Run.mapFailure_session _ _ s
  rw [session]
  rcases Line.run_kept (c.line_uncharged settings k s) (.refl s) with
    ⟨f, failed, kept⟩ | ⟨text, t, returned, kept, landing⟩
  · have failed : (c.run settings k s).1 = .error (reported c.provider c.model f) := by
      rw [run, Run.mapFailure]
      cases ran : (c.line settings k).run s with
      | mk o after =>
        rw [ran] at failed
        subst failed
        rfl
    rw [failed]
    exact kept.bills
  · have returned : (c.run settings k s).1 = .ok text := by
      rw [run, Run.mapFailure]
      cases ran : (c.line settings k).run s with
      | mk o after =>
        rw [ran] at returned
        subst returned
        rfl
    obtain ⟨reply, answered, bills⟩ := landing_answered kept landing
    rw [returned]
    refine ⟨reply, answered, bills, fun input output counts told => ?_⟩
    rw [bills, if_pos told, billFor_counts counts]
    rfl

end Call

theorem callModel_blind (settings : Settings) (model user system : String) (credentials : Json)
    (options : CallOptions) : (callModel settings model user system credentials options).Blind :=
  (Run.of_blind (Call.prepare settings model user system credentials options)).bind fun c =>
    (Line.run_blind (c.line_blind settings options.cancellation)).mapFailure _

theorem callModel_billed (settings : Settings) (model user system : String) (credentials : Json)
    (options : CallOptions) (s : Session) :
    ∃ o s', callModel settings model user system credentials options s = (o, s') ∧
      ((∃ f, o = .error f ∧ s'.bills = s.bills) ∨
        ∃ c, Call.prepare settings model user system credentials options = .ok c ∧
          c.ChargedFor s o s') ∧
      ∀ metered meter bills, ∃ later,
        callModel settings model user system credentials options (s.meteredBy metered meter bills) =
          (o, s'.meteredBy metered meter later) := by
  have blind := callModel_blind settings model user system credentials options s
  cases prepared : Call.prepare settings model user system credentials options with
  | error f =>
    have refused := Call.callModel_refused prepared s
    rw [refused] at blind
    exact ⟨.error f, s, refused, .inl ⟨f, rfl, rfl⟩, blind⟩
  | ok c =>
    have called := Call.callModel_prepared prepared s
    rw [called] at blind
    exact ⟨_, _, called, .inr ⟨c, rfl, c.run_chargedFor settings options.cancellation s⟩, blind⟩

def brokenMeter : Session :=
  { providers :=
      [{ delay := 1, answer := .error (.reported { message := "busy", status := some 503 }) },
        { delay := 1, answer := .ok { text := some "A poem", usage := some (.int 12, .int 345) } }]
    meter := fun _ => .error (.runtime "out of order") }

theorem callModel_brokenMeter :
    ∃ s', callModel {} "gemini-2.5-flash" "Write" "" (.obj [("gemini", .str "key")]) {}
        brokenMeter = (.ok "A poem", s') ∧
      s'.bills = [⟨"google", "gemini-2.5-flash", 12, 345⟩] ∧
      ∃ later, callModel {} "gemini-2.5-flash" "Write" "" (.obj [("gemini", .str "key")]) {}
          (brokenMeter.meteredBy false brokenMeter.meter []) =
        (.ok "A poem", s'.meteredBy false brokenMeter.meter later) := by
  obtain ⟨o, s', called, ended, blind⟩ := callModel_billed {} "gemini-2.5-flash" "Write" ""
    (.obj [("gemini", .str "key")]) {} brokenMeter
  have said : (callModel {} "gemini-2.5-flash" "Write" "" (.obj [("gemini", .str "key")]) {}
      brokenMeter).1.toOption = some "A poem" := by decide +kernel
  have twice : (callModel {} "gemini-2.5-flash" "Write" "" (.obj [("gemini", .str "key")]) {}
      brokenMeter).2.requests.length = 2 := by decide +kernel
  rw [called] at said twice
  rcases ended with ⟨f, rfl, -⟩ | ⟨c, prepared, charged⟩
  · cases said
  · cases o with
    | error f => cases said
    | ok text =>
      obtain rfl : text = "A poem" := Option.some.inj said
      obtain rfl := Except.ok.inj prepared
      obtain ⟨reply, answered, -, counted⟩ := charged
      have second := answered.answer
      rw [twice] at second
      obtain rfl := Except.ok.inj second
      exact ⟨s', called, counted 12 345 rfl rfl, blind false brokenMeter.meter []⟩

end PromptStudio
