import PromptStudio.Proofs.Entries
import PromptStudio.Proofs.Form.Reading
import PromptStudio.Proofs.Gateway.Cancelling
import PromptStudio.Proofs.Gateway.Single
import PromptStudio.Proofs.Session.Landings

set_option autoImplicit false

namespace PromptStudio

namespace Report

def given (message : String) (statusCode code body : Json) : Report :=
  ⟨message, statusOf statusCode code, detailIn body⟩

def saidIn (body : Json) : Json :=
  match body with
  | .obj fields =>
    match (Entries.get? fields "error").getD body with
    | .obj inner => (Entries.get? inner "message").getD .null
    | _ => .null
  | _ => .null

/-- A message that counts, and is neither text nor a container that is short enough. -/
def Unmeasurable (message : Json) : Prop :=
  match message with
  | .str _ => False
  | .arr items => messageLimit < items.length
  | .obj fields => messageLimit < fields.length
  | v => v.truthy = true

instance (message : Json) : Decidable (Unmeasurable message) := by
  unfold Unmeasurable
  split <;> infer_instance

theorem detailIn_eq (body : Json) :
    detailIn body = if (saidIn body).truthy then detailOf (saidIn body) else .absent := by
  unfold detailIn saidIn
  cases body with
  | obj fields =>
    obtain ⟨place, same⟩ : ∃ place, (Entries.get? fields "error").getD (.obj fields) = place :=
      ⟨_, rfl⟩
    simp only [same]
    cases place <;> rfl
  | _ => rfl

theorem detailIn_unmeasured_iff (body : Json) :
    (∃ problem, detailIn body = .unmeasured problem) ↔ Unmeasurable (saidIn body) := by
  rw [detailIn_eq]
  cases message : saidIn body with
  | str s =>
    cases counts : (Json.str s).truthy <;> simp [detailOf, Unmeasurable]
  | arr items =>
    by_cases long : messageLimit < items.length
    next =>
      have filled : (Json.arr items).truthy = true := by cases items <;> simp_all [Json.truthy]
      simp [detailOf, Unmeasurable, long, filled]
    next =>
      cases counts : (Json.arr items).truthy <;> simp [detailOf, Unmeasurable, long]
  | obj fields =>
    by_cases long : messageLimit < fields.length
    next =>
      have filled : (Json.obj fields).truthy = true := by cases fields <;> simp_all [Json.truthy]
      simp [detailOf, Unmeasurable, long, filled]
    next =>
      cases counts : (Json.obj fields).truthy <;> simp [detailOf, Unmeasurable, long]
  | null => simp [Unmeasurable, Json.truthy]
  | bool b => cases b <;> simp [detailOf, Unmeasurable, Json.truthy]
  | int n => by_cases nothing : n = 0 <;> simp [detailOf, Unmeasurable, Json.truthy, nothing]
  | float x =>
    cases nothing : x.isZero <;> simp [detailOf, Unmeasurable, Json.truthy, nothing]

end Report

namespace Failure

variable {f : Failure} {problem : Fault}

def Speechless (f : Failure) (problem : Fault) : Prop :=
  f.kind ≠ .invalidCredential ∧ f.wording = .error problem

theorem speechless_reported_iff (report : Report) :
    (Failure.reported report).Speechless problem ↔
      (Failure.reported report).kind ≠ .invalidCredential ∧
        report.detail = .unmeasured problem := by
  unfold Speechless wording
  dsimp only
  cases report.detail <;> simp

theorem not_speechless_of_wording {text : String} (worded : f.wording = .ok text) :
    ¬f.Speechless problem := by
  rintro ⟨-, same⟩
  exact nomatch worded.symm.trans same

theorem asModelError_speechless (speechless : f.Speechless problem) (provider model : String) :
    f.asModelError provider model = .fault problem := by
  obtain ⟨kind, wordless⟩ := speechless
  have unexplained : f.explanation provider model = .error problem := by
    unfold explanation
    split
    next invalid => exact absurd invalid kind
    next => rw [wordless]; rfl
  unfold asModelError
  split
  next => exact nomatch wordless
  next => rw [unexplained]

theorem asModelError_spoken (spoken : ∀ problem, ¬f.Speechless problem) (provider model : String) :
    ∃ e, f.asModelError provider model = .model e := by
  by_cases invalid : f.kind = .invalidCredential
  next =>
    have explained : ∃ message, f.explanation provider model = .ok message := by
      unfold explanation
      rw [invalid]
      exact ⟨_, rfl⟩
    obtain ⟨message, explained⟩ := explained
    unfold asModelError
    split
    next e => exact ⟨e, rfl⟩
    next => exact ⟨_, by rw [explained]⟩
  next =>
    cases worded : f.wording with
    | error problem => exact absurd ⟨invalid, worded⟩ (spoken problem)
    | ok text =>
      obtain ⟨e, same, -⟩ := asModelError_kind ⟨text, worded⟩ provider model
      exact ⟨e, same⟩

end Failure

namespace Call

open Attempt

/-- A text, a model error, or a cancellation. -/
inductive Closed : Outcome String → Prop where
  | text (text : String) : Closed (.ok text)
  | model (error : ModelError) : Closed (.error (.model error))
  | cancelled (message : String) : Closed (.error (.cancelled message))

def Spoken (o : Outcome String) : Prop := ∀ f, o = .error f → ∀ problem, ¬f.Speechless problem

variable {c : Call} {settings : Settings} {k : Cancellation} {limit : Binary64} {s : Session}

theorem spoken_ok (text : String) : Spoken (.ok text) := by
  intro f failed
  cases failed

theorem spoken_of_wording {f : Failure} {text : String} (worded : f.wording = .ok text) :
    Spoken (.error f) := by
  rintro _ ⟨⟩ problem
  exact Failure.not_speechless_of_wording worded

theorem reported_of_not_cancelled {f : Failure} (other : ∀ message, f ≠ .cancelled message)
    (provider : Provider) (model : String) :
    reported provider model f = f.asModelError provider.name model := by
  cases f with
  | cancelled message => exact absurd rfl (other message)
  | _ => rfl

theorem told_closed {o : Outcome String} (spoken : Spoken o) : Closed (c.told o) := by
  cases o with
  | ok text => exact .text text
  | error f =>
    by_cases cancelled : ∃ message, f = .cancelled message
    next =>
      obtain ⟨message, rfl⟩ := cancelled
      exact .cancelled message
    next =>
      obtain ⟨e, same⟩ := Failure.asModelError_spoken (spoken f rfl) c.provider.name c.model
      rw [told, Except.mapError, reported_of_not_cancelled (not_exists.mp cancelled), same]
      exact .model e

theorem told_speechless {f : Failure} {problem : Fault} (speechless : f.Speechless problem) :
    c.told (.error f) = .error (.fault problem) := by
  have other (message : String) : f ≠ .cancelled message := by
    rintro rfl
    exact Failure.not_speechless_of_wording rfl speechless
  rw [told, Except.mapError, reported_of_not_cancelled other,
    Failure.asModelError_speechless speechless]

section Attempts

variable {entry : Entry ProviderReply} {answer : Outcome ProviderReply}

theorem joinBlocks_spoken (position : Nat) (blocks : List (String × Option String)) :
    Spoken (joinBlocks position blocks) := by
  induction position, blocks using joinBlocks.induct with
  | case1 => exact spoken_ok _
  | case2 position text rest ih =>
    rw [joinBlocks]
    cases joined : joinBlocks (position + 1) rest with
    | ok later => exact spoken_ok _
    | error f =>
      rw [joined] at ih
      exact ih
  | case3 position rest => exact spoken_of_wording rfl
  | case4 position head rest filled blank ih =>
    rw [joinBlocks]
    · exact ih
    · exact filled
    · exact blank

theorem accept_spoken (c : Call) (reply : ProviderReply) (s : Session) :
    Spoken (c.accept reply s).1 := by
  rw [accept_outcome, textOf]
  cases c.provider with
  | openai => exact spoken_ok _
  | anthropic => exact joinBlocks_spoken 0 _
  | google =>
    dsimp only
    split
    next => exact spoken_of_wording rfl
    next => exact spoken_ok _

theorem asModelError_wording (f : Failure) (provider model : String) :
    ∃ text, (f.asModelError provider model).wording = .ok text := by
  unfold Failure.asModelError
  split
  next => exact ⟨_, rfl⟩
  next => split <;> exact ⟨_, rfl⟩

theorem timedOut_spoken (c : Call) (limit : Binary64) : Spoken (.error (c.timedOut limit)) :=
  spoken_of_wording rfl

-- Where calls are tried again, each attempt puts its own failure into words.
theorem settled_spoken (google : c.provider = .google) (limit : Binary64)
    (answer : Outcome ProviderReply) (s : Session) : Spoken (c.settled limit answer s).1 := by
  unfold settled
  split
  next reply => exact accept_spoken c reply s
  next => exact timedOut_spoken c limit
  next f _ =>
    rw [if_pos google]
    obtain ⟨text, worded⟩ := asModelError_wording f c.provider.name c.model
    exact spoken_of_wording worded

theorem settled_once (once : c.provider ≠ .google) (limit : Binary64) {f : Failure}
    (other : ∀ message, f ≠ .timeout message) : c.settled limit (.error f) = Run.fail f := by
  unfold settled
  split
  next same => exact nomatch same
  next message same => exact absurd (Except.error.inj same) (other message)
  next same =>
    obtain rfl := Except.error.inj same
    rw [if_neg once]

theorem send_spoken (google : c.provider = .google) (limit : Binary64) (s : Session) :
    (c.send limit s).1.Comes Spoken := by
  intro later
  cases time : timed limit with
  | false =>
    rw [send_untimed c time]
    exact timedOut_spoken c limit
  | true =>
    rw [send_timed c time, flight]
    split
    next => exact timedOut_spoken c limit
    next => exact settled_spoken google limit _ later

/-- The call is made once, and is answered in time by a failure that cannot be put into words. -/
structure Wordless (c : Call) (limit : Binary64) (s : Session) (problem : Fault) : Prop where
  once : c.provider ≠ .google
  time : timed limit = true
  punctual : limit.below (.ofRat (s.providers.entry {} s.requests.length).delay) = false
  failed : ∃ f, (s.providers.entry {} s.requests.length).answer = .error f ∧ f.Speechless problem

theorem land_once (once : c.provider ≠ .google) (limit : Binary64) (s later : Session) :
    Spoken ((c.send limit s).1.land later).1 ∨
      ∃ f problem, ((c.send limit s).1.land later).1 = .error f ∧ f.Speechless problem ∧
        c.Wordless limit s problem := by
  cases time : timed limit with
  | false =>
    rw [send_untimed c time]
    exact .inl (timedOut_spoken c limit)
  | true =>
    obtain ⟨shown, cancelled, interrupted, settle⟩ := Cancellation.settle_eq s
    have providers : s.settle.providers = s.providers := by rw [settle]
    have requests : s.settle.requests = s.requests := by rw [settle]
    rw [send_timed c time, providers, requests, flight]
    split
    next => exact .inl (timedOut_spoken c limit)
    next punctual =>
      unfold settled
      split
      next reply _ => exact .inl (accept_spoken c reply later)
      next => exact .inl (timedOut_spoken c limit)
      next f _ answer =>
        rw [if_neg once]
        by_cases spoken : ∀ problem, ¬f.Speechless problem
        next =>
          refine .inl ?_
          rintro _ ⟨⟩
          exact spoken
        next =>
          obtain ⟨problem, speechless⟩ := not_forall_not.mp spoken
          exact .inr ⟨f, problem, rfl, speechless, once, time, by simpa using punctual, f, answer,
            speechless⟩

theorem Wordless.land {problem : Fault} (wordless : c.Wordless limit s problem) (later : Session) :
    ∃ f, ((c.send limit s).1.land later).1 = .error f ∧ f.Speechless problem := by
  obtain ⟨once, time, punctual, f, answer, speechless⟩ := wordless
  obtain ⟨shown, cancelled, interrupted, settle⟩ := Cancellation.settle_eq s
  have providers : s.settle.providers = s.providers := by rw [settle]
  have requests : s.settle.requests = s.requests := by rw [settle]
  rw [send_timed c time, providers, requests, flight]
  simp only [punctual, Bool.false_eq_true, if_false, answer]
  have other (message : String) : f ≠ .timeout message := by
    rintro rfl
    exact Failure.not_speechless_of_wording rfl speechless
  exact ⟨f, by rw [settled_once once limit other]; rfl, speechless⟩

end Attempts

theorem run_told (c : Call) (settings : Settings) (k : Cancellation) (s : Session) :
    (c.run settings k s).1 = c.told ((c.line settings k).run s).1 := by
  rw [run, Run.mapFailure]
  cases (c.line settings k).run s with
  | mk o later => cases o <;> rfl

theorem run_landed (once : c.provider ≠ .google) (settings : Settings) (k : Cancellation)
    (s : Session) : ∃ later,
      (c.run settings k s).1 = c.told ((c.send settings.requestSeconds s).1.land later).1 := by
  have single : (c.line settings k).retries = false := by simp [line, once]
  rw [run_told, Line.run_once single]
  exact ⟨_, rfl⟩

theorem run_closed_or (c : Call) (settings : Settings) (k : Cancellation) (s : Session) :
    Closed (c.run settings k s).1 ∨ ∃ problem, c.Wordless settings.requestSeconds s problem := by
  by_cases google : c.provider = .google
  next =>
    have cut (o : Outcome String) (cancelled : Exchange.IsCut o) : Spoken o := by
      obtain ⟨message, rfl⟩ := cancelled
      exact spoken_of_wording rfl
    refine .inl ?_
    rw [run_told]
    exact told_closed (Line.run_comes (send_spoken google settings.requestSeconds) cut
      (spoken_of_wording rfl) s)
  next =>
    obtain ⟨later, told⟩ := run_landed google settings k s
    rcases land_once google settings.requestSeconds s later with spoken | wordless
    · exact .inl (told ▸ told_closed spoken)
    · obtain ⟨f, problem, -, -, wordless⟩ := wordless
      exact .inr ⟨problem, wordless⟩

theorem Wordless.run {problem : Fault} (wordless : c.Wordless settings.requestSeconds s problem)
    (k : Cancellation) : (c.run settings k s).1 = .error (.fault problem) := by
  obtain ⟨later, told⟩ := run_landed wordless.once settings k s
  obtain ⟨f, landed, speechless⟩ := wordless.land later
  rw [told, landed, told_speechless speechless]

variable {model user system : String} {fields : Entries Json} {options : CallOptions}

theorem keys_ofTexts (texts : ∀ entry ∈ fields, ∃ text, entry.2 = .str text) :
    ∃ keys, Keys.ofJson (.obj fields) = .ok keys := by
  have reads (key : String) : ∃ text, Reader.withDefault fields key "" Reader.text = .ok text := by
    unfold Reader.withDefault
    split
    next v found =>
      obtain ⟨text, same⟩ := texts _ (Entries.mem_of_get? found)
      obtain rfl : v = .str text := same
      exact ⟨text, rfl⟩
    next => exact ⟨"", rfl⟩
  obtain ⟨gemini, gemini'⟩ := reads "gemini"
  obtain ⟨openai, openai'⟩ := reads "openai"
  obtain ⟨anthropic, anthropic'⟩ := reads "anthropic"
  refine ⟨⟨gemini, openai, anthropic⟩, ?_⟩
  change (Keys.read (.obj fields)).toOutcome = _
  have read : Keys.read (.obj fields) = .ok ⟨gemini, openai, anthropic⟩ := by
    simp only [Keys.read, Reader.record]
    rw [gemini', openai', anthropic']
    rfl
  rw [read]
  rfl

theorem attachment_answered (v : Json) : (Attachment.read v).Answered := by
  cases v with
  | obj fields =>
    have url : (Reader.needed fields "url" Reader.text).Answered := by
      unfold Reader.needed
      split
      next v _ => simpa using Reader.text_answered v
      next => simp [Checked.Answered]
    have optional (key whenAbsent : String) :
        (Reader.withDefault fields key whenAbsent Reader.text).Answered := by
      unfold Reader.withDefault
      split
      next v _ => simpa using Reader.text_answered v
      next => simp
    have first : ((Reader.needed fields "url" Reader.text).map Attachment.mk).Answered := by
      simpa using url
    have second :=
      Checked.answered_seq first (x := fun _ => _) (optional "content_type" "image/png")
    exact Checked.answered_seq second (x := fun _ => _) (optional "label" "")
  | _ => exact Checked.answered_wrong _

theorem attachments_error {values : List Json} {f : Failure}
    (failed : values.mapM (fun a => (Attachment.read a).toOutcome) = .error f) :
    ∃ problems, f = .invalid problems := by
  induction values with
  | nil => exact nomatch failed
  | cons v rest ih =>
    have answered := attachment_answered v
    rw [List.mapM_cons] at failed
    cases read : Attachment.read v with
    | bad problems =>
      rw [read] at failed
      exact ⟨problems, (Except.error.inj failed).symm⟩
    | stop failure =>
      rw [read] at answered
      exact answered.elim
    | ok a =>
      rw [read] at failed
      cases later : rest.mapM (fun a => (Attachment.read a).toOutcome) with
      | error other =>
        rw [later] at failed
        obtain rfl : other = f := Except.error.inj failed
        exact ih later
      | ok more =>
        rw [later] at failed
        exact nomatch failed

theorem prepare_error (texts : ∀ entry ∈ fields, ∃ text, entry.2 = .str text) {f : Failure}
    (refused : prepare settings model user system (.obj fields) options = .error f) :
    ∃ e, f = .model e := by
  obtain ⟨keys, read⟩ := keys_ofTexts texts
  unfold prepare at refused
  cases found : Model.find? model with
  | none =>
    rw [found] at refused
    exact ⟨_, (Except.error.inj refused).symm⟩
  | some m =>
    simp only [found, read] at refused
    change (if keys.key m.provider == "" then _ else _) = _ at refused
    split at refused
    next => exact ⟨_, (Except.error.inj refused).symm⟩
    next =>
      split at refused
      next failure failed =>
        obtain ⟨problems, rfl⟩ := attachments_error failed
        obtain rfl : reported m.provider m.id (.invalid problems) = f := Except.error.inj refused
        have worded : (Failure.invalid problems).wording = .ok _ := rfl
        exact Failure.asModelError_spoken (fun _ => Failure.not_speechless_of_wording worded) _ _
      next => exact nomatch refused

theorem callModel_wordless {credentials : Json} {problem : Fault}
    (prepared : prepare settings model user system credentials options = .ok c)
    (wordless : c.Wordless settings.requestSeconds s problem) :
    (callModel settings model user system credentials options s).1 = .error (.fault problem) := by
  rw [callModel_prepared prepared]
  exact wordless.run options.cancellation

theorem not_closed_fault (problem : Fault) : ¬Closed (.error (.fault problem)) := nofun

theorem callModel_closed_iff (settings : Settings) (model user system : String)
    (fields : Entries Json) (texts : ∀ entry ∈ fields, ∃ text, entry.2 = .str text)
    (options : CallOptions) (s : Session) :
    (Closed (callModel settings model user system (.obj fields) options s).1 ↔
      ∀ c, prepare settings model user system (.obj fields) options = .ok c →
        ∀ problem, ¬c.Wordless settings.requestSeconds s problem) ∧
    (∀ c, prepare settings model user system (.obj fields) options = .ok c →
      ∀ problem, c.Wordless settings.requestSeconds s problem →
        (callModel settings model user system (.obj fields) options s).1 =
          .error (.fault problem)) ∧
    ∀ (message : String) (statusCode code body : Json),
      (∃ problem,
        (Failure.reported (.given message statusCode code body)).Speechless problem) ↔
      (Failure.reported (.given message statusCode code body)).kind ≠ .invalidCredential ∧
        Report.Unmeasurable (Report.saidIn body) := by
  have wordless (c : Call)
      (prepared : prepare settings model user system (.obj fields) options = .ok c)
      (problem : Fault) (wordless : c.Wordless settings.requestSeconds s problem) :
      (callModel settings model user system (.obj fields) options s).1 = .error (.fault problem) :=
    callModel_wordless prepared wordless
  refine ⟨⟨?leaves, ?stays⟩, wordless, ?messages⟩
  case leaves =>
    intro closed c prepared problem silent
    rw [wordless c prepared problem silent] at closed
    exact not_closed_fault problem closed
  case stays =>
    intro spoken
    cases prepared : prepare settings model user system (.obj fields) options with
    | error f =>
      obtain ⟨e, rfl⟩ := prepare_error texts prepared
      rw [callModel_refused prepared]
      exact .model e
    | ok c =>
      rw [callModel_prepared prepared]
      rcases run_closed_or c settings options.cancellation s with closed | ⟨problem, silent⟩
      · exact closed
      · exact absurd silent (spoken c prepared problem)
  case messages =>
    intro message statusCode code body
    rw [← Report.detailIn_unmeasured_iff]
    simp only [Failure.speechless_reported_iff, exists_and_left]
    rfl

def numberedReply : Entry ProviderReply :=
  { answer := .error (.reported (.given "boom" (.int 500) .null
      (.obj [("error", .obj [("message", .int 5)])]))) }

theorem callModel_numberedReply_retried :
    (∀ entry ∈ ([("gemini", .str "key")] : Entries Json), ∃ text, entry.2 = .str text) ∧
      Closed (callModel {} "gemini-2.5-flash" "hi" "" (.obj [("gemini", .str "key")]) {}
        { providers := [numberedReply] }).1 := by
  have texts : ∀ entry ∈ ([("gemini", .str "key")] : Entries Json), ∃ text, entry.2 = .str text :=
    by simp
  refine ⟨texts, (callModel_closed_iff {} "gemini-2.5-flash" "hi" "" _ texts {} _).1.mpr ?_⟩
  rintro c prepared problem ⟨once, -⟩
  obtain rfl := Except.ok.inj prepared
  exact once rfl

theorem callModel_numberedReply_once :
    ¬Closed (callModel {} "gpt-4o" "hi" "" (.obj [("openai", .str "key")]) {}
      { providers := [numberedReply] }).1 := by
  let session : Session := { providers := [numberedReply] }
  have silent (c : Call) (once : c.provider = .openai) : c.Wordless (.finite 30) session
      ⟨.wrongType, "object of type 'int' has no len()"⟩ := by
    refine ⟨by simp [once], by decide +kernel, by decide +kernel, _, rfl, ?_⟩
    exact ⟨by decide +kernel, rfl⟩
  rw [callModel_wordless rfl (silent _ rfl)]
  exact not_closed_fault _

end Call

end PromptStudio
