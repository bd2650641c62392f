import PromptStudio.Proofs.Gateway.Parts
import PromptStudio.Proofs.Gateway.Together
import PromptStudio.Proofs.Judge.Sanity

set_option autoImplicit false

namespace PromptStudio

namespace Verdict

variable {a b : Verdict}

theorem get?_forDimensions {α : Type} (value : String → α) {d : String}
    (listed : d ∈ judgeDimensions) :
    Entries.get? (judgeDimensions.map fun d => (d, value d)) d = some (value d) := by
  refine Entries.get?_of_mem ?_ (List.mem_map_of_mem listed)
  rw [keys_forDimensions]
  decide

theorem attributed_pair (strict style : String) :
    attributed [("Strict", strict), ("Style", style)] =
      "[Strict] " ++ strict ++ " | [Style] " ++ style := by
  have apart : attributed [("Strict", strict), ("Style", style)] =
      "[Strict] " ++ strict ++ " | " ++ ("[Style] " ++ style) := rfl
  have named : " | " ++ ("[Style] " ++ style) = " | [Style] " ++ style :=
    String.append_assoc.symm
  rw [apart, String.append_assoc, named, ← String.append_assoc]

/-- `v` is the mean of a strict verdict and a style verdict, and says which of them says what. -/
structure Pools (v strict style : Verdict) : Prop where
  scores : ∀ d ∈ judgeDimensions,
    v.score d = ((total [strict.score d, style.score d]).divideBy 2).roundPlaces 2
  composite : v.composite = meanScore (judgeDimensions.map v.score)
  justifications : ∀ d ∈ judgeDimensions, v.justification d =
    "[Strict] " ++ strict.justification d ++ " | [Style] " ++ style.justification d
  summary : v.summary =
    if strict.summary = "" then
      if style.summary = "" then "" else "[Style] " ++ style.summary
    else if style.summary = "" then "[Strict] " ++ strict.summary
    else "[Strict] " ++ strict.summary ++ " | [Style] " ++ style.summary

theorem average_pools (strict style : Verdict) :
    ∃ v, average [("Strict", strict), ("Style", style)] = .ok v ∧ v.Pools strict style := by
  let mean (d : String) : Binary64 :=
    ((total [strict.score d, style.score d]).divideBy 2).roundPlaces 2
  let both (d : String) : String :=
    attributed [("Strict", strict.justification d), ("Style", style.justification d)]
  obtain ⟨v, averaged, dimensions, composite, justifications, summary⟩ :
      ∃ v, average [("Strict", strict), ("Style", style)] = .ok v ∧
        v.dimensions = judgeDimensions.map (fun d => (d, mean d)) ∧
        v.composite = meanScore (judgeDimensions.map mean) ∧
        v.justifications = judgeDimensions.map (fun d => (d, both d)) ∧
        v.summary = attributed ([("Strict", strict.summary), ("Style", style.summary)].filter
          fun entry => entry.2 != "") := ⟨_, rfl, rfl, rfl, rfl, rfl⟩
  have scores (d : String) (listed : d ∈ judgeDimensions) : v.score d = mean d := by
    rw [score, dimensions, get?_forDimensions mean listed]
    rfl
  refine ⟨v, averaged, ?_⟩
  constructor
  case scores => exact scores
  case composite =>
    rw [composite]
    exact congrArg meanScore (List.map_congr_left fun d listed => (scores d listed).symm)
  case justifications =>
    intro d listed
    rw [justification, justifications, get?_forDimensions both listed]
    exact attributed_pair _ _
  case summary =>
    rw [summary]
    by_cases quiet : strict.summary = "" <;> by_cases quiet' : style.summary = ""
    · rw [if_pos quiet, if_pos quiet', quiet, quiet']
      rfl
    · have said : [("Strict", strict.summary), ("Style", style.summary)].filter
          (fun entry => entry.2 != "") = [("Style", style.summary)] := by simp [quiet, quiet']
      rw [if_pos quiet, if_neg quiet', said]
      rfl
    · have said : [("Strict", strict.summary), ("Style", style.summary)].filter
          (fun entry => entry.2 != "") = [("Strict", strict.summary)] := by simp [quiet, quiet']
      rw [if_neg quiet, if_pos quiet', said]
      rfl
    · have said : [("Strict", strict.summary), ("Style", style.summary)].filter
          (fun entry => entry.2 != "") =
            [("Strict", strict.summary), ("Style", style.summary)] := by simp [quiet, quiet']
      rw [if_neg quiet, if_neg quiet', said]
      exact attributed_pair _ _

end Verdict

namespace Hearing

variable {h : Hearing} {settings : Settings} {s : Session}

theorem call_persona (h : Hearing) (settings : Settings) (persona other : String) :
    h.call settings other =
      (h.call settings persona).map fun c => { c with system := h.system other } :=
  Call.prepare_system settings h.model h.prompt (h.system persona) (h.system other) h.credentials
    h.callOptions

/-- How a panel ends: with the mean, or with the failure of the first judge on it that failed. -/
def Concludes (h : Hearing) (strict style : Outcome Verdict) (result : Outcome Evaluation) : Prop :=
  match strict, style with
  | .error f, _ => result = .error f
  | .ok _, .error f => result = .error f
  | .ok a, .ok b => ∃ v, Verdict.average [("Strict", a), ("Style", b)] = .ok v ∧ v.Pools a b ∧
    result = .ok ⟨v, h.options⟩

theorem joined_concludes (h : Hearing) (strict style : Outcome Verdict) :
    h.Concludes strict style ((joined strict style).map fun v => ⟨v, h.options⟩) := by
  cases strict with
  | error f => rfl
  | ok a =>
    cases style with
    | error f => rfl
    | ok b =>
      obtain ⟨v, averaged, pools⟩ := Verdict.average_pools a b
      refine ⟨v, averaged, pools, ?_⟩
      change (Verdict.average [("Strict", a), ("Style", b)]).map _ = _
      rw [averaged]
      rfl

section Panel

variable {strict style : Call} {o o' : Outcome String} {s' t : Session}

theorem evaluate_joined (both : h.options.dual = true)
    (called : h.call settings strictJudge = .ok strict)
    (called' : h.call settings styleJudge = .ok style)
    (ran : (strict.line settings h.cancellation).runBoth (style.line settings h.cancellation) s =
      (.ok (o, o'), s')) :
    h.evaluate settings s =
      ((joined (verdict strict o) (verdict style o')).map fun v => ⟨v, h.options⟩, s') := by
  have first : Run.of (h.call settings strictJudge) s = (.ok strict, s) := by
    rw [Run.of_apply, called]
  have second : Run.of (h.call settings styleJudge) s = (.ok style, s) := by
    rw [Run.of_apply, called']
  have heard : h.dual settings s = (joined (verdict strict o) (verdict style o'), s') :=
    (Run.bind_of_ok first).trans ((Run.bind_of_ok second).trans (Run.bind_of_ok ran))
  unfold evaluate
  rw [if_pos both, Run.bind_apply, heard]
  cases joined (verdict strict o) (verdict style o') <;> rfl

def Decided (h : Hearing) (settings : Settings) (strict style : Call) (s : Session) : Prop :=
  ¬(strict.line settings h.cancellation).Again 1 (strict.reply settings s 0) ∧
    ¬(style.line settings h.cancellation).Again 1 (style.reply settings s 1)

/-- A hearing from `s` in which the two judges came to `o` and `o'`, and how it ended. Whenever they
come to these outcomes it ends like this, in whatever order; and unless one of them tries again, the
replies alone decide, however long they take. -/
structure Heard (h : Hearing) (settings : Settings) (s : Session) (strict style : Call)
    (turns : List Side) (o o' : Outcome String) (result : Outcome Evaluation) (s' : Session) :
    Prop where
  strictCall : h.call settings strictJudge = .ok strict
  styleCall : h.call settings styleJudge = .ok style
  made : BothMade strict style settings h.cancellation s turns o o' s'
  attempts : ∀ side, 1 ≤ turns.count side ∧ turns.count side ≤ 6
  concludes : h.Concludes (verdict strict o) (verdict style o') result
  once : h.Decided settings strict style s →
    turns = [.first, .second] ∧ o = strict.reply settings s 0 ∧ o' = style.reply settings s 1
  decided : strict.provider ≠ .google → h.Decided settings strict style s
  anyOrder : ∀ t, ((strict.line settings h.cancellation).runBoth
      (style.line settings h.cancellation) t).1 = .ok (o, o') → (h.evaluate settings t).1 = result
  anyTiming : h.Decided settings strict style s →
    ∀ t, strict.reply settings t 0 = strict.reply settings s 0 →
      style.reply settings t 1 = style.reply settings s 1 → (h.evaluate settings t).1 = result

theorem evaluate_heard (both : h.options.dual = true)
    (called : h.call settings strictJudge = .ok strict)
    (called' : h.call settings styleJudge = .ok style) (s : Session) :
    ∃ turns o o' result s', h.evaluate settings s = (result, s') ∧
      h.Heard settings s strict style turns o o' result s' := by
  obtain ⟨turns, o, o', s', ran, made⟩ := runBoth_made strict style settings h.cancellation s
  refine ⟨turns, o, o', _, s', evaluate_joined both called called' ran, ?_⟩
  have same : style.provider = strict.provider := by
    have derived := h.call_persona settings strictJudge styleJudge
    rw [called, called'] at derived
    rw [Except.ok.inj derived]
  constructor
  case strictCall => exact called
  case styleCall => exact called'
  case made => exact made
  case attempts => exact made.count
  case concludes => exact h.joined_concludes _ _
  case once => exact fun decided => made.once decided.1 decided.2
  case decided =>
    exact fun other => ⟨strict.not_again other settings h.cancellation 1 _,
      style.not_again (same ▸ other) settings h.cancellation 1 _⟩
  case anyOrder =>
    intro t heard
    obtain ⟨pair, t', ran⟩ : ∃ pair t', (strict.line settings h.cancellation).runBoth
        (style.line settings h.cancellation) t = (.ok pair, t') := ⟨_, _, rfl⟩
    rw [ran] at heard
    obtain rfl := Except.ok.inj heard
    rw [evaluate_joined both called called' ran]
  case anyTiming =>
    intro decided t first second
    obtain ⟨turns', p, p', t', ran', made'⟩ :=
      runBoth_made strict style settings h.cancellation t
    obtain ⟨-, outcome, outcome'⟩ := made.once decided.1 decided.2
    obtain ⟨-, again, again'⟩ := made'.once (first ▸ decided.1) (second ▸ decided.2)
    rw [evaluate_joined both called called' ran', again, again', first, second, outcome, outcome']

end Panel

end Hearing

theorem evaluate_dual (h : Hearing) (settings : Settings) (both : h.options.dual = true)
    (s : Session) :
    (∃ f, h.call settings strictJudge = .error f ∧ h.call settings styleJudge = .error f ∧
      h.evaluate settings s = (.error f, s)) ∨
    ∃ strict style turns o o' result s', h.evaluate settings s = (result, s') ∧
      h.Heard settings s strict style turns o o' result s' := by
  have derived := h.call_persona settings strictJudge styleJudge
  cases called : h.call settings strictJudge with
  | error f =>
    rw [called] at derived
    refine .inl ⟨f, rfl, derived, ?_⟩
    unfold Hearing.evaluate Hearing.dual
    rw [if_pos both, called]
    rfl
  | ok strict =>
    rw [called] at derived
    obtain ⟨turns, o, o', result, s', heard⟩ := Hearing.evaluate_heard both called derived s
    exact .inr ⟨strict, _, turns, o, o', result, s', heard⟩

def lateStrict : Session :=
  { providers :=
      [{ delay := 5, answer := .error (.reported { message := "strict", status := some 503 }) },
        { delay := 1, answer := .error (.reported { message := "style", status := some 503 }) }] }

def messageOf? : Outcome Evaluation → Option String
  | .error (.model e) => some e.message
  | _ => none

theorem evaluate_lateStrict :
    pairHearing.options.dual = true ∧
      ∃ strict style o o' result s', pairHearing.evaluate {} lateStrict = (result, s') ∧
        pairHearing.Heard {} lateStrict strict style [.first, .second] o o' result s' ∧
        messageOf? result = some "[openai/gpt-4o] Service temporarily unavailable: strict" ∧
        s'.clock = 5 := by
  have both : pairHearing.options.dual = true := rfl
  have told : messageOf? (pairHearing.evaluate {} lateStrict).1 =
      some "[openai/gpt-4o] Service temporarily unavailable: strict" := by decide +kernel
  have late : (pairHearing.evaluate {} lateStrict).2.clock = 5 := by decide +kernel
  rcases evaluate_dual pairHearing {} both lateStrict with
    ⟨f, refused, -⟩ | ⟨strict, style, turns, o, o', result, s', ran, heard⟩
  · cases refused
  · rw [ran] at told late
    have openai : strict.provider ≠ .google := by
      rw [← Except.ok.inj heard.strictCall]
      decide
    obtain ⟨rfl, -⟩ := heard.once (heard.decided openai)
    exact ⟨both, strict, style, o, o', result, s', ran, heard, told, late⟩

end PromptStudio
