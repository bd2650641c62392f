import PromptStudio.Proofs.Pipeline.Overrides

set_option autoImplicit false

namespace PromptStudio

structure Question where
  user : String
  system : String
  temperature : Option Json

namespace Caller

variable {ask : Caller} {s : Session}

def pose (ask : Caller) (q : Question) : Run Json := ask q.user q.system q.temperature

def after (ask : Caller) (questions : List Question) (s : Session) : Session :=
  questions.foldl (fun s q => (ask.pose q s).2) s

end Caller

def Ask.question (a : Ask) : Question := ⟨a.user, a.system, a.temperature⟩

theorem script_after (questions : List Question) (s : Session) :
    ((Caller.after Script.caller questions s).asks.map Ask.question) =
      s.asks.map Ask.question ++ questions := by
  induction questions generalizing s with
  | nil => simp [Caller.after]
  | cons q rest ih =>
    have asked : (Caller.pose Script.caller q s).2.asks.map Ask.question =
        s.asks.map Ask.question ++ [q] := by
      simp [Caller.pose, Script.caller, Session.advance, Ask.question]
    rw [Caller.after, List.foldl_cons, ← Caller.after, ih, asked, List.append_assoc]
    rfl

namespace PipelineOptions

def analysisQuestion (o : PipelineOptions) (prompt : String) : Question :=
  ⟨prompt, analysisPersona, some (.float o.analysisTemperature)⟩

def generationQuestion (o : PipelineOptions) (prompt : String) : Question :=
  ⟨prompt, generationPersona, some (.float o.generationTemperature)⟩

end PipelineOptions

variable {r : Request} {ask : Caller} {options : PipelineOptions} {now : Moment}
  {s s₁ : Session} {spec : PromptSpec}

/-- From `s` on the pipeline generates from the spec, and has nothing else to ask. -/
structure Generates (run : Outcome PipelineResult × Session) (ask : Caller)
    (options : PipelineOptions) (spec : PromptSpec) (prompt : String) (s : Session) : Prop where
  written : spec.generationPrompt = .ok prompt
  asked : (runGeneration spec ask options s).2 = ask.after [options.generationQuestion prompt] s
  result : ∃ v, spec.validate = .ok v ∧
    run.1 = (runGeneration spec ask options s).1.map fun generation => ⟨spec, generation, v⟩
  session : run.2 = (runGeneration spec ask options s).2

theorem runPipeline_generates (first : firstSpec r ask options now s = (.ok spec, s₁))
    (plain : options.overrides = []) (filled : spec.Filled) :
    ∃ prompt, Generates (runPipeline r ask options now s) ask options spec prompt s₁ := by
  obtain ⟨prompt, written⟩ := filled.to_tagged.generationPrompt
  have kept : spec.override (.obj options.overrides) = .ok spec := by rw [plain]; rfl
  obtain ⟨v, validated, sent⟩ := runPipeline_sends first kept filled written
  have generated : runGeneration spec ask options s₁ =
      (generationOfAnswer (generationAnswer ask prompt options.generationTemperature s₁).1,
        (generationAnswer ask prompt options.generationTemperature s₁).2) :=
    generate_answered written
  refine ⟨prompt, written, ?_, ⟨v, validated, ?_⟩, ?_⟩
  · rw [generated]
    rfl
  · rw [sent, generated]
  · rw [sent, generated]

-- The question does not depend on the answer, and the spec does not depend on what was asked.
theorem runAnalysis_asks (r : Request) (ask : Caller) (options : PipelineOptions) (now : Moment)
    (s : Session) :
    ∃ prompt spec, r.analysisPrompt = .ok prompt ∧ spec.Filled ∧
      specOfAnswer r now (ask.pose (options.analysisQuestion prompt) s).1 = .ok spec ∧
      runAnalysis r ask options now s =
        (.ok spec, ask.after [options.analysisQuestion prompt] s) := by
  obtain ⟨prompt, written⟩ := analysisPrompt_ok r
  obtain ⟨spec, made, ready⟩ :=
    specOfAnswer_made r now (ask.pose (options.analysisQuestion prompt) s).1
  exact ⟨prompt, spec, written, ready.filled, made, (analyze_apply written).trans (Prod.ext made rfl)⟩

theorem firstSpec_skipped (fresh : options.existing = none) (skipped : options.skipAnalysis = true)
    (basic : r.basicSpec now = .ok spec) : firstSpec r ask options now s = (.ok spec, s) := by
  simp only [firstSpec, fresh, skipped, if_true]
  rw [Run.of_apply, basic]

theorem runPipeline_staged (r : Request) (ask : Caller) (options : PipelineOptions) (now : Moment)
    (s : Session) (fresh : options.existing = none) (whole : options.skipAnalysis = false)
    (plain : options.overrides = []) :
    ∃ spec first second s₁, r.analysisPrompt = .ok first ∧
      runAnalysis r ask options now s = (.ok spec, s₁) ∧
      s₁ = ask.after [options.analysisQuestion first] s ∧
      Generates (runPipeline r ask options now s) ask options spec second s₁ ∧
      (runPipeline r ask options now s).2 =
        ask.after [options.analysisQuestion first, options.generationQuestion second] s ∧
      (ask = Script.caller → (runPipeline r ask options now s).2.asks.map Ask.question =
        s.asks.map Ask.question ++
          [options.analysisQuestion first, options.generationQuestion second]) ∧
      ∀ f, (ask.pose (options.analysisQuestion first) s).1 = .error f →
        (∀ skipping : PipelineOptions, skipping.existing = none → skipping.skipAnalysis = true →
          ∀ other t, firstSpec r other skipping now t = (.ok spec, t)) ∧
        Generates (runPipeline r ask { options with skipAnalysis := true } now s) ask options spec
          second s := by
  obtain ⟨first, spec, written, filled, made, analyzed⟩ := runAnalysis_asks r ask options now s
  have begun : firstSpec r ask options now s =
      (.ok spec, ask.after [options.analysisQuestion first] s) := by
    simp only [firstSpec, fresh, whole]
    exact analyzed
  obtain ⟨second, generates⟩ := runPipeline_generates begun plain filled
  have session : (runPipeline r ask options now s).2 =
      ask.after [options.analysisQuestion first, options.generationQuestion second] s :=
    generates.session.trans generates.asked
  have noted (scripted : ask = Script.caller) :
      (runPipeline r ask options now s).2.asks.map Ask.question = s.asks.map Ask.question ++
        [options.analysisQuestion first, options.generationQuestion second] := by
    rw [session, scripted, script_after]
  refine ⟨spec, first, second, _, written, analyzed, rfl, generates, session, noted,
    fun f failed => ?_⟩
  rw [failed] at made
  have basic : r.basicSpec now = .ok spec := made
  refine ⟨fun skipping fresh skipped other t => firstSpec_skipped fresh skipped basic, ?_⟩
  have skipped : firstSpec r ask { options with skipAnalysis := true } now s = (.ok spec, s) :=
    firstSpec_skipped fresh rfl basic
  obtain ⟨same, generated⟩ := runPipeline_generates skipped plain filled
  obtain rfl : same = second := by
    injection generated.written.symm.trans generates.written
  exact ⟨generated.written, generated.asked, generated.result, generated.session⟩

def balkySession : Session :=
  { callers := [{ answer := .error (.runtime "overloaded") }, { answer := .ok (.str "Write") }] }

theorem runPipeline_balkySession :
    ∃ spec first second v s', runAnalysis talkRequest Script.caller {} newYear balkySession =
        (.ok spec, s') ∧
      runPipeline talkRequest Script.caller {} newYear balkySession =
        (.ok ⟨spec, { expandedPrompt := "Write" }, v⟩,
          (runGeneration spec Script.caller {} s').2) ∧
      (runPipeline talkRequest Script.caller {} newYear balkySession).2.asks.map Ask.question =
        [PipelineOptions.analysisQuestion {} first, PipelineOptions.generationQuestion {} second] ∧
      firstSpec talkRequest Script.caller { skipAnalysis := true } newYear balkySession =
        (.ok spec, balkySession) := by
  obtain ⟨spec, first, second, s', written, analyzed, rfl, generates, -, noted, fallback⟩ :=
    runPipeline_staged talkRequest Script.caller {} newYear balkySession rfl rfl rfl
  obtain ⟨v, -, result⟩ := generates.result
  have failed : (Script.caller.pose (PipelineOptions.analysisQuestion {} first) balkySession).1 =
    .error (.runtime "overloaded") := rfl
  have said : (runGeneration spec Script.caller {} (Script.caller.after
      [PipelineOptions.analysisQuestion {} first] balkySession)).1 =
        .ok { expandedPrompt := "Write" } := by
    rw [runGeneration, generate_answered generates.written]
    have usable : Generation.Usable (.str "Write") := by decide +kernel
    have settled : Generation.settled (.str "Write") = { expandedPrompt := "Write" } := by
      decide +kernel
    exact (Generation.ofReply_usable usable).trans (congrArg Except.ok settled)
  refine ⟨spec, first, second, v, _, analyzed, Prod.ext ?_ generates.session, noted rfl,
    (fallback _ failed).1 { skipAnalysis := true } rfl rfl Script.caller balkySession⟩
  rw [result, said]
  rfl

end PromptStudio
