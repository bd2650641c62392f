import PromptStudio.Pipeline.Pipeline
import PromptStudio.Proofs.Session.Runs
import PromptStudio.Proofs.Spec.Readiness

set_option autoImplicit false

namespace PromptStudio

open PromptSpec

theorem PromptSpec.Ready.withAdvice {t : OutputType} {s r : PromptSpec} (ready : s.Ready t)
    {provided : Section} (advised : s.withAdvice provided = .ok r) : r.Ready t ∧ r.goal = s.goal := by
  obtain ⟨gaps, -, advised⟩ := Outcome.bind_eq_ok.mp advised
  split at advised
  next =>
    injection advised with same
    exact same ▸ ⟨ready, rfl⟩
  next =>
    have merged := Checked.toOutcome_eq_ok_iff.mp advised
    have parts : PartsOnly [("type_specific", .obj gaps)] := ⟨rfl, rfl, rfl⟩
    have absent : updatesFor [("type_specific", .obj gaps)] "intent" = none := rfl
    have kept := goal_merged ready.filled (by simp [absent]) merged
    exact ⟨ready.merged parts merged, by simpa [absent] using kept⟩

variable {r : Request} {now : Moment} {analysis : Section} {spec : PromptSpec}

theorem basicSpec_ready (r : Request) (now : Moment) :
    ∃ spec, r.basicSpec now = .ok spec ∧ spec.Ready r.outputType ∧ spec.goal = r.userInput := by
  have ready := ready_ofType r.outputType
  let patch : Section := [("intent", .obj [("primary_goal", .str r.userInput)])]
  have parts : PartsOnly patch := ⟨rfl, rfl, rfl⟩
  obtain ⟨merged, ok⟩ := mergePatch_ok_of_kept ready.filled parts.plain (parts.kept _)
  have given : updatesFor patch "intent" = some [("primary_goal", .str r.userInput)] := rfl
  have goal : merged.goal = r.userInput := by
    simpa [given, Entries.get?_cons, Json.asText?] using
      goal_merged ready.filled (by simp [given, Entries.keys]) ok
  exact ⟨_, mergeAt_eq_ok_iff.mpr ⟨merged, ok, rfl⟩, (ready.merged parts ok).at now, goal⟩

def chosenGoal (analysis : Section) (r : Request) : Json :=
  valueOr (analysisPart analysis "intent") "primary_goal" (.str r.userInput)

theorem specOfAnalysis_ready (made : specOfAnalysis analysis r now = .ok spec) :
    spec.Ready r.outputType ∧ spec.goal = (chosenGoal analysis r).asText?.getD "" := by
  have ready := ready_ofType r.outputType
  have parts : PartsOnly (analysisUpdates analysis r) := ⟨rfl, rfl, rfl⟩
  obtain ⟨merged, ok⟩ := mergePatch_ok_of_kept ready.filled parts.plain (parts.kept _)
  have dated : (ofType (some r.outputType.name)).mergeAt now (analysisUpdates analysis r) =
      .ok { merged with generatedAt := some now } := mergeAt_eq_ok_iff.mpr ⟨merged, ok, rfl⟩
  rw [specOfAnalysis, dated] at made
  obtain ⟨advised, same⟩ := ((ready.merged parts ok).at now).withAdvice made
  refine ⟨advised, same.trans ?_⟩
  have names : ∀ part ∈ updatesFor (analysisUpdates analysis r) "intent",
      (Entries.keys part).Nodup := by
    rintro part ⟨⟩
    simp [Entries.keys]
  have held := goal_merged ready.filled names ok
  exact held

/-- The reply makes a spec, but the goal that it gives counts as one and is no text. -/
def GoalLost (r : Request) (now : Moment) (reply : Json) : Prop :=
  ∃ analysis spec, analysisOf reply = .ok analysis ∧ specOfAnalysis analysis r now = .ok spec ∧
    (Section.value (analysisPart analysis "intent") "primary_goal").truthy = true ∧
    (Section.value (analysisPart analysis "intent") "primary_goal").asText? = none

theorem chosenGoal_blank_iff (asked : r.userInput ≠ "") :
    (chosenGoal analysis r).asText?.getD "" = "" ↔
      (Section.value (analysisPart analysis "intent") "primary_goal").truthy = true ∧
      (Section.value (analysisPart analysis "intent") "primary_goal").asText? = none := by
  unfold chosenGoal valueOr
  generalize Section.value (analysisPart analysis "intent") "primary_goal" = v
  by_cases counts : v.truthy = true
  next =>
    rw [if_pos counts]
    cases v <;> simp_all [Json.asText?]
  next =>
    rw [if_neg counts]
    simp [Json.asText?, asked, counts]

theorem specOfReply_ready (asked : r.userInput ≠ "") (reply : Json) (now : Moment) :
    ∃ spec, specOfReply reply r now = .ok spec ∧ spec.Ready r.outputType ∧
      (spec.goal = "" ↔ GoalLost r now reply) := by
  cases made : (analysisOf reply).bind fun analysis => specOfAnalysis analysis r now with
  | error f =>
    obtain ⟨spec, basic, ready, goal⟩ := basicSpec_ready r now
    have used : specOfReply reply r now = .ok spec := by
      rw [specOfReply, made]
      exact basic
    refine ⟨spec, used, ready, fun blank => absurd (goal.symm.trans blank) asked, ?_⟩
    rintro ⟨analysis, other, read, analysed, -⟩
    have whole : ((analysisOf reply).bind fun analysis => specOfAnalysis analysis r now) =
        .ok other := Outcome.bind_eq_ok.mpr ⟨analysis, read, analysed⟩
    exact nomatch made.symm.trans whole
  | ok spec =>
    have used : specOfReply reply r now = .ok spec := by rw [specOfReply, made]
    obtain ⟨analysis, read, analysed⟩ := Outcome.bind_eq_ok.mp made
    obtain ⟨ready, goal⟩ := specOfAnalysis_ready analysed
    refine ⟨spec, used, ready, ?_⟩
    rw [goal, chosenGoal_blank_iff asked]
    constructor
    · exact fun lost => ⟨analysis, spec, read, analysed, lost⟩
    · rintro ⟨other, -, found, -, lost⟩
      obtain rfl : analysis = other := by injection read.symm.trans found
      exact lost

def specOfAnswer (r : Request) (now : Moment) : Outcome Json → Outcome PromptSpec
  | .ok reply => specOfReply reply r now
  | .error _ => r.basicSpec now

theorem specOfAnswer_made (r : Request) (now : Moment) (answer : Outcome Json) :
    ∃ spec, specOfAnswer r now answer = .ok spec ∧ spec.Ready r.outputType := by
  obtain ⟨basic, fallback, basicReady, -⟩ := basicSpec_ready r now
  cases answer with
  | error f => exact ⟨basic, fallback, basicReady⟩
  | ok reply =>
    rw [specOfAnswer, specOfReply]
    split
    next spec made =>
      obtain ⟨analysis, -, analysed⟩ := Outcome.bind_eq_ok.mp made
      exact ⟨spec, rfl, (specOfAnalysis_ready analysed).1⟩
    next => exact ⟨basic, fallback, basicReady⟩

theorem specOfAnswer_ready (asked : r.userInput ≠ "") (answer : Outcome Json) (now : Moment) :
    ∃ spec, specOfAnswer r now answer = .ok spec ∧ spec.Ready r.outputType ∧
      (spec.goal ≠ "" ↔ ∀ reply, answer = .ok reply → ¬GoalLost r now reply) := by
  cases answer with
  | error f =>
    obtain ⟨spec, basic, ready, goal⟩ := basicSpec_ready r now
    refine ⟨spec, basic, ready, ?_⟩
    simp [goal, asked]
  | ok reply =>
    obtain ⟨spec, made, ready, blank⟩ := specOfReply_ready asked reply now
    refine ⟨spec, made, ready, ?_⟩
    simp [blank]

theorem analysisPrompt_ok (r : Request) : ∃ prompt, r.analysisPrompt = .ok prompt := by
  obtain ⟨input, notes, outputType⟩ := r
  cases outputType <;> exact ⟨_, rfl⟩

variable {ask : Caller} {temperature : Binary64} {s : Session}

def analysisAnswer (ask : Caller) (prompt : String) (temperature : Binary64) (s : Session) :
    Outcome Json × Session :=
  ask prompt analysisPersona (some (.float temperature)) s

theorem analyze_apply {prompt : String} (written : r.analysisPrompt = .ok prompt) :
    analyze r ask temperature now s =
      (specOfAnswer r now (analysisAnswer ask prompt temperature s).1,
        (analysisAnswer ask prompt temperature s).2) := by
  have prompted : Run.of r.analysisPrompt s = (.ok prompt, s) := by rw [Run.of_apply, written]
  have answered := Run.outcome_apply (ask prompt analysisPersona (some (.float temperature))) s
  refine (Run.bind_of_ok prompted).trans ((Run.bind_of_ok answered).trans ?_)
  change _ = (specOfAnswer r now (ask prompt analysisPersona (some (.float temperature)) s).1,
    (ask prompt analysisPersona (some (.float temperature)) s).2)
  cases (ask prompt analysisPersona (some (.float temperature)) s).1 <;> rfl

theorem analyze_valid_iff (r : Request) (asked : r.userInput ≠ "") (ask : Caller)
    (temperature : Binary64) (now : Moment) (s : Session) :
    ∃ prompt spec v, r.analysisPrompt = .ok prompt ∧
      analyze r ask temperature now s = (.ok spec, (analysisAnswer ask prompt temperature s).2) ∧
      spec.outputType = some r.outputType.name ∧ spec.variant? = some r.outputType ∧
      spec.Tagged ∧ spec.validate = .ok v ∧ (v.valid = true ↔ spec.goal ≠ "") ∧
      (v.valid = true ↔ ∀ reply,
        (analysisAnswer ask prompt temperature s).1 = .ok reply → ¬GoalLost r now reply) := by
  obtain ⟨prompt, written⟩ := analysisPrompt_ok r
  obtain ⟨spec, made, ready, kept⟩ :=
    specOfAnswer_ready asked (analysisAnswer ask prompt temperature s).1 now
  obtain ⟨v, validated, valid⟩ := ready.validate
  exact ⟨prompt, spec, v, written, by rw [analyze_apply written, made], ready.outputType,
    ready.variant, ready.filled.to_tagged, validated, valid, valid.trans kept⟩

def talkRequest : Request := { userInput := "a talk" }

def answering (reply : Json) : Caller := fun _ _ _ => pure reply

def winningReply : Json :=
  .obj [("intent", .obj [("primary_goal", .str "Win"), ("urgency", .int 3)]),
    ("audience", .str "everyone")]

theorem analyze_winningReply :
    talkRequest.userInput ≠ "" ∧
      ∃ spec v s', analyze talkRequest (answering winningReply) Role.analysis.temperature
          ⟨2026, 1, 1, 0, 0, 0, 0, none⟩ {} = (.ok spec, s') ∧
        spec.variant? = some .doc ∧ spec.validate = .ok v ∧ v.valid = true := by
  have asked : talkRequest.userInput ≠ "" := by decide
  obtain ⟨prompt, spec, v, -, run, -, variant, -, validated, -, valid⟩ :=
    analyze_valid_iff talkRequest asked (answering winningReply) Role.analysis.temperature
      ⟨2026, 1, 1, 0, 0, 0, 0, none⟩ {}
  refine ⟨asked, spec, v, _, run, variant, validated, valid.mpr ?_⟩
  rintro reply ⟨⟩ ⟨analysis, _, ⟨⟩, -, -, lost⟩
  exact nomatch lost

def numberedGoal : Json := .obj [("intent", .obj [("primary_goal", .int 5)])]

theorem analyze_numberedGoal :
    ∃ spec v s', analyze talkRequest (answering numberedGoal) Role.analysis.temperature
        ⟨2026, 1, 1, 0, 0, 0, 0, none⟩ {} = (.ok spec, s') ∧
      spec.outputType = some "doc" ∧ spec.goal = "" ∧ spec.validate = .ok v ∧
      v.errors = ["Missing intent.primary_goal"] ∧ v.valid = false :=
  ⟨_, _, _, rfl, rfl, rfl, rfl, rfl, rfl⟩

end PromptStudio
