import PromptStudio.Proofs.Prompt.Recommendations
import PromptStudio.Proofs.Spec.Canonical

set_option autoImplicit false

namespace PromptStudio

open PromptSpec

variable {choices : Entries Json} {tone format length : String}

structure Chooses (choices : Entries Json) (tone format length : String) : Prop where
  toneGiven : Entries.get? choices "tone" = some (.str tone)
  formatGiven : Entries.get? choices "format" = some (.str format)
  lengthGiven : Entries.get? choices "length" = some (.str length)
  others : ∀ key ∉ ["tone", "format", "length"], Entries.get? choices key = none
  named : tone ≠ "" ∧ format ≠ "" ∧ length ≠ ""

def choicePatch (tone format length : String) : Section :=
  [("inferred", .obj [("tone", .str tone), ("format", .str format)]),
    ("constraints", .obj [("length", .str length)])]

theorem choicePatch_partsOnly (tone format length : String) :
    PartsOnly (choicePatch tone format length) := ⟨rfl, rfl, rfl⟩

theorem overrideUpdates_chooses (chooses : Chooses choices tone format length) :
    overrideUpdates choices = .ok (choicePatch tone format length) := by
  obtain ⟨toneGiven, formatGiven, lengthGiven, others, toneNamed, formatNamed, lengthNamed⟩ :=
    chooses
  have given {key text : String} (found : Entries.get? choices key = some (.str text))
      (named : text ≠ "") : chosen choices key = some (.str text) := by
    simp [chosen, found, named]
  have absent {key : String} (other : key ∉ ["tone", "format", "length"]) :
      chosen choices key = none := by
    simp [chosen, others key other]
  have intent : chosen choices "intent" = none := absent (by decide)
  have audience : chosen choices "audience" = none := absent (by decide)
  have context : chosen choices "context" = none := absent (by decide)
  have quality : chosen choices "quality" = none := absent (by decide)
  have constraints : chosen choices "constraints" = none := absent (by decide)
  have own : chosen choices "type_specific" = none := absent (by decide)
  have camel : chosen choices "typeSpecific" = none := absent (by decide)
  simp [overrideUpdates, chosenUnder, given toneGiven toneNamed, given formatGiven formatNamed,
    given lengthGiven lengthNamed, intent, audience, context, quality, constraints, own, camel,
    part, choicePatch]

namespace PromptSpec

variable {s r : PromptSpec}

/-- The spec with other settings for tone, format and length, as far as a prompt shows it. -/
structure Restyled (s r : PromptSpec) (tone format length : String) : Prop where
  outputType : r.outputType = s.outputType
  intent : r.intent = s.intent
  audience : r.audience = s.audience
  quality : r.quality = s.quality
  typeSpecific : r.typeSpecific = s.typeSpecific
  style : r.toneAndStyle = styleOf tone format length

theorem textOr_of_get? {part : Section} {key text : String} (fallback : String)
    (found : Entries.get? part key = some (.str text)) (named : text ≠ "") :
    Section.textOr part key fallback = text := by
  simp [Section.textOr, Section.text, Section.value, found, Json.asText?, named]

theorem settings_of_mergePatch (filled : s.Filled)
    (merged : s.mergePatch (choicePatch tone format length) = .ok r) :
    Entries.get? r.inferred "tone" = some (.str tone) ∧
      Entries.get? r.inferred "format" = some (.str format) ∧
      Entries.get? r.constraints "length" = some (.str length) := by
  have inferred : ∀ part ∈ updatesFor (choicePatch tone format length) "inferred",
      (Entries.keys part).Nodup := by
    rintro part ⟨⟩
    simp [Entries.keys]
  have constraints : ∀ part ∈ updatesFor (choicePatch tone format length) "constraints",
      (Entries.keys part).Nodup := by
    rintro part ⟨⟩
    simp [Entries.keys]
  have held : Entries.get? r.constraints "length" =
      (textField "length" "medium").updated s.constraints [("length", .str length)] := by
    change Entries.get? (r.shared .constraints) (textField "length" "medium").name = _
    rw [shared_of_mergePatch filled merged]
    exact filled.get?_shared .constraints constraints (.head _)
  exact ⟨inferred_merged filled inferred merged (.head _) (by decide) rfl,
    inferred_merged filled inferred merged (.tail _ (.head _)) (by decide) rfl, held⟩

theorem restyled_of_mergePatch (filled : s.Filled)
    (named : tone ≠ "" ∧ format ≠ "" ∧ length ≠ "")
    (merged : s.mergePatch (choicePatch tone format length) = .ok r) :
    s.Restyled r tone format length := by
  have shared := shared_of_mergePatch filled merged
  obtain ⟨toneHeld, formatHeld, lengthHeld⟩ := settings_of_mergePatch filled merged
  have kept := (choicePatch_partsOnly tone format length).kept s
  constructor
  case outputType => exact ofOption_str_inj.mp ((tag_of_mergePatch merged).trans kept)
  case intent => exact shared .intent
  case audience => exact shared .audience
  case quality => exact shared .quality
  case typeSpecific => exact typeSpecific_of_mergePatch filled kept merged
  case style =>
    unfold toneAndStyle
    rw [textOr_of_get? _ toneHeld named.1, textOr_of_get? _ formatHeld named.2.1,
      textOr_of_get? _ lengthHeld named.2.2]
    rfl

theorem override_chooses (filled : s.Filled) (chooses : Chooses choices tone format length) :
    ∃ r, s.override (.obj choices) = .ok r ∧ r.Filled ∧ s.Restyled r tone format length := by
  have parts := choicePatch_partsOnly tone format length
  obtain ⟨r, merged⟩ := mergePatch_ok_of_kept filled parts.plain (parts.kept s)
  refine ⟨r, ?_, filled_of_mergePatch merged, restyled_of_mergePatch filled chooses.named merged⟩
  cases choices with
  | nil => exact nomatch chooses.toneGiven
  | cons entry rest =>
    have opened : s.override (.obj (entry :: rest)) =
        overrideUpdates (entry :: rest) >>= fun updates => (s.mergePatch updates).toOutcome := rfl
    rw [opened, overrideUpdates_chooses chooses]
    exact congrArg Checked.toOutcome merged

theorem Restyled.partsBefore (restyled : s.Restyled r tone format length) :
    r.partsBefore = s.partsBefore := by
  have criteria : r.criteriaPart = s.criteriaPart := by
    unfold criteriaPart
    rw [restyled.intent]
  have audience : r.audiencePart = s.audiencePart := by
    unfold audiencePart
    rw [restyled.audience]
  rw [PromptSpec.partsBefore, restyled.intent, criteria, audience, PromptSpec.partsBefore]

theorem Restyled.promptWith (restyled : s.Restyled r tone format length) (style own : String) :
    r.promptWith style own = s.promptWith style own := by
  have content : r.contentRequirements = s.contentRequirements := by
    unfold contentRequirements
    rw [restyled.quality]
  rw [PromptSpec.promptWith, restyled.partsBefore, partsAfter, content, ← partsAfter,
    ← PromptSpec.promptWith]

theorem Restyled.ownInstructions (restyled : s.Restyled r tone format length) :
    r.ownInstructions = s.ownInstructions := by
  rw [PromptSpec.ownInstructions, restyled.outputType, restyled.typeSpecific,
    PromptSpec.ownInstructions]

end PromptSpec

section Runs

variable {r : Request} {ask : Caller} {options : PipelineOptions} {now : Moment}
  {s s₁ : Session} {plain spec : PromptSpec}

theorem firstSpec_filled (r : Request) (ask : Caller) (options : PipelineOptions) (now : Moment)
    (existing : ∀ spec, options.existing = some spec → spec.Filled) (s : Session) :
    ∃ spec s₁, firstSpec r ask options now s = (.ok spec, s₁) ∧ spec.Filled := by
  unfold firstSpec
  cases given : options.existing with
  | some spec => exact ⟨spec, s, rfl, existing spec given⟩
  | none =>
    by_cases skip : options.skipAnalysis = true
    case pos =>
      obtain ⟨spec, basic, ready, -⟩ := basicSpec_ready r now
      refine ⟨spec, s, ?_, ready.filled⟩
      simp only [skip, if_true]
      rw [Run.of_apply, basic]
    case neg =>
      obtain ⟨prompt, written⟩ := analysisPrompt_ok r
      simp only [skip]
      refine (?_ : ∃ spec s₁, analyze r ask options.analysisTemperature now s = (.ok spec, s₁) ∧
        spec.Filled)
      obtain ⟨spec, made, ready⟩ :=
        specOfAnswer_made r now (analysisAnswer ask prompt options.analysisTemperature s).1
      rw [analyze_apply written]
      exact ⟨spec, _, Prod.ext made rfl, ready.filled⟩

/-- From `s` on, a run sends this prompt for the spec and nothing else: its answer is the result. -/
def SendsPrompt (run : Outcome PipelineResult × Session) (ask : Caller) (temperature : Binary64)
    (spec : PromptSpec) (prompt : String) (s : Session) : Prop :=
  ∃ v, spec.validate = .ok v ∧
    run = ((generationOfAnswer (generationAnswer ask prompt temperature s).1).map
        fun generation => ⟨spec, generation, v⟩,
      (generationAnswer ask prompt temperature s).2)

theorem runPipeline_sends {prompt : String}
    (first : firstSpec r ask options now s = (.ok plain, s₁))
    (overridden : plain.override (.obj options.overrides) = .ok spec) (filled : spec.Filled)
    (written : spec.generationPrompt = .ok prompt) :
    SendsPrompt (runPipeline r ask options now s) ask options.generationTemperature spec prompt
      s₁ := by
  obtain ⟨v, validated⟩ : ∃ v, spec.validate = .ok v := ⟨_, filled.validate⟩
  refine ⟨v, validated, ?_⟩
  have chosen : Run.of (plain.override (.obj options.overrides)) s₁ = (.ok spec, s₁) := by
    rw [Run.of_apply, overridden]
  have checked : Run.of spec.validate s₁ = (.ok v, s₁) := by rw [Run.of_apply, validated]
  refine (Run.bind_of_ok first).trans ((Run.bind_of_ok chosen).trans
    ((Run.bind_of_ok checked).trans ?_))
  rw [Run.bind_apply, generate_answered written]
  cases generationOfAnswer
    (generationAnswer ask prompt options.generationTemperature s₁).1 <;> rfl

end Runs

-- Both runs come to the same first spec, and from there ask for the same prompt but for the one
-- section.
theorem runPipeline_overrides (r : Request) (ask : Caller) (options : PipelineOptions)
    (now : Moment) (s : Session)
    (existing : ∀ spec, options.existing = some spec →
      (∃ raw, PromptSpec.load raw = .ok spec) ∧
        Entries.get? spec.typeSpecific "output_type" = some spec.tag)
    (choices : Entries Json) (tone format length : String)
    (chooses : Chooses choices tone format length) :
    ∃ plain chosen s₁ own,
      firstSpec r ask options now s = (.ok plain, s₁) ∧ plain.ownInstructions = .ok own ∧
      SendsPrompt (runPipeline r ask { options with overrides := [] } now s) ask
        options.generationTemperature plain (plain.promptWith plain.toneAndStyle own) s₁ ∧
      SendsPrompt (runPipeline r ask { options with overrides := choices } now s) ask
        options.generationTemperature chosen
        (plain.promptWith (styleOf tone format length) own) s₁ := by
  have filled (spec : PromptSpec) (given : options.existing = some spec) : spec.Filled := by
    obtain ⟨⟨raw, loaded⟩, tag⟩ := existing spec given
    exact filled_of_load loaded tag
  obtain ⟨plain, s₁, first, filled⟩ := firstSpec_filled r ask options now filled s
  obtain ⟨chosen, overridden, refilled, restyled⟩ := override_chooses filled chooses
  obtain ⟨own, written⟩ := filled.to_tagged.ownInstructions
  have prompt := generationPrompt_with (restyled.ownInstructions.trans written)
  rw [restyled.promptWith, restyled.style] at prompt
  exact ⟨plain, chosen, s₁, own, first, written,
    runPipeline_sends first rfl filled (generationPrompt_with written),
    runPipeline_sends first overridden refilled prompt⟩

def warmShort : Entries Json :=
  [("length", .str "short"), ("tone", .str "warm"), ("format", .str "email")]

theorem warmShort_chooses : Chooses warmShort "warm" "email" "short" := by
  constructor
  case others =>
    intro key other
    simp only [List.mem_cons, List.not_mem_nil, or_false, not_or] at other
    simp [warmShort, Entries.get?_cons, other]
  case named => decide
  all_goals rfl

theorem runPipeline_warmShort :
    ∃ spec, PromptSpec.load outlinedDoc = .ok spec ∧
      Entries.get? spec.typeSpecific "output_type" = some spec.tag ∧
      ∃ plain chosen s₁ own,
        firstSpec talkRequest (answering winningReply) { existing := some spec } newYear {} =
          (.ok plain, s₁) ∧ plain.ownInstructions = .ok own ∧
        SendsPrompt (runPipeline talkRequest (answering winningReply) { existing := some spec }
          newYear {}) (answering winningReply) Role.generation.temperature plain
          (plain.promptWith plain.toneAndStyle own) s₁ ∧
        SendsPrompt (runPipeline talkRequest (answering winningReply)
          { existing := some spec, overrides := warmShort } newYear {}) (answering winningReply)
          Role.generation.temperature chosen
          (plain.promptWith (styleOf "warm" "email" "short") own) s₁ := by
  obtain ⟨spec, loaded, tag⟩ : ∃ spec, PromptSpec.load outlinedDoc = .ok spec ∧
      Entries.get? spec.typeSpecific "output_type" = some spec.tag := ⟨_, rfl, rfl⟩
  have existing : ∀ held, some spec = some held → (∃ raw, PromptSpec.load raw = .ok held) ∧
      Entries.get? held.typeSpecific "output_type" = some held.tag := by
    rintro held ⟨⟩
    exact ⟨⟨outlinedDoc, loaded⟩, tag⟩
  exact ⟨spec, loaded, tag, runPipeline_overrides talkRequest (answering winningReply)
    { existing := some spec } newYear {} existing warmShort "warm" "email" "short"
    warmShort_chooses⟩

end PromptStudio
