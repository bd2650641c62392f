import PromptStudio.Proofs.Prompt.Analysis
import PromptStudio.Proofs.Prompt.Generation
import PromptStudio.Proofs.Reply.Written

set_option autoImplicit false

namespace PromptStudio

namespace Generation

variable {v : Json} {text : String}

/-- A list, or an object without an expanded prompt that counts. -/
structure Promptless (v : Json) : Prop where
  container : v.Container
  bare : expected? v = none

theorem decodeReply_container (container : v.Container) : decodeReply v = .ok v := by
  rcases container with ⟨items, rfl⟩ | ⟨fields, rfl⟩ <;> rfl

theorem ofReply_promptless (promptless : Promptless v) :
    ofReply v = .ok { expandedPrompt := v.write .exchange } := by
  obtain ⟨container, bare⟩ := promptless
  have parted : v.isAtom = false := by
    rcases container with ⟨items, rfl⟩ | ⟨fields, rfl⟩ <;> rfl
  rw [ofReply_parted parted, bare]
  rcases container with ⟨items, rfl⟩ | ⟨fields, rfl⟩ <;> rfl

theorem ofReply_promptlessText (decoded : decodeText text = .ok v) (promptless : Promptless v) :
    ofReply (.str text) = .ok { expandedPrompt := text } := by
  have same : expected? (.str text) = expected? v := by
    rw [expected?, decodeReply, decoded, expected?, decodeReply_container promptless.container]
  rw [ofReply_parted rfl, same, promptless.bare]
  rfl

end Generation

open Generation

variable {spec : PromptSpec} {ask : Caller} {settings : Settings} {model : String}
  {credentials v : Json} {options : CallerOptions} {prompt text : String} {temperature : Binary64}
  {s s' : Session}

def promptCall (settings : Settings) (model : String) (credentials : Json)
    (options : CallerOptions) (prompt : String) (temperature : Binary64) : Run String :=
  callModel settings model prompt generationPersona credentials
    { jsonMode := options.jsonMode
      temperature := .float temperature
      cancellation := options.cancellation }

theorem generationAnswer_modelCaller
    (called : promptCall settings model credentials options prompt temperature s =
      (.ok text, s')) :
    generationAnswer (modelCaller settings model credentials options) prompt temperature s =
      (.ok (if options.jsonMode then decodedOrText text else .str text), s') := by
  have asked : modelCaller settings model credentials options prompt generationPersona
      (some (.float temperature)) =
        promptCall settings model credentials options prompt temperature >>= fun text =>
          pure (if options.jsonMode then decodedOrText text else .str text) := rfl
  rw [generationAnswer, asked]
  exact Run.bind_of_ok called

theorem generate_passed (written : spec.generationPrompt = .ok prompt)
    (decoded : decodeText text = .ok v) (promptless : Promptless v)
    (answered : generationAnswer ask prompt temperature s = (.ok (.str text), s')) :
    generate spec ask temperature s = (.ok { expandedPrompt := text }, s') := by
  rw [generate_answered written, answered]
  exact congrArg (·, s') (ofReply_promptlessText decoded promptless)

theorem generate_decoded (written : spec.generationPrompt = .ok prompt)
    (decoded : decodeText text = .ok v) (promptless : Promptless v)
    (decoding : options.jsonMode = true)
    (called : promptCall settings model credentials options prompt temperature s =
      (.ok text, s')) :
    generate spec (modelCaller settings model credentials options) temperature s =
      (.ok { expandedPrompt := v.write .exchange }, s') := by
  have answered := generationAnswer_modelCaller called
  rw [decoding, if_pos rfl, decodedOrText, decoded] at answered
  rw [generate_answered written, answered]
  exact congrArg (·, s') (ofReply_promptless promptless)

theorem generate_promptless (text : String) (v : Json) (decoded : decodeText text = .ok v)
    (promptless : Promptless v) (spec : PromptSpec) (prompt : String)
    (written : spec.generationPrompt = .ok prompt) :
    (∀ (ask : Caller) (temperature : Binary64) (s s' : Session),
      generationAnswer ask prompt temperature s = (.ok (.str text), s') →
        generate spec ask temperature s = (.ok { expandedPrompt := text }, s')) ∧
    (∀ (settings : Settings) (model : String) (credentials : Json) (options : CallerOptions)
        (temperature : Binary64) (s s' : Session),
      promptCall settings model credentials options prompt temperature s = (.ok text, s') →
        generate spec (modelCaller settings model credentials options) temperature s =
          (.ok { expandedPrompt := if options.jsonMode then v.write .exchange else text }, s')) ∧
    (v.Portable → v.Unfenced → decodeText (v.write .exchange) = .ok v) ∧
    ∀ w : Json, w.Container → w.Portable → w.Unfenced → text = w.write .exchange →
      v.write .exchange = text := by
  refine ⟨fun _ _ _ _ => generate_passed written decoded promptless, ?_, ?_, ?_⟩
  · intro settings model credentials options temperature s s' called
    cases mode : options.jsonMode with
    | false =>
      have answered := generationAnswer_modelCaller called
      rw [mode] at answered
      exact generate_passed written decoded promptless answered
    | true => exact generate_decoded written decoded promptless mode called
  · exact decodeText_written Json.Style.exchange_plain promptless.container
  · rintro w container portable unfenced rfl
    have again := decodeText_written Json.Style.exchange_plain container portable unfenced
    obtain rfl : v = w := Except.ok.inj (decoded.symm.trans again)
    rfl

section Witnesses

theorem outlinedDoc_prompt :
    ∃ spec prompt, PromptSpec.load outlinedDoc = .ok spec ∧
      spec.generationPrompt = .ok prompt := by
  obtain ⟨spec, loaded, tag⟩ : ∃ spec, PromptSpec.load outlinedDoc = .ok spec ∧
      Entries.get? spec.typeSpecific "output_type" = some spec.tag := ⟨_, rfl, rfl⟩
  obtain ⟨prompt, written⟩ := (PromptSpec.tagged_of_load loaded tag).generationPrompt
  exact ⟨spec, prompt, loaded, written⟩

theorem promptCall_replied (text prompt : String) :
    ∃ s', promptCall {} "gpt-4o" openKey {} prompt Role.generation.temperature
      (repliedSession text) = (.ok text, s') := by
  have replied := generationCall_replied text prompt
  cases called : generationCall {} "gpt-4o" openKey {} prompt Role.generation.temperature
    (repliedSession text) with
  | mk answer later =>
    rw [called] at replied
    obtain rfl : answer = .ok text := replied
    exact ⟨later, called⟩

def stepsObject : Json := .obj [("steps", .arr [.str "Plan", .str "Write"])]

theorem stepsObject_promptless : Promptless stepsObject := ⟨.inr ⟨_, rfl⟩, rfl⟩

theorem decodeText_steps {style : Json.Style} (plain : style.Plain) :
    decodeText (stepsObject.write style) = .ok stepsObject := by
  have portable : stepsObject.Portable := by
    simp [stepsObject, Json.Portable, Json.FieldsPortable, Json.ItemsPortable, Entries.keys]
  have first : occursIn fence "Plan".toList = false := by decide
  have second : occursIn fence "Write".toList = false := by decide
  have unfenced : stepsObject.Unfenced := ⟨by decide, ⟨first, second, trivial⟩, trivial⟩
  exact decodeText_written plain (.inr ⟨_, rfl⟩) portable unfenced

theorem generate_stepsObject :
    ∃ spec s s', PromptSpec.load outlinedDoc = .ok spec ∧
      generate spec (answering (.str (stepsObject.write .exchange))) Role.generation.temperature
          {} = (.ok { expandedPrompt := stepsObject.write .exchange }, s) ∧
      generate spec (modelCaller {} "gpt-4o" openKey {}) Role.generation.temperature
          (repliedSession (stepsObject.write .exchange)) =
        (.ok { expandedPrompt := stepsObject.write .exchange }, s') := by
  obtain ⟨spec, prompt, loaded, written⟩ := outlinedDoc_prompt
  obtain ⟨passed, called, -⟩ := generate_promptless (stepsObject.write .exchange) stepsObject
    (decodeText_steps Json.Style.exchange_plain) stepsObject_promptless spec prompt written
  obtain ⟨s', replied⟩ := promptCall_replied (stepsObject.write .exchange) prompt
  exact ⟨spec, {}, s', loaded, passed _ _ _ _ rfl, called _ _ _ _ _ _ _ replied⟩

theorem generate_tightSteps :
    ∃ spec s s', PromptSpec.load outlinedDoc = .ok spec ∧
      decodeText "\x7b\"steps\":[\"Plan\",\"Write\"]\x7d" = .ok stepsObject ∧
      generate spec (answering (.str "\x7b\"steps\":[\"Plan\",\"Write\"]\x7d"))
          Role.generation.temperature {} =
        (.ok { expandedPrompt := "\x7b\"steps\":[\"Plan\",\"Write\"]\x7d" }, s) ∧
      generate spec (modelCaller {} "gpt-4o" openKey {}) Role.generation.temperature
          (repliedSession "\x7b\"steps\":[\"Plan\",\"Write\"]\x7d") =
        (.ok { expandedPrompt := "\x7b\"steps\": [\"Plan\", \"Write\"]\x7d" }, s') := by
  have respaced (tight wide : String) (first : stepsObject.write .compact = tight)
      (second : stepsObject.write .exchange = wide) :
      ∃ spec s s', PromptSpec.load outlinedDoc = .ok spec ∧
        decodeText tight = .ok stepsObject ∧
        generate spec (answering (.str tight)) Role.generation.temperature {} =
          (.ok { expandedPrompt := tight }, s) ∧
        generate spec (modelCaller {} "gpt-4o" openKey {}) Role.generation.temperature
          (repliedSession tight) = (.ok { expandedPrompt := wide }, s') := by
    have decoded : decodeText tight = .ok stepsObject :=
      first ▸ decodeText_steps Json.Style.compact_plain
    obtain ⟨spec, prompt, loaded, written⟩ := outlinedDoc_prompt
    obtain ⟨s', replied⟩ := promptCall_replied tight prompt
    exact ⟨spec, {}, s', loaded, decoded,
      generate_passed written decoded stepsObject_promptless rfl,
      second ▸ generate_decoded written decoded stepsObject_promptless rfl replied⟩
  exact respaced _ _ (by decide +kernel) (by decide +kernel)

end Witnesses

end PromptStudio
