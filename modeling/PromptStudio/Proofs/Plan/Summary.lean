import PromptStudio.Proofs.Plan.Preference

set_option autoImplicit false

namespace PromptStudio

theorem noted_withNote {names lines : List String} (bare : String)
    (listed : List.Forall₂ NoteLine names lines) :
    Noted names bare (withNote bare (if names = [] then "" else "\n" ++ noteText lines)) := by
  by_cases nothing : names = []
  next =>
    rw [if_pos nothing]
    exact ⟨fun _ => rfl, fun listed => absurd nothing listed⟩
  next =>
    rw [if_neg nothing]
    exact ⟨fun empty => absurd empty nothing, fun _ => ⟨lines, listed, withNote_noteText bare lines⟩⟩

namespace PlanRequest

variable {r : PlanRequest} {key : String}

theorem mem_used_iff : key ∈ Entries.keys r.used ↔
    key ∈ revealedSettings r.inferred.outputType ∧ key ∈ Entries.keys (findings r.userInput) := by
  rw [← not_iff_not, ← Entries.get?_eq_none_iff, get?_used]
  by_cases revealed : key ∈ revealedSettings r.inferred.outputType <;>
    simp [revealed, Entries.get?_eq_none_iff]

theorem source_cases (distinct : (Entries.keys r.typeSpecific).Nodup) (key : String) :
    key ∈ Entries.keys (Choices.chosen r.typeSpecific) ∧
        Entries.get? r.inferred.choices.sources key = some .explicit ∨
      key ∉ Entries.keys (Choices.chosen r.typeSpecific) ∧ key ∈ Entries.keys r.used ∧
        Entries.get? r.inferred.choices.sources key = some .inferred ∨
      key ∉ Entries.keys (Choices.chosen r.typeSpecific) ∧ key ∉ Entries.keys r.used ∧
        Entries.get? r.inferred.choices.sources key = none := by
  have cases := Choices.source_cases distinct
    (r.used.map fun entry => (entry.1, Json.str entry.2.value)) key
  rwa [Entries.keys_mapValues r.used fun f => Json.str f.value] at cases

theorem sources_eq_values (r : PlanRequest) :
    Entries.keys r.inferred.choices.sources = Entries.keys r.inferred.choices.values :=
  Choices.sources_names _ _

theorem sources_names (r : PlanRequest) : (Entries.keys r.inferred.choices.sources).Nodup :=
  r.sources_eq_values ▸ values_names r

theorem noted_names (r : PlanRequest) : (Entries.keys r.inferred.noted).Nodup := by
  unfold InferenceSummary.noted
  split
  next => exact Entries.nodup_keys_overlay (by simp [Entries.keys]) _
  next => exact r.sources_names

theorem detected_names (r : PlanRequest) : r.inferred.detected.Nodup :=
  r.noted_names.sublist (List.filter_sublist.map _)

theorem mem_detected_iff_noted :
    key ∈ r.inferred.detected ↔ Entries.get? r.inferred.noted key = some .inferred := by
  rw [← Entries.mem_iff_get? r.noted_names]
  simp [InferenceSummary.detected, Entries.keys]

theorem free_iff : key ∉ Entries.keys (Choices.chosen r.typeSpecific) ↔
    ∀ v, (key, v) ∈ r.typeSpecific → Choices.isChoice v = false := by
  simp [Choices.mem_keys_chosen]

-- The entry for the output type comes first, so a source under the same name replaces it.
theorem mem_detected_iff (distinct : (Entries.keys r.typeSpecific).Nodup) :
    key ∈ r.inferred.detected ↔
      Entries.get? r.inferred.choices.sources key = some .inferred ∨
        (key = "output_type" ∧ r.inferred.outputTypeSource = .inferred ∧
          ∀ v, (key, v) ∈ r.typeSpecific → Choices.isChoice v = false) := by
  rw [mem_detected_iff_noted, InferenceSummary.noted, ← free_iff]
  by_cases guessed : r.inferred.outputTypeSource = .inferred
  next =>
    rw [if_pos guessed, Entries.get?_overlay _ _ r.sources_names]
    rcases source_cases distinct key with
      ⟨own, source⟩ | ⟨-, -, source⟩ | ⟨free, -, source⟩
    · simp [source, own]
    · simp [source]
    · by_cases named : key = "output_type"
      next =>
        subst named
        simp [source, Entries.get?_cons, guessed, free]
      next => simp [source, Entries.get?_cons, named]
  next => simp [guessed]

theorem confidence_names (r : PlanRequest) : (Entries.keys r.inferred.confidence).Nodup := by
  have used : (Entries.keys (r.used.map fun entry => (entry.1, entry.2.confidence))).Nodup := by
    rw [Entries.keys_mapValues r.used Finding.confidence]
    exact used_names r
  rw [confidence_eq]
  split
  next => exact Entries.nodup_keys_put used _ _
  next => exact used

theorem mem_confidence_iff : key ∈ Entries.keys r.inferred.confidence ↔
    key ∈ Entries.keys r.used ∨
      (key = "output_type" ∧ r.inferred.outputTypeSource = .inferred) := by
  rw [confidence_eq]
  split
  next guessed =>
    simp [Entries.mem_keys_put, Entries.keys_mapValues r.used Finding.confidence, guessed]
  next chosen => simp [Entries.keys_mapValues r.used Finding.confidence, chosen]

theorem planWithInference_completed (r : PlanRequest) (given : Registry) :
    ∃ other spec lines, r.completed r.inferred = .ok other ∧
      other.plan standardRegistry given = .ok (other.planFrom spec) ∧
        List.Forall₂ NoteLine r.inferred.detected lines ∧
          r.planWithInference standardRegistry given = .ok { other.planFrom spec with
            systemPrompt := withNote (other.planFrom spec).systemPrompt
              (if r.toggles.stripMeta ∨ r.inferred.detected = [] then "" else "\n" ++ noteText lines)
            inference := some r.inferred } := by
  obtain ⟨standard, completed⟩ := r.completed_ok r.inferred
  obtain ⟨spec, resolved⟩ := resolve_given given (some r.inferred.outputType)
  obtain ⟨lines, listed, note⟩ := noted_ok r
  refine ⟨_, spec, lines, completed, ?_, listed, planWithInference_eq completed resolved note⟩
  rw [plan, resolved]
  rfl

theorem eq_inferred {given : Registry} {p : Plan} {s : InferenceSummary}
    (planned : r.planWithInference standardRegistry given = .ok p)
    (summary : p.inference = some s) : s = r.inferred := by
  obtain ⟨_, _, _, -, -, -, known⟩ := r.planWithInference_completed given
  cases planned.symm.trans known
  cases summary
  rfl

theorem planWithInference_noted (r : PlanRequest) (given : Registry)
    (distinct : (Entries.keys r.typeSpecific).Nodup) (plain : r.toggles.stripMeta = false) :
    ∃ p s other q names, r.planWithInference standardRegistry given = .ok p ∧
      p.inference = some s ∧ r.completed s = .ok other ∧
        other.plan standardRegistry given = .ok q ∧
          Noted names q.systemPrompt p.systemPrompt ∧ names.Nodup ∧
            ∀ key, key ∈ names ↔
              Entries.get? s.choices.sources key = some .inferred ∨
                (key = "output_type" ∧ s.outputTypeSource = .inferred ∧
                  ∀ v, (key, v) ∈ r.typeSpecific → Choices.isChoice v = false) := by
  obtain ⟨other, spec, lines, completed, bare, listed, planned⟩ :=
    r.planWithInference_completed given
  simp only [plain, Bool.false_eq_true, false_or] at planned
  exact ⟨_, r.inferred, other, _, r.inferred.detected, planned, rfl, completed, bare,
    noted_withNote _ listed, r.detected_names, fun key => mem_detected_iff distinct⟩

def deckRequest : PlanRequest where
  userInput := "deck"

theorem outputTypeSource_deckRequest : deckRequest.inferred.outputTypeSource = .inferred := by
  decide +kernel

theorem planWithInference_deckRequest :
    (Entries.keys deckRequest.typeSpecific).Nodup ∧ deckRequest.toggles.stripMeta = false ∧
      ∃ p s other q names, deckRequest.planWithInference standardRegistry [] = .ok p ∧
        p.inference = some s ∧ deckRequest.completed s = .ok other ∧
          other.plan standardRegistry [] = .ok q ∧ Noted names q.systemPrompt p.systemPrompt ∧
            "output_type" ∈ names := by
  have distinct : (Entries.keys deckRequest.typeSpecific).Nodup := by decide
  obtain ⟨p, s, other, q, names, planned, summary, completed, bare, noted, -, listed⟩ :=
    deckRequest.planWithInference_noted [] distinct rfl
  obtain rfl := eq_inferred planned summary
  have guessed := outputTypeSource_deckRequest
  exact ⟨distinct, rfl, p, _, other, q, names, planned, summary, completed, bare, noted,
    (listed "output_type").mpr (.inr ⟨rfl, guessed, nofun⟩)⟩

def manualRequest : PlanRequest where
  userInput := "manual"
  typeSpecific := [("output_type", .str "memo")]

theorem planWithInference_manualRequest :
    ∃ p s other q, manualRequest.planWithInference standardRegistry [] = .ok p ∧
      p.inference = some s ∧ s.outputTypeSource = .inferred ∧
        manualRequest.completed s = .ok other ∧ other.plan standardRegistry [] = .ok q ∧
          p.systemPrompt = q.systemPrompt := by
  have settled : manualRequest.inferred.outputType = "doc" ∧
      manualRequest.inferred.outputTypeSource = .inferred := by
    decide +kernel
  have distinct : (Entries.keys manualRequest.typeSpecific).Nodup := by decide
  have nothing : manualRequest.inferred.detected = [] := by
    rw [List.eq_nil_iff_forall_not_mem]
    intro key listed
    rcases (mem_detected_iff distinct).mp listed with inferred | ⟨rfl, -, free⟩
    · rcases source_cases distinct key with ⟨-, source⟩ | ⟨-, used, -⟩ | ⟨-, -, source⟩
      · exact nomatch source.symm.trans inferred
      · have revealed := (mem_used_iff.mp used).1
        rw [settled.1] at revealed
        exact nomatch revealed
      · exact nomatch source.symm.trans inferred
    · exact absurd (free (.str "memo") (.head _)) (by decide)
  obtain ⟨other, spec, lines, completed, bare, -, planned⟩ :=
    manualRequest.planWithInference_completed []
  rw [if_pos (.inr nothing)] at planned
  exact ⟨_, _, other, _, planned, rfl, settled.2, completed, bare, rfl⟩

theorem planWithInference_measured (r : PlanRequest) (given : Registry)
    (distinct : (Entries.keys r.typeSpecific).Nodup) :
    ∃ p s, r.planWithInference standardRegistry given = .ok p ∧ p.inference = some s ∧
      Entries.keys s.choices.sources = Entries.keys s.choices.values ∧
        (Entries.keys s.choices.values).Nodup ∧ (Entries.keys s.confidence).Nodup ∧
          ∀ key, key ∈ Entries.keys s.confidence ↔
            Entries.get? s.choices.sources key = some .inferred ∨
              (key = "output_type" ∧ s.outputTypeSource = .inferred) ∨
                (Entries.get? s.choices.sources key = some .explicit ∧
                  key ∈ revealedSettings s.outputType ∧
                    key ∈ Entries.keys (findings r.userInput)) := by
  obtain ⟨_, _, _, -, -, -, planned⟩ := r.planWithInference_completed given
  refine ⟨_, r.inferred, planned, rfl, r.sources_eq_values, values_names r, r.confidence_names,
    fun key => ?_⟩
  rw [mem_confidence_iff, ← mem_used_iff]
  rcases source_cases distinct key with ⟨own, source⟩ | ⟨-, used, source⟩ | ⟨-, unused, source⟩
  · simp [source, or_comm]
  · simp [source, used]
  · simp [source, unused]

theorem planWithInference_deckMeasured :
    (Entries.keys deckRequest.typeSpecific).Nodup ∧
      ∃ p s, deckRequest.planWithInference standardRegistry [] = .ok p ∧ p.inference = some s ∧
        "output_type" ∈ Entries.keys s.confidence := by
  have distinct : (Entries.keys deckRequest.typeSpecific).Nodup := by decide
  obtain ⟨p, s, planned, summary, -, -, -, measured⟩ :=
    deckRequest.planWithInference_measured [] distinct
  obtain rfl := eq_inferred planned summary
  have guessed := outputTypeSource_deckRequest
  exact ⟨distinct, p, _, planned, summary, (measured "output_type").mpr (.inr (.inl ⟨rfl, guessed⟩))⟩

theorem confidence_pitchRequest :
    ∃ p s, pitchRequest.planWithInference standardRegistry [] = .ok p ∧ p.inference = some s ∧
      s.outputTypeSource = .explicit ∧
        Entries.get? s.choices.sources "deck_type" = some .explicit ∧
          "deck_type" ∈ Entries.keys s.confidence := by
  have distinct : (Entries.keys pitchRequest.typeSpecific).Nodup := by decide
  obtain ⟨outputType, chosen⟩ := outputType_of_chosen (r := pitchRequest) rfl (by decide : "deck" ≠ "")
  have own : "deck_type" ∈ Entries.keys (Choices.chosen pitchRequest.typeSpecific) := by decide
  have revealed : "deck_type" ∈ Entries.keys (findings pitchRequest.userInput) := by
    decide +kernel
  have used : "deck_type" ∈ Entries.keys pitchRequest.used :=
    mem_used_iff.mpr ⟨by rw [outputType]; decide, revealed⟩
  have source : Entries.get? pitchRequest.inferred.choices.sources "deck_type" = some .explicit := by
    rcases source_cases distinct "deck_type" with ⟨-, source⟩ | ⟨free, -, -⟩ | ⟨free, -, -⟩
    · exact source
    · exact absurd own free
    · exact absurd own free
  obtain ⟨_, _, _, -, -, -, planned⟩ := pitchRequest.planWithInference_completed []
  exact ⟨_, _, planned, rfl, chosen, source, mem_confidence_iff.mpr (.inl used)⟩

end PlanRequest

end PromptStudio
