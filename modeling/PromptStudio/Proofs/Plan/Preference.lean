import PromptStudio.Proofs.Inference.Preference
import PromptStudio.Proofs.Plan.Note
import PromptStudio.Proofs.Plan.Separation

set_option autoImplicit false

namespace PromptStudio

section Paths

def Enters (name : String) (path : List Char) : Prop :=
  match segments path with
  | [] => False
  | [root] => String.ofList root ≠ name
  | _ :: _ :: _ => True

theorem enters_iff {name : String} {path : List Char} :
    segments path ≠ [] ∧ segments path ≠ [name.toList] ↔ Enters name path := by
  unfold Enters
  match segments path with
  | [] => simp
  | [root] =>
    have same : root = name.toList ↔ String.ofList root = name := by
      constructor
      · rintro rfl
        exact String.ofList_toList
      · rintro rfl
        exact String.toList_ofList.symm
    simp [same]
  | _ :: _ :: _ => simp

instance (name : String) (path : List Char) : Decidable (Enters name path) :=
  decidable_of_iff (segments path ≠ [] ∧ segments path ≠ [name.toList]) enters_iff

theorem resolve_enters {name : String} {fields others inner other : Entries Json}
    (agree : ∀ key ≠ name, Entries.get? fields key = Entries.get? others key)
    (held : Entries.get? fields name = some (.obj inner))
    (held' : Entries.get? others name = some (.obj other))
    (same : ∀ key, Entries.get? inner key = Entries.get? other key) {path : List Char}
    (enters : Enters name path) :
    resolve (some (.plain (.obj fields))) path = resolve (some (.plain (.obj others))) path := by
  unfold Enters at enters
  rw [resolve, resolve]
  by_cases root : ∃ first second rest, segments path = first :: second :: rest ∧
      String.ofList first = name
  next =>
    obtain ⟨first, second, rest, split, named⟩ := root
    have hop (e : Entries Json) (v : Entries Json) (there : Entries.get? e name = some (.obj v)) :
        Datum.hop (some (.plain (.obj e))) first = some (.plain (.obj v)) := by
      rw [← named] at there
      exact congrArg (Option.map Datum.plain) there
    have next : Datum.hop (some (.plain (.obj inner))) second =
        Datum.hop (some (.plain (.obj other))) second :=
      congrArg (Option.map Datum.plain) (same (String.ofList second))
    simp only [split, Datum.walk, List.foldl_cons, hop fields inner held, hop others other held',
      next]
  next =>
    cases split : segments path with
    | nil =>
      rw [split] at enters
      exact absurd enters not_false
    | cons first rest =>
      have apart : String.ofList first ≠ name := by
        cases rest with
        | nil =>
          rw [split] at enters
          exact enters
        | cons second rest => exact fun named => root ⟨first, second, rest, split, named⟩
      have hop : Datum.hop (some (.plain (.obj fields))) first =
          Datum.hop (some (.plain (.obj others))) first :=
        congrArg (Option.map Datum.plain) (agree _ apart)
      simp only [Datum.walk, List.foldl_cons, hop]

end Paths

section Standard

def RegistrySpec.Entered (spec : RegistrySpec) : Prop :=
  ∀ s ∈ spec.systemSteps ++ spec.userSteps, ∀ path ∈ s.paths, Enters "typeSpecific" path

theorem ToSetting.enters {path : List Char} (leads : ToSetting path) :
    Enters "typeSpecific" path := by
  unfold ToSetting OfSetting at leads
  unfold Enters
  split at leads
  next root split =>
    rw [split]
    change String.ofList root ≠ "typeSpecific"
    rw [leads]
    decide
  next root _ split =>
    rw [split]
    trivial
  next => exact absurd leads not_false

theorem sharedUserSteps_briefOnly :
    ∀ s ∈ sharedUserSteps, ∀ path ∈ s.paths, Avoids settingNames path := by
  decide +kernel

theorem standardRegistry_userSteps : ∀ entry ∈ standardRegistry,
    entry.2.userSteps = sharedUserSteps := by
  simp only [standardRegistry, List.forall_mem_cons]
  exact ⟨rfl, rfl, rfl, rfl, rfl, rfl, rfl, by simp⟩

theorem standardRegistry_entered : ∀ entry ∈ standardRegistry, entry.2.Entered := by
  intro entry listed s inside
  rcases List.mem_append.mp inside with system | user
  · intro path mentioned
    exact (standardRegistry_toSetting entry listed s system path mentioned).enters
  · have entered : ∀ s ∈ sharedUserSteps, ∀ path ∈ s.paths, Enters "typeSpecific" path := by
      decide +kernel
    rw [standardRegistry_userSteps entry listed] at user
    exact entered s user

theorem resolve_standard (id : Option String) :
    ∃ key spec, Registry.resolve standardRegistry [] id = .ok spec ∧
      (key, spec) ∈ standardRegistry := by
  have fallback : Entries.get? standardRegistry "default" = some docPlan := rfl
  unfold Registry.resolve
  have unknown : Registry.pick? [] (id.getD "") = none := rfl
  rw [unknown, Option.none_or, Registry.pick?]
  cases found : Entries.get? standardRegistry (id.getD "") with
  | none => exact ⟨"default", docPlan, by rw [fallback]; rfl, Entries.mem_of_get? fallback⟩
  | some spec => exact ⟨id.getD "", spec, rfl, Entries.mem_of_get? found⟩

theorem resolve_given (given : Registry) (id : Option String) :
    ∃ spec, Registry.resolve standardRegistry given id = .ok spec := by
  obtain ⟨key, spec, resolved, -⟩ := resolve_standard id
  unfold Registry.resolve at resolved ⊢
  cases Registry.pick? given (id.getD "") with
  | none => exact ⟨spec, resolved⟩
  | some own => exact ⟨own, rfl⟩

theorem find_standard (axis : Axis) (id : Option String) :
    ∃ control, standardControls.find axis id = .ok control := by
  have last : ∃ control, Catalog.atOrLast? (standardControls.axis axis) axis.fallback =
      some control := by
    cases axis <;> exact ⟨_, rfl⟩
  obtain ⟨control, last⟩ := last
  unfold Catalog.find
  dsimp only
  rw [last]
  cases (standardControls.axis axis).find? fun control => some control.id == id with
  | none => exact ⟨control, rfl⟩
  | some found => exact ⟨found, rfl⟩

end Standard

section Summary

variable {r : PlanRequest} {s : InferenceSummary}

theorem InferenceSummary.detected_of_explicit (chosen : s.outputTypeSource = .explicit)
    (explicit : ∀ entry ∈ s.choices.sources, entry.2 ≠ .inferred) : s.detected = [] := by
  have noted : s.noted = s.choices.sources := by simp [noted, chosen]
  have nothing : s.choices.sources.filter (fun entry => entry.2 = .inferred) = [] := by
    simpa [List.filter_eq_nil_iff] using explicit
  rw [detected, noted, nothing]
  rfl

def PlanRequest.used (r : PlanRequest) : Entries Finding :=
  PlanRequest.usable r.inferred.outputType (findings r.userInput)

theorem get?_used (r : PlanRequest) (key : String) :
    Entries.get? r.used key =
      if (revealedSettings r.inferred.outputType).contains key then
        Entries.get? (findings r.userInput) key
      else none :=
  Entries.get?_filter _ (fun key => (revealedSettings r.inferred.outputType).contains key) key

theorem used_names (r : PlanRequest) : (Entries.keys r.used).Nodup :=
  (findings_names r.userInput).sublist (List.filter_sublist.map _)

theorem choices_eq (r : PlanRequest) : r.inferred.choices =
    Choices.merge r.typeSpecific (r.used.map fun entry => (entry.1, .str entry.2.value)) := rfl

theorem values_names (r : PlanRequest) : (Entries.keys r.inferred.choices.values).Nodup := by
  have names : (Entries.keys (r.used.map fun entry => (entry.1, Json.str entry.2.value))).Nodup := by
    rw [Entries.keys_mapValues r.used fun f => Json.str f.value]
    exact used_names r
  rw [choices_eq]
  exact Choices.values_names r.typeSpecific names

theorem confidence_eq (r : PlanRequest) : r.inferred.confidence =
    if r.inferred.outputTypeSource = .inferred then
      Entries.put (r.used.map fun entry => (entry.1, entry.2.confidence)) "output_type"
        (((Entries.get? (findings r.userInput) "output_type").map Finding.confidence).getD
          (.finite 0))
    else r.used.map fun entry => (entry.1, entry.2.confidence) := rfl

theorem inferred_certain (r : PlanRequest) : r.inferred.Certain := by
  have sure {key : String} {f : Finding}
      (held : Entries.get? (findings r.userInput) key = some f) : f.confidence.Share :=
    Finding.confidence_share (score_of_findings (Entries.mem_of_get? held))
  have used {key : String} {x : Binary64}
      (held : Entries.get? (r.used.map fun entry => (entry.1, entry.2.confidence)) key = some x) :
      x.Share := by
    rw [Entries.get?_mapValues, Option.map_eq_some_iff] at held
    obtain ⟨f, found, rfl⟩ := held
    rw [get?_used] at found
    split at found
    next => exact sure found
    next => exact nomatch found
  intro key x held
  rw [confidence_eq] at held
  split at held
  next =>
    rw [Entries.get?_put] at held
    split at held
    next =>
      obtain rfl := Option.some.inj held
      cases type : Entries.get? (findings r.userInput) "output_type" with
      | none => exact .inr rfl
      | some f => exact .inl (sure type)
    next => exact .inl (used held)
  next => exact .inl (used held)

theorem outputType_of_chosen {t : String} (chosen : r.specId = some t) (named : t ≠ "") :
    r.inferred.outputType = t ∧ r.inferred.outputTypeSource = .explicit := by
  have settled : outputTypeFor r.specId (findings r.userInput) = (t, .explicit) := by
    simp [outputTypeFor, chosen, named]
  exact ⟨congrArg Prod.fst settled, congrArg Prod.snd settled⟩

theorem chosen_of_explicit (explicit : r.inferred.outputTypeSource = .explicit) :
    r.specId = some r.inferred.outputType := by
  have source : (outputTypeFor r.specId (findings r.userInput)).2 = .explicit := explicit
  have outputType : r.inferred.outputType = (outputTypeFor r.specId (findings r.userInput)).1 := rfl
  have revealed : (outputTypeFor.revealed (findings r.userInput)).2 ≠ .explicit := by
    unfold outputTypeFor.revealed
    split <;> simp
  rw [outputType]
  unfold outputTypeFor at source ⊢
  split at source
  next t chosen =>
    split at source
    next => exact absurd source revealed
    next named => rw [if_neg named, chosen]
  next => exact absurd source revealed

end Summary

namespace PlanRequest

variable {r : PlanRequest}

/-- What an inference owes to what the caller chose, `q` being the plan without inference. -/
structure Preferred (r : PlanRequest) (s : InferenceSummary) (p q : Plan) : Prop where
  outputType : ∀ t, r.specId = some t → t ≠ "" →
    s.outputType = t ∧ s.outputTypeSource = .explicit
  distinct : (Entries.keys s.choices.values).Nodup
  sourced : Entries.keys s.choices.sources = Entries.keys s.choices.values
  chosen : ∀ key v, (key, v) ∈ r.typeSpecific → Choices.isChoice v = true →
    Entries.get? s.choices.values key = some v ∧
      Entries.get? s.choices.sources key = some .explicit
  context : Entries.get? p.context "typeSpecific" = some (.obj s.choices.values)
  revealed : ∀ key v, Entries.get? s.choices.values key = some v →
    (∀ w, (key, w) ∈ r.typeSpecific → Choices.isChoice w = false) →
      key ∈ revealedSettings s.outputType ∧
        (∃ f, Entries.get? (findings r.userInput) key = some f ∧ v = .str f.value) ∧
          Entries.get? s.choices.sources key = some .inferred
  userPrompt : p.userPrompt = q.userPrompt
  unchanged : (∀ entry ∈ s.choices.sources, entry.2 ≠ .inferred) →
    s.outputTypeSource = .explicit → r.outputType.isSome = true →
      (∀ entry ∈ r.typeSpecific, Choices.isChoice entry.2 = true) →
        p.systemPrompt = q.systemPrompt ∧ p.userPrompt = q.userPrompt ∧ p.trace = q.trace ∧
          p.specId = q.specId ∧ p.specVersion = q.specVersion

theorem completed_ok (r : PlanRequest) (s : InferenceSummary) :
    ∃ standard, r.completed s = .ok { r with
      specId := some s.outputType
      typeSpecific := s.choices.values
      outputType := some (r.outputType.getD standard) } := by
  obtain ⟨control, found⟩ := find_standard .outputType (some s.outputType)
  exact ⟨control.toFields .outputType, by rw [completed, found]; rfl⟩

theorem userPrompt_planFrom {spec : RegistrySpec} {other : PlanRequest} {otherSpec : RegistrySpec}
    (steps : spec.userSteps = sharedUserSteps) (otherSteps : otherSpec.userSteps = sharedUserSteps)
    (brief : other.userInput = r.userInput) (notes : other.notes = r.notes) :
    (other.planFrom otherSpec).userPrompt = (r.planFrom spec).userPrompt := by
  have agree : ∀ key ∉ settingNames,
      Entries.get? (other.context otherSpec) key = Entries.get? (r.context spec) key := by
    intro key apart
    simp only [settingNames, List.mem_cons, List.not_mem_nil, or_false, not_or] at apart
    simp only [PlanRequest.context, Entries.get?_cons, brief, notes, apart, if_false]
  have text : Blocks.text otherSpec.userSteps (some (.plain (.obj (other.context otherSpec)))) =
      Blocks.text spec.userSteps (some (.plain (.obj (r.context spec)))) := by
    rw [steps, otherSteps]
    exact Blocks.text_congr fun s inside path mentioned =>
      resolve_congr agree (sharedUserSteps_briefOnly s inside path mentioned)
  simp only [planFrom, text, brief]

-- Settings that look up the same are planned the same, in whatever order they stand.
theorem planFrom_reordered {spec : RegistrySpec} (entered : spec.Entered) {other : PlanRequest}
    {own : Entries Json} (same : ∀ key, Entries.get? own key = Entries.get? r.typeSpecific key)
    (context : other.context spec = { r with typeSpecific := own }.context spec)
    (brief : other.userInput = r.userInput) :
    (other.planFrom spec).systemPrompt = (r.planFrom spec).systemPrompt ∧
      (other.planFrom spec).userPrompt = (r.planFrom spec).userPrompt ∧
        (other.planFrom spec).trace = (r.planFrom spec).trace := by
  have agree : ∀ key ≠ "typeSpecific",
      Entries.get? (other.context spec) key = Entries.get? (r.context spec) key := by
    intro key apart
    rw [context]
    simp only [PlanRequest.context, Entries.get?_cons, apart, if_false]
  have place : ∀ s ∈ spec.systemSteps ++ spec.userSteps,
      SameAt (some (.plain (.obj (other.context spec)))) (some (.plain (.obj (r.context spec))))
        s.paths := fun s inside path mentioned =>
    resolve_enters agree (by rw [context]; rfl) rfl same (entered s inside path mentioned)
  obtain ⟨system, user⟩ := List.forall_mem_append.mp place
  simp only [planFrom, Blocks.text_congr system, Blocks.text_congr user, Blocks.trace_congr system,
    Blocks.trace_congr user, brief, and_self]

theorem inferred_values (distinct : (Entries.keys r.typeSpecific).Nodup) {key : String} {v : Json}
    (held : Entries.get? r.inferred.choices.values key = some v)
    (free : ∀ w, (key, w) ∈ r.typeSpecific → Choices.isChoice w = false) :
    ∃ f, Entries.get? r.used key = some f ∧ v = .str f.value ∧
      Entries.get? r.inferred.choices.sources key = some .inferred := by
  have unchosen : Entries.get? (Choices.chosen r.typeSpecific) key = none := by
    rw [Option.eq_none_iff_forall_ne_some]
    intro w found
    obtain ⟨inside, choice⟩ := (Choices.get?_chosen_eq_some_iff distinct).mp found
    exact absurd choice (by rw [free w inside]; exact Bool.false_ne_true)
  rw [choices_eq, Choices.get?_values distinct, unchosen, Option.none_or,
    Entries.get?_mapValues _ fun f : Finding => Json.str f.value, Option.map_eq_some_iff] at held
  obtain ⟨f, used, rfl⟩ := held
  refine ⟨f, used, rfl, ?_⟩
  rw [choices_eq, Choices.get?_sources distinct, unchosen,
    Entries.get?_mapValues _ fun f : Finding => Json.str f.value, used]
  rfl

theorem values_of_explicit (distinct : (Entries.keys r.typeSpecific).Nodup)
    (explicit : ∀ entry ∈ r.inferred.choices.sources, entry.2 ≠ .inferred)
    (choices : ∀ entry ∈ r.typeSpecific, Choices.isChoice entry.2 = true) (key : String) :
    Entries.get? r.inferred.choices.values key = Entries.get? r.typeSpecific key := by
  have all : Choices.chosen r.typeSpecific = r.typeSpecific := List.filter_eq_self.mpr choices
  cases held : Entries.get? r.inferred.choices.values key with
  | none =>
    rw [choices_eq, Choices.get?_values distinct, all, Option.or_eq_none_iff] at held
    exact held.1.symm
  | some v =>
    cases own : Entries.get? r.typeSpecific key with
    | none =>
      have free : ∀ w, (key, w) ∈ r.typeSpecific → Choices.isChoice w = false := fun w inside =>
        nomatch own.symm.trans (Entries.get?_of_mem distinct inside)
      obtain ⟨-, -, -, source⟩ := inferred_values distinct held free
      exact absurd rfl (explicit _ (Entries.mem_of_get? source))
    | some w =>
      rw [choices_eq, Choices.get?_values distinct, all, own, Option.some_or] at held
      exact held.symm

theorem noted_ok (r : PlanRequest) : ∃ lines, List.Forall₂ NoteLine r.inferred.detected lines ∧
    (if r.toggles.stripMeta then .ok "" else r.inferred.note) =
      (.ok (if r.toggles.stripMeta ∨ r.inferred.detected = [] then "" else "\n" ++ noteText lines) :
        Outcome String) := by
  obtain ⟨lines, listed, note⟩ := (inferred_certain r).note_eq
  refine ⟨lines, listed, ?_⟩
  by_cases strip : r.toggles.stripMeta = true
  next => simp [strip]
  next => simp [strip, note]

theorem planWithInference_eq {given : Registry} {other : PlanRequest} {spec : RegistrySpec}
    {note : String} (completed : r.completed r.inferred = .ok other)
    (resolved : Registry.resolve standardRegistry given other.specId = .ok spec)
    (noted : (if r.toggles.stripMeta then .ok "" else r.inferred.note) =
      (.ok note : Outcome String)) :
    r.planWithInference standardRegistry given = .ok { other.planFrom spec with
      systemPrompt := withNote (other.planFrom spec).systemPrompt note
      inference := some r.inferred } := by
  simp only [planWithInference, plan, completed, resolved, Bind.bind, Except.bind, Pure.pure,
    Except.pure]
  by_cases strip : r.toggles.stripMeta = true
  next =>
    simp only [if_pos strip] at noted ⊢
    rw [Except.ok.inj noted]
  next =>
    simp only [if_neg strip] at noted ⊢
    rw [noted]

theorem planFrom_explicit {spec : RegistrySpec} (entered : spec.Entered)
    (distinct : (Entries.keys r.typeSpecific).Nodup)
    (explicit : ∀ entry ∈ r.inferred.choices.sources, entry.2 ≠ .inferred)
    (choices : ∀ entry ∈ r.typeSpecific, Choices.isChoice entry.2 = true) {other : PlanRequest}
    (specId : Option String) (full : { r with
      specId := specId
      typeSpecific := r.inferred.choices.values } = other) :
    (other.planFrom spec).systemPrompt = (r.planFrom spec).systemPrompt ∧
      (other.planFrom spec).trace = (r.planFrom spec).trace := by
  have context : other.context spec =
      { r with typeSpecific := r.inferred.choices.values }.context spec := by
    rw [← full]
    rfl
  obtain ⟨system, -, trace⟩ := planFrom_reordered entered
    (values_of_explicit distinct explicit choices) context (by rw [← full])
  exact ⟨system, trace⟩

theorem planWithInference_preferred (r : PlanRequest)
    (distinct : (Entries.keys r.typeSpecific).Nodup) :
    ∃ p q, r.planWithInference standardRegistry [] = .ok p ∧
      r.plan standardRegistry [] = .ok q ∧
        ∃ s, p.inference = some s ∧ r.Preferred s p q := by
  obtain ⟨standard, completed⟩ := r.completed_ok r.inferred
  generalize full : { r with
    specId := some r.inferred.outputType
    typeSpecific := r.inferred.choices.values
    outputType := some (r.outputType.getD standard) } = other at completed
  obtain ⟨key, spec, resolved, listed⟩ := resolve_standard other.specId
  obtain ⟨key', spec', resolved', listed'⟩ := resolve_standard r.specId
  obtain ⟨lines, -, noted⟩ := noted_ok r
  have planned := planWithInference_eq completed resolved noted
  have plain : r.plan standardRegistry [] = .ok (r.planFrom spec') := by
    rw [plan, resolved']
    rfl
  have user : (other.planFrom spec).userPrompt = (r.planFrom spec').userPrompt :=
    userPrompt_planFrom (standardRegistry_userSteps _ listed')
      (standardRegistry_userSteps _ listed) (by rw [← full]) (by rw [← full])
  refine ⟨_, _, planned, plain, r.inferred, rfl, ?_⟩
  constructor
  case outputType => exact fun t chosen named => outputType_of_chosen chosen named
  case distinct => exact values_names r
  case sourced => exact Choices.sources_names _ _
  case chosen =>
    intro key v inside choice
    have held := (Choices.get?_chosen_eq_some_iff distinct).mpr ⟨inside, choice⟩
    rw [choices_eq, Choices.get?_values distinct, Choices.get?_sources distinct, held]
    exact ⟨rfl, rfl⟩
  case context =>
    rw [← full]
    rfl
  case revealed =>
    intro key v held free
    obtain ⟨f, used, value, source⟩ := inferred_values distinct held free
    rw [get?_used] at used
    split at used
    next revealed => exact ⟨by simpa using revealed, ⟨f, used, value⟩, source⟩
    next => cases used
  case userPrompt => exact user
  case unchanged =>
    intro explicit chosen descriptor choices
    have same : other.specId = r.specId := by rw [← full, chosen_of_explicit chosen]
    obtain rfl : spec = spec' := by
      rw [same, resolved'] at resolved
      exact (Except.ok.inj resolved).symm
    have nothing : r.inferred.detected = [] :=
      InferenceSummary.detected_of_explicit chosen explicit
    have descriptor : some (r.outputType.getD standard) = r.outputType := by
      obtain ⟨d, given⟩ := Option.isSome_iff_exists.mp descriptor
      rw [given]
      rfl
    obtain ⟨system, trace⟩ := planFrom_explicit (standardRegistry_entered _ listed) distinct
      explicit choices _ (descriptor ▸ full)
    refine ⟨?_, user, trace, rfl, rfl⟩
    rw [if_pos (.inr nothing)]
    exact system

def pitchRequest : PlanRequest where
  specId := some "deck"
  userInput := "Investor pitch"
  outputType := some [("label", .str "Deck")]
  typeSpecific := [("deck_type", .str "sales")]

theorem planWithInference_pitchRequest :
    (Entries.keys pitchRequest.typeSpecific).Nodup ∧
      ∃ p q s, pitchRequest.planWithInference standardRegistry [] = .ok p ∧
        pitchRequest.plan standardRegistry [] = .ok q ∧ p.inference = some s ∧
          Entries.get? s.choices.values "deck_type" = some (.str "sales") ∧
            p.systemPrompt = q.systemPrompt := by
  have distinct : (Entries.keys pitchRequest.typeSpecific).Nodup := by decide
  obtain ⟨p, q, inferred, plain, s, summary, preferred⟩ :=
    pitchRequest.planWithInference_preferred distinct
  obtain ⟨value, source⟩ := preferred.chosen "deck_type" (.str "sales") (.head _) rfl
  obtain ⟨outputType, explicit⟩ := preferred.outputType "deck" rfl (by decide)
  have uninferred : ∀ entry ∈ s.choices.sources, entry.2 ≠ .inferred := by
    rintro ⟨key, _⟩ inside rfl
    have names : (Entries.keys s.choices.sources).Nodup := preferred.sourced ▸ preferred.distinct
    have own : key ≠ "deck_type" := by
      rintro rfl
      exact nomatch source.symm.trans (Entries.get?_of_mem names inside)
    have there : key ∈ Entries.keys s.choices.values :=
      preferred.sourced ▸ List.mem_map_of_mem inside
    obtain ⟨v, held⟩ := Entries.get?_of_mem_keys there
    have free : ∀ w, (key, w) ∈ pitchRequest.typeSpecific → Choices.isChoice w = false := by
      intro w chosen
      simp [pitchRequest, own] at chosen
    have revealed := (preferred.revealed key v held free).1
    rw [outputType] at revealed
    exact own (by simpa [revealedSettings, OutputType.ofName?, OutputType.named,
      OutputType.revealedSettings] using revealed)
  have unchanged := preferred.unchanged uninferred explicit rfl (by decide)
  exact ⟨distinct, p, q, s, inferred, plain, summary, value, unchanged.1⟩

end PlanRequest

end PromptStudio
