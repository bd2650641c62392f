import PromptStudio.Proofs.Spec.Verdict

set_option autoImplicit false

namespace PromptStudio

namespace PromptSpec

variable {s r : PromptSpec} {patch : Section}

structure PartsOnly (patch : Section) : Prop where
  version : scalarFor patch "version" = none
  outputType : scalarFor patch "output_type" = none
  generatedAt : scalarFor patch "generated_at" = none

theorem PartsOnly.plain (parts : PartsOnly patch) : Plain patch := by
  constructor <;> intro v found
  case version => simp [parts.version] at found
  case outputType => simp [parts.outputType] at found
  case generatedAt => simp [parts.generatedAt] at found

theorem PartsOnly.kept (parts : PartsOnly patch) (s : PromptSpec) : s.mergedTag patch = s.tag :=
  s.mergedTag_of_typeless parts.outputType

structure Ready (t : OutputType) (s : PromptSpec) : Prop where
  filled : s.Filled
  outputType : s.outputType = some t.name
  version : s.version = some schemaVersion

variable {t : OutputType}

def goal (s : PromptSpec) : String := Section.text s.intent "primary_goal"

theorem ready_ofType (t : OutputType) : (ofType (some t.name)).Ready t :=
  ⟨filled_ofType (some t.name), rfl, rfl⟩

theorem Ready.merged (ready : s.Ready t) (parts : PartsOnly patch)
    (merged : s.mergePatch patch = .ok r) : r.Ready t := by
  have tag := (tag_of_mergePatch merged).trans (parts.kept s)
  have version := version_of_mergePatch merged
  rw [parts.version] at version
  injection version with same
  exact
    { filled := filled_of_mergePatch merged
      outputType := (ofOption_str_inj.mp tag).trans ready.outputType
      version := same.symm.trans ready.version }

theorem Ready.at (ready : s.Ready t) (now : Moment) :
    ({ s with generatedAt := some now } : PromptSpec).Ready t :=
  { filled := ⟨ready.filled.shared, ready.filled.typeSpecific, ready.filled.inferred,
      ready.filled.tagged⟩
    outputType := ready.outputType
    version := ready.version }

theorem Ready.variant (ready : s.Ready t) : s.variant? = some t := by
  rw [ready.filled.to_tagged.variant, ready.outputType]
  cases t <;> rfl

theorem read_text (v : Json) : (Kind.text.read v).toOption = v.asText?.map .str := by
  cases v <;> rfl

theorem goal_merged (filled : s.Filled)
    (names : ∀ part ∈ updatesFor patch "intent", (Entries.keys part).Nodup)
    (merged : s.mergePatch patch = .ok r) :
    r.goal = ((Entries.get? ((updatesFor patch "intent").getD []) "primary_goal").bind
      Json.asText?).getD s.goal := by
  have shared := shared_of_mergePatch filled merged .intent
  have held : Entries.get? r.intent "primary_goal" =
      (textField "primary_goal").updated s.intent ((updatesFor patch "intent").getD []) := by
    change Entries.get? (r.shared .intent) (textField "primary_goal").name = _
    rw [shared]
    exact filled.get?_shared .intent names (.head _)
  have read : (textField "primary_goal").readIn ((updatesFor patch "intent").getD []) =
      ((Entries.get? ((updatesFor patch "intent").getD []) "primary_goal").bind
        Json.asText?).map .str := by
    rw [Option.map_bind]
    exact Option.bind_congr fun v _ => read_text v
  rw [goal, Section.text, Section.value, held, Field.updated, read]
  cases (Entries.get? ((updatesFor patch "intent").getD []) "primary_goal").bind Json.asText? <;>
    rfl

theorem inferred_merged (filled : s.Filled)
    (names : ∀ part ∈ updatesFor patch "inferred", (Entries.keys part).Nodup)
    (merged : s.mergePatch patch = .ok r) {key text : String}
    (declared : textOrNullField key ∈ inferredForm.fields) (other : key ≠ "reasoning")
    (given : (updatesFor patch "inferred").bind (Entries.get? · key) = some (.str text)) :
    Entries.get? r.inferred key = some (.str text) := by
  obtain ⟨updates, part, given⟩ := Option.bind_eq_some_iff.mp given
  have held : Entries.get? r.inferred key = (textOrNullField key).updated s.inferred
      (s.reasoningUpdates ((updatesFor patch "inferred").getD [])) := by
    rw [inferred_of_mergePatch filled merged]
    exact filled.get?_inferred names declared
  have read : (textOrNullField key).readIn (s.reasoningUpdates updates) = some (.str text) := by
    change (Entries.get? (s.reasoningUpdates updates) key).bind _ = _
    rw [get?_reasoningUpdates _ _ other, given]
    rfl
  rw [held, part, Option.getD_some, Field.updated, read]
  rfl

theorem Ready.validate (ready : s.Ready t) :
    ∃ v, s.validate = .ok v ∧ (v.valid = true ↔ s.goal ≠ "") := by
  obtain ⟨v, returned⟩ := s.validate_eq_ok
  refine ⟨v, returned, ?_⟩
  have named : t.name ≠ "" := by cases t <;> decide
  have known : isKnownType (Section.value (s.toFields .null) "output_type") = true := by
    change isKnownType s.tag = true
    rw [tag, ready.outputType]
    simp [isKnownType, outputTypeOf?, Json.ofOption]
  rw [valid_iff returned, ← minimallyValid_iff (ready.filled.shared .intent)]
  simp [minimallyValid, ready.version, ready.outputType, schemaVersion, named, known, goal]

theorem mergeAt_eq_ok_iff {now : Moment} :
    s.mergeAt now patch = .ok r ↔
      ∃ merged, s.mergePatch patch = .ok merged ∧ r = { merged with generatedAt := some now } := by
  rw [mergeAt, Outcome.bind_eq_ok]
  simp only [Checked.toOutcome_eq_ok_iff, pure, Except.pure, Except.ok.injEq]
  exact exists_congr fun merged => and_congr_right' eq_comm

end PromptSpec

end PromptStudio
