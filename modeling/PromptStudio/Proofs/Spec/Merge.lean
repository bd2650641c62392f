import PromptStudio.Proofs.Spec.Assembly

set_option autoImplicit false

namespace PromptStudio.PromptSpec

/-- Field by field, what `r` is when the update `u` of `s` is merged. -/
structure MergedInto (s : PromptSpec) (u : Section) (r : PromptSpec) : Prop where
  shared : ∀ name : SectionName, ∀ field ∈ name.form.fields,
    Entries.get? (r.shared name) field.name =
      field.updated (s.shared name) ((givenPart u name.key).getD [])
  typeSpecific : ∀ field ∈ (typeForm s.tag).fields, field.name ≠ "output_type" →
    Entries.get? r.typeSpecific field.name =
      field.updated s.typeSpecific ((givenPart u "type_specific").getD [])
  undeclared : ∀ key, (typeForm s.tag).declares key = false →
    Entries.get? r.typeSpecific key =
      (Entries.get? ((givenPart u "type_specific").getD []) key).or
        (Entries.get? s.typeSpecific key)
  tagged : Entries.get? r.typeSpecific "output_type" = some s.tag
  inferred : ∀ field ∈ inferredForm.fields, field.name ≠ "reasoning" →
    Entries.get? r.inferred field.name =
      field.updated s.inferred ((givenPart u "inferred").getD [])
  reasonsJoined : ∀ reasons : Entries String,
    Entries.get? ((givenPart u "inferred").getD []) "reasoning" = some (Json.ofTextMap reasons) →
      ∃ held joined : Entries String,
        Entries.get? s.inferred "reasoning" = some (Json.ofTextMap held) ∧
        Entries.get? r.inferred "reasoning" = some (Json.ofTextMap joined) ∧
        ∀ key, Entries.get? joined key = (Entries.get? reasons key).or (Entries.get? held key)
  reasonsKept :
    (∀ reasons : Entries String,
      Entries.get? ((givenPart u "inferred").getD []) "reasoning" ≠
        some (Json.ofTextMap reasons)) →
      Entries.get? r.inferred "reasoning" = Entries.get? s.inferred "reasoning"
  sharedUntouched : ∀ name : SectionName, givenPart u name.key = none →
    r.shared name = s.shared name
  typeSpecificUntouched : givenPart u "type_specific" = none → r.typeSpecific = s.typeSpecific
  inferredUntouched : givenPart u "inferred" = none → r.inferred = s.inferred

variable {s : PromptSpec} {u : Section}

def reasoningField : Field := ⟨"reasoning", .textMap, .obj []⟩

theorem reasoningField_mem : reasoningField ∈ inferredForm.fields := by
  simp [inferredForm, reasoningField]

theorem get?_reasoning (held : inferredForm.Holds s.inferred) :
    ∃ reasons : Entries String,
      Entries.get? s.inferred "reasoning" = some (Json.ofTextMap reasons) := by
  obtain ⟨v, found, read⟩ := held.field inferredForm_wellFormed reasoningField_mem
  obtain ⟨reasons, rfl⟩ := Kind.textMap_read_eq_ok read
  exact ⟨reasons, found⟩

theorem get?_joined_reasoning {updates : Section} {held reasons : Entries String}
    (before : Entries.get? s.inferred "reasoning" = some (Json.ofTextMap held))
    (found : Entries.get? updates "reasoning" = some (Json.ofTextMap reasons)) :
    Entries.get? (s.reasoningUpdates updates) "reasoning" =
      some (Json.ofTextMap (Entries.overlay held reasons)) := by
  have joined := Entries.overlay_mapValues held reasons Json.str
  simp only [reasoningUpdates, Section.value, found, before, Option.getD_some, Json.ofTextMap,
    Json.asFields?]
  rw [Entries.get?_put, if_pos rfl]
  exact congrArg (some ∘ Json.obj) joined

-- Every given reason shows in the joined map, so a text map can only come from texts.
theorem textMap_of_joined {updates : Section} (distinct : (Json.obj updates).Distinct)
    {joined : Entries String}
    (found : Entries.get? (s.reasoningUpdates updates) "reasoning" =
      some (Json.ofTextMap joined)) :
    ∃ reasons, Entries.get? updates "reasoning" = some (Json.ofTextMap reasons) := by
  unfold reasoningUpdates at found
  split at found
  next reasons there =>
    have given : Entries.get? updates "reasoning" = some (.obj reasons) := by
      cases own : Entries.get? updates "reasoning" <;> simp_all [Section.value]
    have names : (Entries.keys reasons).Nodup :=
      (distinct.value (Entries.mem_of_get? given)).names
    rw [Entries.get?_put, if_pos rfl] at found
    simp only [Json.ofTextMap, Option.some.injEq, Json.obj.injEq] at found
    have texts : ∀ entry ∈ reasons, ∃ t, entry.2 = Json.str t := by
      intro entry inside
      have laid := Entries.get?_overlay ((Section.value s.inferred "reasoning").asFields?.getD [])
        reasons names entry.1
      rw [found, Entries.get?_mapValues joined Json.str, Entries.get?_of_mem names inside] at laid
      obtain ⟨t, -, same⟩ := Option.map_eq_some_iff.mp laid
      exact ⟨t, same.symm⟩
    obtain ⟨reasons, same⟩ := Kind.textMap_of_texts texts
    exact ⟨reasons, same ▸ given⟩
  next => exact ⟨joined, found⟩

theorem reasoning_kept {updates : Section} (distinct : (Json.obj updates).Distinct)
    (other : ∀ reasons : Entries String,
      Entries.get? updates "reasoning" ≠ some (Json.ofTextMap reasons)) :
    reasoningField.updated s.inferred (s.reasoningUpdates updates) =
      Entries.get? s.inferred "reasoning" := by
  have refused : reasoningField.readIn (s.reasoningUpdates updates) = none := by
    rw [Option.eq_none_iff_forall_ne_some]
    intro w accepted
    obtain ⟨v, found, read⟩ := Option.bind_eq_some_iff.mp accepted
    have accepts : Kind.textMap.accepts v = true := Option.isSome_iff_exists.mpr ⟨w, read⟩
    obtain ⟨w, ok⟩ := Kind.read_ok_of_accepts accepts
    obtain ⟨joined, rfl⟩ := Kind.textMap_read_eq_ok ok
    obtain ⟨reasons, given⟩ := textMap_of_joined distinct found
    exact other reasons given
  rw [Field.updated, refused, Option.none_or]
  rfl

theorem reasonings_joined (filled : s.Filled) {part : Option Section}
    (distinct : (Json.obj (part.getD [])).Distinct) {r : PromptSpec}
    (result : Entries.get? r.inferred "reasoning" =
      reasoningField.updated s.inferred (s.reasoningUpdates (part.getD [])))
    {reasons : Entries String}
    (found : Entries.get? (part.getD []) "reasoning" = some (Json.ofTextMap reasons)) :
    ∃ held joined : Entries String,
      Entries.get? s.inferred "reasoning" = some (Json.ofTextMap held) ∧
      Entries.get? r.inferred "reasoning" = some (Json.ofTextMap joined) ∧
      ∀ key, Entries.get? joined key = (Entries.get? reasons key).or (Entries.get? held key) := by
  obtain ⟨held, before⟩ := get?_reasoning filled.inferred
  have names : (Entries.keys reasons).Nodup := by
    have inside := (distinct.value (Entries.mem_of_get? found)).names
    simpa [Entries.keys, Function.comp_def] using inside
  refine ⟨held, Entries.overlay held reasons, before, ?_, Entries.get?_overlay held reasons names⟩
  have laid : reasoningField.readIn (s.reasoningUpdates (part.getD [])) =
      some (Json.ofTextMap (Entries.overlay held reasons)) := by
    rw [Field.readIn, show reasoningField.name = "reasoning" from rfl,
      get?_joined_reasoning before found]
    exact congrArg Checked.toOption (Kind.textMap_read _)
  rw [result, Field.updated, laid, Option.some_or]

namespace Assembled

variable {r : PromptSpec}

theorem tag_eq (parts : s.Assembled u r) : r.tag = s.tag := by rw [tag, parts.outputType, tag]

theorem tagged (parts : s.Assembled u r) (filled : s.Filled) (distinct : (Json.obj u).Distinct) :
    Entries.get? r.typeSpecific "output_type" = some s.tag := by
  obtain ⟨field, inside, named⟩ := exists_tagField s.tag
  have before : Entries.get? s.typeSpecific field.name = some s.tag := by
    rw [named, filled.tagged]
  have last := Form.get?_mergedPart_extra (typeForm_wellFormed s.tag)
    (givenPart_names distinct "type_specific") s.tag_suits inside
    (by simp [Entries.get?_cons, named]) before
  rw [parts.typeSpecific, ← last, named]

theorem refilled (parts : s.Assembled u r) (filled : s.Filled) (distinct : (Json.obj u).Distinct) :
    r.Filled := by
  constructor
  case shared =>
    intro name
    rw [parts.shared name]
    exact Form.mergedPart_holds name.form_wellFormed (filled.shared name) name.form.suits_nil
  case typeSpecific =>
    rw [parts.tag_eq, parts.typeSpecific]
    exact Form.mergedPart_holds (typeForm_wellFormed s.tag) filled.typeSpecific s.tag_suits
  case inferred =>
    rw [parts.inferred]
    exact Form.mergedPart_holds inferredForm_wellFormed filled.inferred inferredForm.suits_nil
  case tagged => rw [parts.tagged filled distinct, parts.tag_eq]

theorem undeclared (parts : s.Assembled u r) (distinct : (Json.obj u).Distinct) {key : String}
    (unknown : (typeForm s.tag).declares key = false) :
    Entries.get? r.typeSpecific key =
      (Entries.get? ((givenPart u "type_specific").getD []) key).or
        (Entries.get? s.typeSpecific key) := by
  have other : key ≠ "output_type" := by
    rintro rfl
    simp [typeForm_declares_tag] at unknown
  rw [parts.typeSpecific]
  exact Form.get?_mergedPart_undeclared (typeForm_isOpen s.tag)
    (givenPart_names distinct "type_specific") s.tag_suits unknown
    (by simp [Entries.get?_cons, other])

theorem inferred_field (parts : s.Assembled u r) (filled : s.Filled)
    (distinct : (Json.obj u).Distinct) {field : Field} (inside : field ∈ inferredForm.fields) :
    Entries.get? r.inferred field.name =
      field.updated s.inferred (s.reasoningUpdates ((givenPart u "inferred").getD [])) := by
  rw [parts.inferred]
  exact filled.get?_inferred (givenPart_names distinct "inferred") inside

theorem mergedInto (parts : s.Assembled u r) (filled : s.Filled)
    (distinct : (Json.obj u).Distinct) : s.MergedInto u r := by
  have inferredPart := getD_givenPart_distinct distinct "inferred"
  constructor
  case shared =>
    intro name field inside
    rw [parts.shared name]
    exact filled.get?_shared name (givenPart_names distinct name.key) inside
  case typeSpecific =>
    intro field inside other
    rw [parts.typeSpecific]
    exact Form.get?_mergedPart (typeForm_wellFormed s.tag) filled.typeSpecific
      (givenPart_names distinct "type_specific") s.tag_suits inside
      (by simp [Entries.get?_cons, other])
  case undeclared => exact fun key unknown => parts.undeclared distinct unknown
  case tagged => exact parts.tagged filled distinct
  case inferred =>
    intro field inside other
    rw [parts.inferred_field filled distinct inside, Field.updated, Field.updated, Field.readIn,
      Field.readIn, get?_reasoningUpdates s _ other]
  case reasonsJoined =>
    intro reasons found
    have result := parts.inferred_field filled distinct reasoningField_mem
    exact reasonings_joined filled inferredPart result found
  case reasonsKept =>
    intro other
    have result := parts.inferred_field filled distinct reasoningField_mem
    exact result.trans (reasoning_kept inferredPart other)
  case sharedUntouched =>
    intro name absent
    rw [parts.shared name, absent, Form.mergedPart]
  case typeSpecificUntouched =>
    intro absent
    rw [parts.typeSpecific, absent, Form.mergedPart]
  case inferredUntouched =>
    intro absent
    rw [parts.inferred, absent, Option.map_none, Form.mergedPart]

end Assembled

theorem merge_mergedInto (s : PromptSpec) (u : Section) (filled : s.Filled)
    (header : s.Header u) (once : SpelledOnce u) (distinct : (Json.obj u).Distinct) :
    ∃ r, s.merge (.obj u) = .ok r ∧ r.Filled ∧ r.outputType = s.outputType ∧ s.MergedInto u r := by
  obtain ⟨r, merged, parts⟩ := merge_assembled filled header once
  exact ⟨r, merged, parts.refilled filled distinct, parts.outputType,
    parts.mergedInto filled distinct⟩

def deckUpdate : Section :=
  [("intent", .obj [("primary_goal", .str "Win"), ("success_criteria", .str "a yes")]),
    ("typeSpecific", .obj [("slide_count", .str "12"), ("deck_type", .int 5),
      ("duration_minutes", .int 20)]),
    ("inferred", .obj [("tone", .str "casual"), ("reasoning", .obj [("tone", .str "peers")])]),
    ("audience", .str "executives")]

theorem merge_deckUpdate :
    let s := ofType (some "deck")
    s.Filled ∧ s.Header deckUpdate ∧ SpelledOnce deckUpdate ∧ (Json.obj deckUpdate).Distinct ∧
    ∃ r, s.merge (.obj deckUpdate) = .ok r ∧ r.Filled ∧ r.audience = s.audience ∧
      Entries.get? r.intent "primary_goal" = some (.str "Win") ∧
      Entries.get? r.intent "success_criteria" = some (.arr []) ∧
      Entries.get? r.typeSpecific "slide_count" = some (.int 12) ∧
      Entries.get? r.typeSpecific "deck_type" = some (.str "internal") ∧
      Entries.get? r.typeSpecific "duration_minutes" = some (.int 20) ∧
      ∃ joined, Entries.get? r.inferred "reasoning" = some (Json.ofTextMap joined) ∧
        Entries.get? joined "tone" = some "peers" := by
  intro s
  have filled : s.Filled := filled_ofType (some "deck")
  have header : s.Header deckUpdate := by
    constructor <;> intro v found
    case version => exact nomatch (show none = some v from found)
    case generatedAt => exact nomatch (show none = some v from found)
    case outputType => exact nomatch (show none = some v from found)
  have once : SpelledOnce deckUpdate := by
    rw [SpelledOnce]
    decide
  have distinct : (Json.obj deckUpdate).Distinct := by
    simp [deckUpdate, Json.Distinct, Json.FieldsDistinct, Entries.keys]
  refine ⟨filled, header, once, distinct, ?_⟩
  obtain ⟨r, merged, refilled, -, into⟩ :=
    merge_mergedInto s deckUpdate filled header once distinct
  have goal := into.shared .intent (textField "primary_goal") (.head _)
  have criteria := into.shared .intent (textsField "success_criteria") (.tail _ (.head _))
  have kind := into.typeSpecific (textField "deck_type" "internal") (.tail _ (.head _)) (by decide)
  have slides := into.typeSpecific ⟨"slide_count", .orNull .integer, .null⟩
    (.tail _ (.tail _ (.head _))) (by decide)
  have duration := into.undeclared "duration_minutes" (by decide)
  obtain ⟨held, joined, -, after, reasons⟩ := into.reasonsJoined [("tone", "peers")] rfl
  exact ⟨r, merged, refilled, into.sharedUntouched .audience rfl, goal, criteria, slides, kind,
    duration, joined, after, reasons "tone"⟩

end PromptStudio.PromptSpec
