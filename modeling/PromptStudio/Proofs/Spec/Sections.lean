import PromptStudio.Proofs.Form.Filling
import PromptStudio.Spec.Basic

set_option autoImplicit false

namespace PromptStudio

theorem SectionName.form_wellFormed (name : SectionName) : name.form.WellFormed := by
  cases name <;> constructor
  all_goals first
    | decide
    | simp [form, intentForm, audienceForm, contextForm, constraintsForm, qualityForm, textField,
        textsField, textOrNullField, Kind.read, Reader.text, Reader.listOf, Checked.items,
        Checked.map, Json.texts]

theorem inferredForm_wellFormed : inferredForm.WellFormed := by
  constructor
  · decide
  · simp [inferredForm, textOrNullField, Kind.read, Reader.mapOf, Checked.entries, Checked.map,
      Json.ofTextMap]

theorem genericForm_wellFormed : genericForm.WellFormed := by
  constructor
  · decide
  · simp [genericForm, textOrNullField, Kind.read]

namespace OutputType

theorem name_of_ofName? {name : String} {t : OutputType} (known : ofName? name = some t) :
    t.name = name := by
  have inside := List.lookup_eq_some_iff.mp known
  obtain ⟨before, after, split, -⟩ := inside
  have member : (name, t) ∈ named := by simp [split]
  revert member
  cases t <;> simp [named, OutputType.name, eq_comm]

theorem form_wellFormed (t : OutputType) : t.form.WellFormed := by
  cases t <;> constructor
  all_goals first
    | decide
    | simp [form, fields, OutputType.name, textField, textsField, flagField, textOrNullField, Kind.read,
        Reader.text, Reader.boolean, Reader.listOf, Reader.choice, Checked.items, Checked.map,
        Json.texts]

theorem fields_untagged (t : OutputType) : ∀ field ∈ t.fields, field.name ≠ "output_type" := by
  cases t <;> decide

end OutputType

theorem typeForm_wellFormed (tag : Json) : (typeForm tag).WellFormed := by
  unfold typeForm
  split
  · exact OutputType.form_wellFormed _
  · exact genericForm_wellFormed

theorem typeForm_isOpen (tag : Json) : (typeForm tag).isOpen = true := by
  unfold typeForm
  split <;> rfl

theorem read_tagField {tag v w : Json} {field : Field} (inside : field ∈ (typeForm tag).fields)
    (named : field.name = "output_type") (read : field.kind.read v = .ok w) : w = v := by
  unfold typeForm at inside
  split at inside
  next t _ =>
    rcases List.mem_cons.mp inside with rfl | other
    · obtain ⟨found, chosen, rfl⟩ := Checked.map_eq_ok_iff.mp read
      obtain ⟨rfl, rfl⟩ := Reader.choice_single chosen
      rfl
    · exact absurd named (t.fields_untagged field other)
  next =>
    obtain rfl : field = textOrNullField "output_type" := by simpa [genericForm] using inside
    cases v <;> simp_all [textOrNullField, Kind.read, Reader.text, Checked.map, Checked.wrong]

-- The form of an output type takes the type for its tag, and no other field has that name.
theorem typeForm_reads_tag (outputType : Option String) {field : Field}
    (inside : field ∈ (typeForm (Json.ofOption .str outputType)).fields)
    (named : field.name = "output_type") :
    field.kind.read (Json.ofOption .str outputType) = .ok (Json.ofOption .str outputType) := by
  have generic (found : typeForm (Json.ofOption .str outputType) = genericForm) :
      field.kind.read (Json.ofOption .str outputType) = .ok (Json.ofOption .str outputType) := by
    rw [found] at inside
    obtain rfl : field = textOrNullField "output_type" := by simpa [genericForm] using inside
    cases outputType <;> rfl
  cases outputType with
  | none => exact generic rfl
  | some name =>
    cases known : OutputType.ofName? name with
    | none => exact generic (by simp [typeForm, outputTypeOf?, Json.ofOption, known])
    | some t =>
      obtain rfl := OutputType.name_of_ofName? known
      have found : typeForm (Json.ofOption .str (some t.name)) = t.form := by
        simp [typeForm, outputTypeOf?, Json.ofOption]
      rw [found] at inside
      rcases List.mem_cons.mp inside with rfl | other
      · simp [Kind.read, Reader.choice, Json.ofOption, Checked.map]
      · exact absurd named (t.fields_untagged field other)

theorem typeForm_declares_tag (tag : Json) : (typeForm tag).declares "output_type" = true := by
  unfold typeForm
  split <;> rfl

theorem exists_tagField (tag : Json) :
    ∃ field ∈ (typeForm tag).fields, field.name = "output_type" := by
  obtain ⟨field, inside, named⟩ := List.any_eq_true.mp (typeForm_declares_tag tag)
  exact ⟨field, inside, beq_iff_eq.mp named⟩

theorem typeForm?_ofOption (outputType : Option String) :
    typeForm? (Json.ofOption .str outputType) = .ok (typeForm (Json.ofOption .str outputType)) := by
  cases outputType <;> rfl

theorem ofOption_str_inj {a b : Option String} :
    Json.ofOption .str a = Json.ofOption .str b ↔ a = b := by
  cases a <;> cases b <;> simp [Json.ofOption]

namespace PromptSpec

def tag (s : PromptSpec) : Json := Json.ofOption .str s.outputType

structure Filled (s : PromptSpec) : Prop where
  shared : ∀ name : SectionName, name.form.Holds (s.shared name)
  typeSpecific : (typeForm s.tag).Holds s.typeSpecific
  inferred : inferredForm.Holds s.inferred
  tagged : Entries.get? s.typeSpecific "output_type" = some s.tag

theorem filled_ofType (outputType : Option String) : (ofType outputType).Filled := by
  have tagged : Entries.get? [("output_type", Json.ofOption .str outputType)] "output_type" =
      some (Json.ofOption .str outputType) := rfl
  have shaped : ∀ field ∈ (typeForm (Json.ofOption .str outputType)).fields, ∀ v,
      Entries.get? [("output_type", Json.ofOption .str outputType)] field.name = some v →
        field.kind.read v = .ok v := by
    intro field inside v found
    by_cases named : field.name = "output_type"
    next =>
      obtain rfl : Json.ofOption .str outputType = v := by simpa [named, tagged] using found
      exact typeForm_reads_tag outputType inside named
    next => simp [Entries.get?_cons, named] at found
  constructor
  case shared =>
    intro name
    have empty : (ofType outputType).shared name = name.form.empty := by cases name <;> rfl
    rw [empty]
    exact Form.empty_holds name.form_wellFormed
  case typeSpecific => exact Form.complete_holds (typeForm_wellFormed _) shaped
  case inferred => exact Form.empty_holds inferredForm_wellFormed
  case tagged =>
    obtain ⟨field, inside, named⟩ := exists_tagField (Json.ofOption .str outputType)
    have completed := Form.get?_complete (typeForm_wellFormed _)
      [("output_type", Json.ofOption .str outputType)] inside
    rw [named, tagged] at completed
    exact completed

structure Parts.Read (p : Parts) (s : PromptSpec) : Prop where
  version : p.version = .ok s.version
  outputType : p.outputType = .ok s.outputType
  generatedAt : p.generatedAt = .ok s.generatedAt
  shared : ∀ name, p.shared name = .ok (s.shared name)
  typeSpecific : p.typeSpecific = s.typeSpecific
  inferred : p.inferred = .ok s.inferred

theorem Parts.Read.of_eq_ok {p : Parts} {s : PromptSpec} (ok : ofParts p = .ok s) : p.Read s := by
  simp only [ofParts, Seq.seq, Functor.map, Checked.seq_eq_ok_iff, Checked.map_eq_ok_iff] at ok
  obtain ⟨_, inferred, ⟨_, own, ⟨_, quality, ⟨_, constraints, ⟨_, context, ⟨_, audience, ⟨_, intent,
    ⟨_, generatedAt, ⟨_, outputType, ⟨version, readVersion, rfl⟩, readType, rfl⟩, readMoment, rfl⟩,
    readIntent, rfl⟩, readAudience, rfl⟩, readContext, rfl⟩, readConstraints, rfl⟩, readQuality,
    rfl⟩, readOwn, rfl⟩, readInferred, rfl⟩ := ok
  refine ⟨readVersion, readType, readMoment, fun name => ?_, by simpa using readOwn, readInferred⟩
  cases name <;> assumption

theorem Parts.Read.ofParts {p : Parts} {s : PromptSpec} (read : p.Read s) :
    PromptSpec.ofParts p = .ok s := by
  obtain ⟨version, outputType, generatedAt, shared, typeSpecific, inferred⟩ := read
  simp only [PromptSpec.ofParts, version, outputType, generatedAt, shared, typeSpecific, inferred]
  rfl

theorem versionReader_eq_ok_iff {v : Json} {text : Option String} :
    versionReader v = .ok text ↔ v = Json.ofOption .str text := by
  constructor
  · intro read
    cases v with
    | null =>
      obtain rfl : none = text := by simpa [versionReader, Reader.optional] using read
      rfl
    | str s =>
      obtain rfl : some s = text := by
        simpa [versionReader, Reader.optional, Reader.text, Checked.map] using read
      rfl
    | _ => simp [versionReader, Reader.optional, Reader.text, Checked.wrong, Checked.map] at read
  · rintro rfl
    cases text <;> rfl

theorem holds_of_sectionIn {fields : Section} {key : String} {f : Form} {s : Section}
    (wellFormed : f.WellFormed) (ok : sectionIn fields key f = .ok s) : f.Holds s := by
  unfold sectionIn Reader.withDefault at ok
  split at ok
  next v found =>
    have read := Checked.under_eq_ok_iff.mp ok
    cases v with
    | obj entries => exact Form.holds_of_fill wellFormed read
    | _ => simp [Form.read, Reader.record, Checked.wrong] at read
  next =>
    obtain rfl : f.empty = s := by simpa using ok
    exact Form.empty_holds wellFormed

theorem typeForm_of_typeForm? {tag : Json} {form : Form} (found : typeForm? tag = .ok form) :
    form = typeForm tag := by
  unfold typeForm? at found
  split at found
  · simp at found
  · simp at found
  · injection found with same
    exact same.symm

theorem bindType_eq_ok {tag raw : Json} {own : Section} (ok : bindType tag raw = .ok own) :
    (typeForm tag).Holds own ∧ Entries.get? own "output_type" = some tag := by
  unfold bindType at ok
  split at ok
  next => simp at ok
  next given _ =>
    split at ok
    next => simp at ok
    next form chosen =>
      obtain rfl := typeForm_of_typeForm? chosen
      refine ⟨Form.holds_of_fill (typeForm_wellFormed tag) ok, ?_⟩
      obtain ⟨field, inside, named⟩ := exists_tagField tag
      have accepted := Form.accepts_of_fill ok
      rw [Form.fill_of_accepts (typeForm_wellFormed tag) accepted] at ok
      injection ok with settled
      have put : Entries.get? (Entries.put given "output_type" tag) field.name = some tag := by
        rw [named, Entries.get?_put, if_pos rfl]
      obtain ⟨w, read⟩ := Kind.read_ok_of_accepts (accepted field inside tag put)
      obtain rfl := read_tagField inside named read
      have value : field.settled (Entries.put given "output_type" w) = w := by
        rw [Field.settled, put]
        simp [read]
      have stored := Form.get?_settled (typeForm_wellFormed w)
        (Entries.put given "output_type" w) inside
      rw [settled, named, value] at stored
      exact stored

end PromptSpec

end PromptStudio
