import PromptStudio.Proofs.Spec.Switching
import PromptStudio.Spec.Validation

set_option autoImplicit false

namespace PromptStudio

/-- An object, or a value that counts as empty. -/
def Spreads (v : Json) : Prop := v.truthy = true → ∃ fields, v = .obj fields

theorem spread_cases (v : Json) :
    (Spreads v ∧ ∃ given, PromptSpec.spread v = .ok given) ∨
      (¬Spreads v ∧ PromptSpec.spread v = .error (.wrongType "value is not a mapping")) := by
  unfold PromptSpec.spread
  split
  next fields => exact .inl ⟨fun _ => ⟨fields, rfl⟩, fields, rfl⟩
  next other =>
    by_cases filled : v.truthy = true
    next =>
      right
      constructor
      · intro spreads
        obtain ⟨fields, same⟩ := spreads filled
        exact other fields same
      · exact if_pos filled
    next => exact .inl ⟨fun truthy => absurd truthy filled, [], if_neg filled⟩

theorem typeWarnings_ok (t : OutputType) {raw : Json} {given : Section}
    (spread : PromptSpec.spread raw = .ok given) : ∃ own, typeWarnings t raw = .ok own := by
  have answered := t.form.fill_answered (Entries.put given "output_type" (.str t.name))
  unfold typeWarnings
  rw [spread]
  cases filled : t.form.fill (Entries.put given "output_type" (.str t.name)) with
  | ok own => exact ⟨t.warnings own, by simp [bind, Except.bind, pure, Except.pure, filled]⟩
  | bad problems =>
    exact ⟨problems.map Problem.typeLine, by simp [bind, Except.bind, pure, Except.pure, filled]⟩
  | stop failure =>
    rw [filled] at answered
    exact answered.elim

def OwnPartSpreads (fields : Section) : Prop :=
  isKnownType (Section.value fields "output_type") = true →
    Spreads (Section.value fields "type_specific")

theorem ownWarnings_cases (fields : Section) :
    (OwnPartSpreads fields ∧ ∃ own, ownWarnings fields = .ok own) ∨
      (¬OwnPartSpreads fields ∧
        ownWarnings fields = .error (.wrongType "value is not a mapping")) := by
  unfold ownWarnings OwnPartSpreads isKnownType
  cases known : outputTypeOf? (Section.value fields "output_type") with
  | none => simp
  | some t =>
    rcases spread_cases (Section.value fields "type_specific") with
      ⟨spreads, given, spread⟩ | ⟨solid, failed⟩
    · exact .inl ⟨fun _ => spreads, typeWarnings_ok t spread⟩
    · right
      refine ⟨fun spreads => solid (spreads rfl), ?_⟩
      dsimp only
      rw [typeWarnings, failed]
      rfl

def verdictFields : List String := ["version", "output_type", "intent"]

def errorsOf (fields : Section) : List String := headerErrors fields ++ intentErrors fields

theorem errorsOf_congr {first second : Section}
    (same : ∀ key ∈ verdictFields, Section.value first key = Section.value second key) :
    errorsOf first = errorsOf second := by
  have version := same "version" (by decide)
  have outputType := same "output_type" (by decide)
  have intent := same "intent" (by decide)
  rw [errorsOf, errorsOf, headerErrors, headerErrors, intentErrors, intentErrors, version,
    outputType, intent]

theorem errors_of_validateFields {fields : Section} {v : Validation}
    (returned : validateFields fields = .ok v) : v.errors = errorsOf fields := by
  obtain ⟨own, -, same⟩ := Outcome.bind_eq_ok.mp returned
  cases same
  rfl

theorem validateFields_cases (fields : Section) :
    (OwnPartSpreads fields ∧ ∃ v, validateFields fields = .ok v) ∨
      (¬OwnPartSpreads fields ∧
        validateFields fields = .error (.wrongType "value is not a mapping")) := by
  rcases ownWarnings_cases fields with ⟨spreads, own, warned⟩ | ⟨solid, failed⟩
  · exact .inl ⟨spreads, _, Outcome.bind_eq_ok.mpr ⟨own, warned, rfl⟩⟩
  · right
    refine ⟨solid, ?_⟩
    rw [validateFields, failed]
    rfl

theorem validate_obj (u : Section) : validate (.obj u) = validateFields (patchOf u) := by
  change (normalizeUpdates (.obj u) >>= validateFields) = _
  rw [normalizeUpdates_patchOf]
  rfl

theorem validate_ok_iff (u w : Section) :
    ((∃ v, validate (.obj u) = .ok v) ↔ OwnPartSpreads (patchOf u)) ∧
      (¬OwnPartSpreads (patchOf u) →
        validate (.obj u) = .error (.wrongType "value is not a mapping")) ∧
      ((∀ key ∈ verdictFields, Section.value (patchOf u) key = Section.value (patchOf w) key) →
        ∀ v v', validate (.obj u) = .ok v → validate (.obj w) = .ok v' →
          v.errors = v'.errors ∧ v.valid = v'.valid) := by
  rw [validate_obj, validate_obj]
  refine ⟨?_, ?_, ?_⟩
  · rcases validateFields_cases (patchOf u) with ⟨spreads, returns⟩ | ⟨solid, failed⟩
    · exact iff_of_true returns spreads
    · refine iff_of_false ?_ solid
      rintro ⟨v, returned⟩
      rw [failed] at returned
      cases returned
  · intro solid
    rcases validateFields_cases (patchOf u) with ⟨spreads, -⟩ | ⟨-, failed⟩
    · exact absurd spreads solid
    · exact failed
  · intro same v v' returned returned'
    have errors : v.errors = v'.errors := by
      rw [errors_of_validateFields returned, errors_of_validateFields returned',
        errorsOf_congr same]
    exact ⟨errors, by rw [Validation.valid, Validation.valid, errors]⟩

def oddParts : Section :=
  [("version", .str "1.0.0"), ("outputType", .str "doc"),
    ("intent", .obj [("primary_goal", .str "Grow"), ("urgency", .arr [.int 1])]),
    ("audience", .arr [.int 1]), ("constraints", .obj [("length", .int 5)]),
    ("typeSpecific", .str "")]

def misfitPart : Section :=
  [("intent", .obj [("primary_goal", .str "Grow"), ("urgency", .arr [.int 1])]),
    ("output_type", .str "doc"), ("version", .str "1.0.0"),
    ("type_specific", .obj [("include_toc", .str "sometimes")])]

def listedPart : Section :=
  [("version", .str "1.0.0"), ("output_type", .str "doc"),
    ("intent", .obj [("primary_goal", .str "Grow")]), ("type_specific", .arr [.int 1])]

theorem validate_oddParts :
    OwnPartSpreads (patchOf oddParts) ∧ ¬OwnPartSpreads (patchOf listedPart) ∧
    validate (.obj listedPart) = .error (.wrongType "value is not a mapping") ∧
    (∀ key ∈ verdictFields,
      Section.value (patchOf oddParts) key = Section.value (patchOf misfitPart) key) ∧
    ∃ v v', validate (.obj oddParts) = .ok v ∧ validate (.obj misfitPart) = .ok v' ∧
      v.errors = v'.errors ∧ v.valid = v'.valid ∧ v.valid = true ∧
      v.warnings = ["Invalid urgency: [1]", "Invalid length: 5"] := by
  have spreads : OwnPartSpreads (patchOf oddParts) := fun _ truthy => absurd truthy (by decide)
  have solid : ¬OwnPartSpreads (patchOf listedPart) := by
    intro spreads
    obtain ⟨fields, same⟩ := spreads rfl rfl
    cases same
  have same : ∀ key ∈ verdictFields,
      Section.value (patchOf oddParts) key = Section.value (patchOf misfitPart) key := by
    simp only [verdictFields, List.forall_mem_cons]
    exact ⟨rfl, rfl, rfl, nofun⟩
  obtain ⟨v, returned⟩ := (validate_ok_iff oddParts misfitPart).1.mpr spreads
  refine ⟨spreads, solid, (validate_ok_iff listedPart misfitPart).2.1 solid, same, v, _,
    returned, rfl, ?_⟩
  obtain ⟨errors, valid⟩ := (validate_ok_iff oddParts misfitPart).2.2 same v _ returned rfl
  cases returned
  exact ⟨errors, valid, rfl, rfl⟩

theorem validate_listedPart : ¬∃ v, validate (.obj listedPart) = .ok v := by
  rintro ⟨v, returned⟩
  have failed : validate (.obj listedPart) = .error (.wrongType "value is not a mapping") := rfl
  rw [failed] at returned
  cases returned

def HasGoal (fields : Section) : Prop :=
  ∃ intent, Section.value fields "intent" = .obj intent ∧
    (Section.value intent "primary_goal").truthy = true

def HasBasics (fields : Section) : Prop :=
  (Section.value fields "version").truthy = true ∧
    (Section.value fields "output_type").truthy = true ∧ HasGoal fields

theorem headerErrors_eq_nil_iff {fields : Section} :
    headerErrors fields = [] ↔ (Section.value fields "version").truthy = true ∧
      (Section.value fields "output_type").truthy = true ∧
      isKnownType (Section.value fields "output_type") = true := by
  rw [headerErrors, List.append_eq_nil_iff]
  cases (Section.value fields "version").truthy <;>
    cases (Section.value fields "output_type").truthy <;>
    cases isKnownType (Section.value fields "output_type") <;> simp

theorem intentErrors_eq_nil_iff {fields : Section} :
    intentErrors fields = [] ↔ HasGoal fields := by
  unfold intentErrors HasGoal
  cases Section.value fields "intent" with
  | obj intent => cases goal : (Section.value intent "primary_goal").truthy <;> simp [goal]
  | _ => simp

theorem valid_iff {fields : Section} {v : Validation} (returned : validateFields fields = .ok v) :
    v.valid = true ↔
      HasBasics fields ∧ isKnownType (Section.value fields "output_type") = true := by
  rw [Validation.valid, errors_of_validateFields returned, List.isEmpty_iff, errorsOf,
    List.append_eq_nil_iff, headerErrors_eq_nil_iff, intentErrors_eq_nil_iff, HasBasics]
  tauto

theorem goalCheck_iff (intent : Json) :
    (intent.truthy = true ∧ ∃ entries, intent.ownEntries "get" = .ok entries ∧
      (Section.value entries "primary_goal").truthy = true) ↔
      ∃ entries, intent = .obj entries ∧
        (Section.value entries "primary_goal").truthy = true := by
  cases intent with
  | obj entries =>
    cases entries with
    | nil => simp [Json.truthy, Section.value]
    | cons => simp [Json.truthy, Json.ownEntries]
  | _ => simp [Json.ownEntries]

-- Three tests and a look-up, one after the other: a failing one answers for those behind it.
theorem minimallyValid_obj_iff (u : Section) :
    minimallyValid (.obj u) = .ok true ↔ HasBasics (patchOf u) := by
  rw [HasBasics, HasGoal, ← goalCheck_iff]
  unfold minimallyValid
  dsimp only
  rw [normalizeUpdates_patchOf]
  cases version : (Section.value (patchOf u) "version").truthy <;>
    cases typed : (Section.value (patchOf u) "output_type").truthy <;>
    cases filled : (Section.value (patchOf u) "intent").truthy <;>
    cases entries : (Section.value (patchOf u) "intent").ownEntries "get" <;>
    simp [bind, Except.bind, pure, Except.pure, version, typed, filled, entries]

namespace PromptSpec

variable {s : PromptSpec}

theorem intent_of_load {raw : Json} (loaded : load raw = .ok s) :
    SectionName.intent.form.Holds s.intent := by
  cases raw with
  | obj fields =>
    obtain ⟨-, read⟩ := parts_of_loadFields loaded
    exact holds_of_sectionIn SectionName.intent.form_wellFormed (read.shared .intent)
  | _ => exact nomatch loaded

theorem truthy_ofOption_str (text : Option String) :
    (Json.ofOption .str text).truthy = (text.getD "" != "") := by
  cases text <;> rfl

theorem get?_goal_of_holds (held : SectionName.intent.form.Holds s.intent) :
    Entries.get? s.intent "primary_goal" = some (.str (Section.text s.intent "primary_goal")) := by
  have declared : textField "primary_goal" ∈ SectionName.intent.form.fields := .head _
  obtain ⟨v, found, read⟩ := held.field SectionName.intent.form_wellFormed declared
  obtain ⟨text, -, rfl⟩ := Checked.map_eq_ok_iff.mp read
  have there : Entries.get? s.intent "primary_goal" = some (.str text) := found
  rw [Section.text, Section.value, there]
  rfl

theorem minimallyValid_iff (held : SectionName.intent.form.Holds s.intent) :
    s.minimallyValid = true ↔ HasBasics (s.toFields .null) := by
  have version : Section.value (s.toFields .null) "version" = Json.ofOption .str s.version := rfl
  have typed : Section.value (s.toFields .null) "output_type" =
      Json.ofOption .str s.outputType := rfl
  have intent : Section.value (s.toFields .null) "intent" = .obj s.intent := rfl
  have goal : Section.value s.intent "primary_goal" =
      .str (Section.text s.intent "primary_goal") := by
    rw [Section.value, get?_goal_of_holds held, Option.getD_some]
  rw [minimallyValid, HasBasics, HasGoal, version, typed, intent, truthy_ofOption_str,
    truthy_ofOption_str]
  simp [goal, and_assoc]

theorem validate_eq_ok (s : PromptSpec) : ∃ v, s.validate = .ok v := by
  have spreads : OwnPartSpreads (s.toFields .null) := fun _ _ => ⟨s.typeSpecific, rfl⟩
  rcases validateFields_cases (s.toFields .null) with ⟨-, returns⟩ | ⟨solid, -⟩
  · exact returns
  · exact absurd spreads solid

end PromptSpec

theorem valid_iff_minimallyValid :
    (∀ s : PromptSpec, SectionName.intent.form.Holds s.intent →
      ∃ v, s.validate = .ok v ∧
        (v.valid = true ↔ s.minimallyValid = true ∧ isKnownType s.tag = true)) ∧
      ∀ (u : Section) (v : Validation), validate (.obj u) = .ok v →
        (v.valid = true ↔ minimallyValid (.obj u) = .ok true ∧
          isKnownType (Section.value (patchOf u) "output_type") = true) := by
  constructor
  · intro s held
    obtain ⟨v, returned⟩ := s.validate_eq_ok
    refine ⟨v, returned, ?_⟩
    rw [valid_iff returned, PromptSpec.minimallyValid_iff held]
    rfl
  · intro u v returned
    rw [validate_obj] at returned
    rw [valid_iff returned, minimallyValid_obj_iff]

-- The two spellings of the type differ, so that the part of the loaded spec has another tag.
def twoTypes : Section :=
  [("output_type", .str "deck"), ("outputType", .str "doc"),
    ("intent", .obj [("primary_goal", .str "Grow")])]

def poster : Section :=
  [("version", .str "1.0.0"), ("outputType", .str "poster"),
    ("intent", .obj [("primary_goal", .str "Grow")])]

theorem valid_twoTypes :
    (∃ s, PromptSpec.load (.obj twoTypes) = .ok s ∧ SectionName.intent.form.Holds s.intent ∧
      ∃ v, s.validate = .ok v ∧ s.minimallyValid = true ∧ isKnownType s.tag = true ∧
        v.valid = true) ∧
    ∃ v, validate (.obj poster) = .ok v ∧ minimallyValid (.obj poster) = .ok true ∧
      isKnownType (Section.value (patchOf poster) "output_type") = false ∧ v.valid = false := by
  constructor
  · obtain ⟨s, loaded⟩ : ∃ s, PromptSpec.load (.obj twoTypes) = .ok s := ⟨_, rfl⟩
    have held := PromptSpec.intent_of_load loaded
    obtain ⟨v, returned, agree⟩ := valid_iff_minimallyValid.1 s held
    refine ⟨s, loaded, held, v, returned, ?_⟩
    cases loaded
    exact ⟨rfl, rfl, agree.mpr ⟨rfl, rfl⟩⟩
  · refine ⟨_, rfl, rfl, rfl, ?_⟩
    have agree := valid_iff_minimallyValid.2 poster _ rfl
    rw [← Bool.not_eq_true, agree]
    exact fun both => absurd both.2 (by decide)

end PromptStudio
