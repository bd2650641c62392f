import PromptStudio.Proofs.Spec.Canonical
import PromptStudio.Proofs.Spec.Readiness

set_option autoImplicit false

namespace PromptStudio

open PromptSpec

variable {choices : Section} {key : String}

def ownChoice (choices : Section) : Option Json :=
  (chosen choices "type_specific").or (chosen choices "typeSpecific")

/-- The constraints that are chosen, laid over the length that is chosen by itself. -/
def constraintChoices (choices : Section) : Section :=
  Entries.overlay (chosenUnder choices "length" "length")
    ((updatesFor choices "constraints").getD [])

def styleChoices (choices : Section) : Section :=
  chosenUnder choices "tone" "tone" ++ chosenUnder choices "format" "format"

def overridePatch (choices : Section) : Section :=
  part "inferred" (styleChoices choices) ++ part "constraints" (constraintChoices choices) ++
    ((ownChoice choices).map fun v => ("type_specific", v)).toList ++
    ["intent", "audience", "context", "quality"].flatMap fun key => chosenUnder choices key key

theorem chosen_eq (choices : Section) (key : String) :
    chosen choices key =
      if (Section.value choices key).truthy then some (Section.value choices key) else none := by
  unfold chosen Section.value
  cases Entries.get? choices key <;> rfl

theorem filledPart_chosen (choices : Section) (key : String) :
    filledPart (chosen choices key) = updatesFor choices key := by
  have given : updatesFor choices key = filledPart (some (Section.value choices key)) := by
    change filledPart (Entries.get? choices key) = _
    cases found : Entries.get? choices key <;> simp [Section.value, found, filledPart]
  rw [given, chosen_eq]
  generalize Section.value choices key = v
  cases v with
  | obj fields => cases fields <;> rfl
  | _ => split <;> rfl

theorem overrideUpdates_of_spreads (spreads : Spreads (Section.value choices "constraints")) :
    overrideUpdates choices = .ok (overridePatch choices) := by
  have laid := filledPart_chosen choices "constraints"
  unfold overrideUpdates overridePatch constraintChoices styleChoices ownChoice
  rw [← laid, chosen_eq choices "constraints"]
  by_cases counts : (Section.value choices "constraints").truthy = true
  next =>
    obtain ⟨fields, object⟩ := spreads counts
    rw [if_pos counts, object]
    cases fields <;> rfl
  next =>
    rw [if_neg counts]
    rfl

theorem overrideUpdates_of_not_spreads
    (solid : ¬Spreads (Section.value choices "constraints")) :
    overrideUpdates choices = .error (.wrongType "value is not a mapping") := by
  have counts : (Section.value choices "constraints").truthy = true := by
    by_contra empty
    exact solid fun truthy => absurd truthy empty
  have refused : PromptSpec.spread (Section.value choices "constraints") =
      .error (.wrongType "value is not a mapping") :=
    ((spread_cases _).resolve_left fun fits => solid fits.1).2
  unfold overrideUpdates
  rw [chosen_eq choices "constraints", if_pos counts]
  simp only [refused]
  rfl

theorem get?_chosenUnder (choices : Section) (key target other : String) :
    Entries.get? (chosenUnder choices key target) other =
      if other = target then chosen choices key else none := by
  unfold chosenUnder
  cases chosen choices key <;> simp [Entries.get?_cons]

theorem get?_part (key : String) (fields : Section) (other : String) :
    Entries.get? (part key fields) other =
      if other = key then (filledPart (some (.obj fields))).map .obj else none := by
  unfold part
  cases fields <;> simp [Entries.get?_cons, filledPart]

theorem get?_ownPart (own : Option Json) (other : String) :
    Entries.get? (own.map fun v => ("type_specific", v)).toList other =
      if other = "type_specific" then own else none := by
  cases own <;> simp [Entries.get?_cons]

theorem filledPart_map_obj (fields : Section) :
    filledPart ((filledPart (some (.obj fields))).map .obj) = filledPart (some (.obj fields)) := by
  cases fields <;> rfl

theorem get?_overridePatch (choices : Section) (key : String) :
    Entries.get? (overridePatch choices) key =
      if key = "inferred" then (filledPart (some (.obj (styleChoices choices)))).map .obj
      else if key = "constraints" then
        (filledPart (some (.obj (constraintChoices choices)))).map .obj
      else if key = "type_specific" then ownChoice choices
      else if key ∈ ["intent", "audience", "context", "quality"] then chosen choices key
      else none := by
  simp only [overridePatch, Entries.get?_append, get?_part, get?_ownPart, List.flatMap_cons,
    List.flatMap_nil, get?_chosenUnder, Entries.get?_nil]
  split_ifs <;> simp_all

theorem overridePatch_partsOnly (choices : Section) : PartsOnly (overridePatch choices) := by
  constructor <;> simp [scalarFor, get?_overridePatch]

theorem updatesFor_overridePatch_shared (choices : Section) {name : SectionName}
    (other : name ≠ .constraints) :
    updatesFor (overridePatch choices) name.key = updatesFor choices name.key := by
  rw [← filledPart_chosen choices]
  change filledPart (Entries.get? (overridePatch choices) name.key) = _
  rw [get?_overridePatch]
  cases name with
  | constraints => exact absurd rfl other
  | _ => rfl

theorem updatesFor_overridePatch_constraints (choices : Section) :
    updatesFor (overridePatch choices) "constraints" =
      filledPart (some (.obj (constraintChoices choices))) := by
  change filledPart (Entries.get? (overridePatch choices) "constraints") = _
  rw [get?_overridePatch]
  exact filledPart_map_obj _

theorem updatesFor_overridePatch_inferred (choices : Section) :
    updatesFor (overridePatch choices) "inferred" =
      filledPart (some (.obj (styleChoices choices))) := by
  change filledPart (Entries.get? (overridePatch choices) "inferred") = _
  rw [get?_overridePatch]
  exact filledPart_map_obj _

theorem updatesFor_overridePatch_own (choices : Section) :
    updatesFor (overridePatch choices) "type_specific" = filledPart (ownChoice choices) := by
  change filledPart (Entries.get? (overridePatch choices) "type_specific") = _
  rw [get?_overridePatch]
  rfl

theorem getD_filledPart (fields : Section) :
    (filledPart (some (.obj fields))).getD [] = fields := by
  cases fields <;> rfl

theorem chosen_mem {v : Json} (counts : chosen choices key = some v) : (key, v) ∈ choices := by
  unfold chosen at counts
  split at counts
  next w found =>
    split at counts
    next =>
      cases counts
      exact Entries.mem_of_get? found
    next => cases counts
  next => cases counts

theorem chosenPart_names (distinct : (Json.obj choices).Distinct) (key : String) :
    ∀ fields ∈ updatesFor choices key, (Entries.keys fields).Nodup := by
  intro fields found
  rw [← filledPart_chosen choices] at found
  exact (distinct.value (chosen_mem (filledPart_eq_some found))).names

theorem ownChoice_names (distinct : (Json.obj choices).Distinct) :
    ∀ fields ∈ filledPart (ownChoice choices), (Entries.keys fields).Nodup := by
  intro fields found
  rcases Option.or_eq_some_iff.mp (filledPart_eq_some found) with first | ⟨-, second⟩
  · exact (distinct.value (chosen_mem first)).names
  · exact (distinct.value (chosen_mem second)).names

theorem styleChoices_names (choices : Section) : (Entries.keys (styleChoices choices)).Nodup := by
  unfold styleChoices chosenUnder
  cases chosen choices "tone" <;> cases chosen choices "format" <;> simp [Entries.keys]

theorem constraintChoices_names (choices : Section) :
    (Entries.keys (constraintChoices choices)).Nodup := by
  refine Entries.nodup_keys_overlay ?_ _
  unfold chosenUnder
  cases chosen choices "length" <;> simp [Entries.keys]

theorem filledPart_names {fields : Section} (names : (Entries.keys fields).Nodup) :
    ∀ given ∈ filledPart (some (.obj fields)), (Entries.keys given).Nodup := by
  intro given found
  cases filledPart_eq_some found
  exact names

theorem get?_constraintChoices (distinct : (Json.obj choices).Distinct) (key : String) :
    Entries.get? (constraintChoices choices) key =
      (Entries.get? ((updatesFor choices "constraints").getD []) key).or
        (if key = "length" then chosen choices "length" else none) := by
  have names : (Entries.keys ((updatesFor choices "constraints").getD [])).Nodup := by
    cases found : updatesFor choices "constraints" with
    | none => simp [Entries.keys]
    | some fields => exact chosenPart_names distinct "constraints" fields found
  rw [constraintChoices, Entries.get?_overlay _ _ names, get?_chosenUnder]

theorem get?_styleChoices (choices : Section) (key : String) :
    Entries.get? (styleChoices choices) key =
      if key ∈ ["tone", "format"] then chosen choices key else none := by
  rw [styleChoices, Entries.get?_append, get?_chosenUnder, get?_chosenUnder]
  split_ifs <;> simp_all

namespace PromptSpec

variable {s r : PromptSpec}

/-- Field by field, what `r` is when the choices are put over `s`. -/
structure OverriddenBy (s : PromptSpec) (choices : Section) (r : PromptSpec) : Prop where
  filled : r.Filled
  version : r.version = s.version
  outputType : r.outputType = s.outputType
  generatedAt : r.generatedAt = s.generatedAt
  shared : ∀ name : SectionName, name ≠ .constraints → ∀ field ∈ name.form.fields,
    Entries.get? (r.shared name) field.name =
      field.updated (s.shared name) ((updatesFor choices name.key).getD [])
  sharedUntouched : ∀ name : SectionName, name ≠ .constraints →
    updatesFor choices name.key = none → r.shared name = s.shared name
  constraints : ∀ field ∈ constraintsForm.fields, field.name ≠ "length" →
    Entries.get? r.constraints field.name =
      field.updated s.constraints ((updatesFor choices "constraints").getD [])
  length : Entries.get? r.constraints "length" =
    ((((Entries.get? ((updatesFor choices "constraints").getD []) "length").or
      (chosen choices "length")).bind Json.asText?).map .str).or
        (Entries.get? s.constraints "length")
  constraintsUntouched : updatesFor choices "constraints" = none → chosen choices "length" = none →
    r.constraints = s.constraints
  typeSpecific : ∀ field ∈ (typeForm s.tag).fields, field.name ≠ "output_type" →
    Entries.get? r.typeSpecific field.name =
      field.updated s.typeSpecific ((filledPart (ownChoice choices)).getD [])
  undeclared : ∀ key, (typeForm s.tag).declares key = false →
    Entries.get? r.typeSpecific key =
      (Entries.get? ((filledPart (ownChoice choices)).getD []) key).or
        (Entries.get? s.typeSpecific key)
  typeSpecificUntouched : filledPart (ownChoice choices) = none → r.typeSpecific = s.typeSpecific
  style : ∀ key ∈ ["tone", "format"],
    Entries.get? r.inferred key =
      (((chosen choices key).bind Json.asText?).map .str).or (Entries.get? s.inferred key)
  inferred : ∀ field ∈ inferredForm.fields, field.name ∉ ["tone", "format"] →
    Entries.get? r.inferred field.name = Entries.get? s.inferred field.name

theorem readIn_textField (name default : String) (updates : Section) :
    (textField name default).readIn updates =
      ((Entries.get? updates name).bind Json.asText?).map .str := by
  rw [Option.map_bind]
  exact Option.bind_congr fun v _ => read_text v

theorem readIn_textOrNullField {name : String} {updates : Section}
    (counts : ∀ v, Entries.get? updates name = some v → v ≠ .null) :
    (textOrNullField name).readIn updates =
      ((Entries.get? updates name).bind Json.asText?).map .str := by
  rw [Option.map_bind]
  refine Option.bind_congr fun v found => ?_
  have read : (textOrNullField name).kind.read v = Kind.text.read v := by
    have filled := counts v found
    cases v with
    | null => exact absurd rfl filled
    | _ => rfl
  rw [read]
  exact read_text v

theorem chosen_ne_null {v : Json} (counts : chosen choices key = some v) : v ≠ .null := by
  rintro rfl
  rw [chosen_eq] at counts
  split at counts
  next truthy =>
    rw [Option.some.inj counts] at truthy
    cases truthy
  next => cases counts

theorem constraints_of_override (filled : s.Filled)
    (merged : s.mergePatch (overridePatch choices) = .ok r) {field : Field}
    (inside : field ∈ constraintsForm.fields) :
    Entries.get? r.constraints field.name =
      field.updated s.constraints (constraintChoices choices) := by
  have names := filledPart_names (constraintChoices_names choices)
  change Entries.get? (r.shared .constraints) field.name = _
  rw [shared_of_mergePatch filled merged, SectionName.key, updatesFor_overridePatch_constraints,
    filled.get?_shared .constraints names inside, getD_filledPart]
  rfl

theorem inferred_of_override (filled : s.Filled)
    (merged : s.mergePatch (overridePatch choices) = .ok r) {field : Field}
    (inside : field ∈ inferredForm.fields) :
    Entries.get? r.inferred field.name = field.updated s.inferred (styleChoices choices) := by
  have names := filledPart_names (styleChoices_names choices)
  have reasonless : s.reasoningUpdates (styleChoices choices) = styleChoices choices := by
    have absent : Section.value (styleChoices choices) "reasoning" = .null := by
      rw [Section.value, get?_styleChoices, if_neg (by decide)]
      rfl
    rw [reasoningUpdates, absent]
  rw [inferred_of_mergePatch filled merged, updatesFor_overridePatch_inferred,
    filled.get?_inferred names inside, getD_filledPart, reasonless]

theorem overriddenBy_of_mergePatch (filled : s.Filled) (distinct : (Json.obj choices).Distinct)
    (merged : s.mergePatch (overridePatch choices) = .ok r) : s.OverriddenBy choices r := by
  have parts := overridePatch_partsOnly choices
  have kept := parts.kept s
  have shared := shared_of_mergePatch filled merged
  have own := typeSpecific_of_mergePatch filled kept merged
  rw [updatesFor_overridePatch_own] at own
  constructor
  case filled => exact filled_of_mergePatch merged
  case version =>
    have read := version_of_mergePatch merged
    rw [parts.version] at read
    exact (Checked.ok.inj read).symm
  case outputType => exact ofOption_str_inj.mp ((tag_of_mergePatch merged).trans kept)
  case generatedAt =>
    have read := generatedAt_of_mergePatch merged
    rw [parts.generatedAt] at read
    exact (Checked.ok.inj read).symm
  case shared =>
    intro name other field inside
    rw [shared name, updatesFor_overridePatch_shared choices other]
    exact filled.get?_shared name (chosenPart_names distinct name.key) inside
  case sharedUntouched =>
    intro name other absent
    rw [shared name, updatesFor_overridePatch_shared choices other, absent, Form.mergedPart]
  case constraints =>
    intro field inside other
    rw [constraints_of_override filled merged inside, Field.updated, Field.updated,
      Field.readIn, Field.readIn, get?_constraintChoices distinct, if_neg other, Option.or_none]
  case length =>
    have held := constraints_of_override filled merged
      (show textField "length" "medium" ∈ constraintsForm.fields from .head _)
    rw [Field.updated, readIn_textField, get?_constraintChoices distinct, if_pos rfl] at held
    exact held
  case constraintsUntouched =>
    intro absent unchosen
    have nothing : constraintChoices choices = [] := by
      simp [constraintChoices, absent, chosenUnder, unchosen]
    have part := shared .constraints
    rw [SectionName.key, updatesFor_overridePatch_constraints, nothing] at part
    exact part
  case typeSpecific =>
    intro field inside other
    rw [own]
    exact Form.get?_mergedPart (typeForm_wellFormed s.tag) filled.typeSpecific
      (ownChoice_names distinct) s.tag_suits inside (by simp [Entries.get?_cons, other])
  case undeclared =>
    intro key unknown
    have other : key ≠ "output_type" := by
      rintro rfl
      simp [typeForm_declares_tag] at unknown
    rw [own]
    exact Form.get?_mergedPart_undeclared (typeForm_isOpen s.tag) (ownChoice_names distinct)
      s.tag_suits unknown (by simp [Entries.get?_cons, other])
  case typeSpecificUntouched =>
    intro absent
    rw [own, absent, Form.mergedPart]
  case style =>
    intro key style
    have declared : textOrNullField key ∈ inferredForm.fields := by
      simp only [List.mem_cons, List.not_mem_nil, or_false] at style
      rcases style with rfl | rfl
      · exact .head _
      · exact .tail _ (.head _)
    have held := inferred_of_override filled merged declared
    have found : Entries.get? (styleChoices choices) key = chosen choices key := by
      rw [get?_styleChoices, if_pos style]
    rw [Field.updated, readIn_textOrNullField, found] at held
    · exact held
    · intro v given
      exact chosen_ne_null (found.symm.trans given)
  case inferred =>
    intro field inside other
    rw [inferred_of_override filled merged inside, Field.updated, Field.readIn,
      get?_styleChoices, if_neg other]
    rfl

theorem override_obj (filled : s.Filled) (choices : Section) :
    s.override (.obj choices) =
      overrideUpdates choices >>= fun updates => (s.mergePatch updates).toOutcome := by
  cases choices with
  | nil =>
    have nothing : overrideUpdates [] = .ok [] := rfl
    rw [nothing]
    change _ = (s.mergePatch []).toOutcome
    rw [filled.mergePatch_nil]
    rfl
  | cons entry rest => rfl

theorem override_of_spreads (filled : s.Filled)
    (spreads : Spreads (Section.value choices "constraints")) :
    ∃ r, s.override (.obj choices) = .ok r ∧ s.mergePatch (overridePatch choices) = .ok r := by
  have parts := overridePatch_partsOnly choices
  obtain ⟨r, merged⟩ := mergePatch_ok_of_kept filled parts.plain (parts.kept s)
  refine ⟨r, ?_, merged⟩
  rw [override_obj filled, overrideUpdates_of_spreads spreads]
  exact congrArg Checked.toOutcome merged

theorem override_ok_iff (s : PromptSpec) (filled : s.Filled) (choices : Section)
    (distinct : (Json.obj choices).Distinct) :
    ((∃ r, s.override (.obj choices) = .ok r) ↔
      Spreads (Section.value choices "constraints")) ∧
      (¬Spreads (Section.value choices "constraints") →
        s.override (.obj choices) = .error (.wrongType "value is not a mapping")) ∧
      ∀ r, s.override (.obj choices) = .ok r → s.OverriddenBy choices r := by
  have stopped (solid : ¬Spreads (Section.value choices "constraints")) :
      s.override (.obj choices) = .error (.wrongType "value is not a mapping") := by
    rw [override_obj filled, overrideUpdates_of_not_spreads solid]
    rfl
  have spreads {r : PromptSpec} (overridden : s.override (.obj choices) = .ok r) :
      Spreads (Section.value choices "constraints") := by
    by_contra solid
    rw [stopped solid] at overridden
    cases overridden
  refine ⟨⟨fun ⟨r, overridden⟩ => spreads overridden, fun fits => ?_⟩, stopped, ?_⟩
  · obtain ⟨r, overridden, -⟩ := override_of_spreads filled fits
    exact ⟨r, overridden⟩
  · intro r overridden
    obtain ⟨made, again, merged⟩ := override_of_spreads filled (spreads overridden)
    obtain rfl : made = r := Except.ok.inj (again.symm.trans overridden)
    exact overriddenBy_of_mergePatch filled distinct merged

def mixedChoices : Section :=
  [("tone", .int 5), ("format", .str "slides"), ("length", .str "long"),
    ("audience", .str "executives"), ("type_specific", .arr []),
    ("typeSpecific", .obj [("slide_count", .str "twelve"), ("visual_style", .str "bold")]),
    ("constraints", .obj [("forbidden", .str "jargon"), ("brand_voice", .str "dry")])]

theorem override_mixedChoices :
    (ofType (some "deck")).Filled ∧ (Json.obj mixedChoices).Distinct ∧
      ∃ r, (ofType (some "deck")).override (.obj mixedChoices) = .ok r ∧
        Entries.get? r.inferred "tone" = some .null ∧
        Entries.get? r.inferred "format" = some (.str "slides") ∧
        Entries.get? r.constraints "length" = some (.str "long") ∧
        Entries.get? r.constraints "forbidden" = some (.arr []) ∧
        Entries.get? r.constraints "brand_voice" = some (.str "dry") ∧
        r.audience = (ofType (some "deck")).audience ∧
        Entries.get? r.typeSpecific "slide_count" = some .null ∧
        Entries.get? r.typeSpecific "visual_style" = some (.str "bold") := by
  have filled : (ofType (some "deck")).Filled := filled_ofType (some "deck")
  have distinct : (Json.obj mixedChoices).Distinct := by
    simp [mixedChoices, Json.Distinct, Json.FieldsDistinct, Json.ItemsDistinct, Entries.keys]
  obtain ⟨returns, -, overridden⟩ :=
    override_ok_iff (ofType (some "deck")) filled mixedChoices distinct
  obtain ⟨r, made⟩ := returns.mpr fun _ => ⟨_, rfl⟩
  have into := overridden r made
  have slides := into.typeSpecific ⟨"slide_count", .orNull .integer, .null⟩
    (.tail _ (.tail _ (.head _))) (by decide)
  have visual := into.typeSpecific (textField "visual_style" "minimal")
    (.tail _ (.tail _ (.tail _ (.head _)))) (by decide)
  have forbidden := into.constraints (textsField "forbidden")
    (.tail _ (.tail _ (.tail _ (.tail _ (.tail _ (.head _)))))) (by decide)
  have voice := into.constraints (textOrNullField "brand_voice")
    (.tail _ (.tail _ (.tail _ (.tail _ (.tail _ (.tail _ (.head _))))))) (by decide)
  have audience := into.sharedUntouched .audience (by decide) rfl
  exact ⟨filled, distinct, r, made, into.style "tone" (by decide), into.style "format" (by decide),
    into.length, forbidden, voice, audience, slides, visual⟩

theorem override_wordyConstraints :
    (ofType (some "doc")).Filled ∧
      (ofType (some "doc")).override (.obj [("constraints", .str "short")]) =
        .error (.wrongType "value is not a mapping") :=
  ⟨filled_ofType (some "doc"), rfl⟩

end PromptSpec

end PromptStudio
