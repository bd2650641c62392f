import PromptStudio.Proofs.Moment.Writing
import PromptStudio.Proofs.Spec.Assembly
import PromptStudio.Proofs.Spec.Loading
import PromptStudio.Spec.Override
import PromptStudio.Spec.Validation

set_option autoImplicit false

namespace PromptStudio

-- A problem of the type's own part starts with the part's name, every other warning with a capital.
def Capital (text : String) : Prop := ∃ c ∈ text.toList.head?, c.isUpper = true

theorem head?_append {front : String} {c : Char} (first : front.toList.head? = some c)
    (back : String) : (front ++ back).toList.head? = some c := by
  rw [String.toList_append, List.head?_append, first]
  rfl

theorem head?_ofList (c : Char) (rest : List Char) :
    (String.ofList (c :: rest)).toList.head? = some c := by
  rw [String.toList_ofList]
  rfl

theorem capital_ofList {c : Char} {rest : List Char} (upper : c.isUpper = true) :
    Capital (String.ofList (c :: rest)) := ⟨c, head?_ofList c rest, upper⟩

theorem capital_append {front : String} (capital : Capital front) (back : String) :
    Capital (front ++ back) := by
  obtain ⟨c, first, upper⟩ := capital
  exact ⟨c, head?_append first back, upper⟩

theorem typeLine_not_capital (p : Problem) : ¬Capital p.typeLine := by
  have part : ("type_specific." : String).toList.head? = some 't' := head?_ofList 't' _
  have first : p.typeLine.toList.head? = some 't' :=
    head?_append (head?_append (head?_append part _) _) _
  rintro ⟨c, given, upper⟩
  rw [first] at given
  cases given
  exact absurd upper (by decide)

theorem capital_warningsWhere {rules : List (Bool × String)}
    (capital : ∀ rule ∈ rules, Capital rule.2) : ∀ w ∈ warningsWhere rules, Capital w := by
  intro w inside
  obtain ⟨rule, there, rfl⟩ := List.mem_map.mp inside
  exact capital rule (List.mem_of_mem_filter there)

theorem capital_codeWarnings (s : Section) : ∀ w ∈ codeWarnings s, Capital w := by
  have quoted : Capital "Language \"" := capital_ofList rfl
  have framework : Capital "Framework \"" := capital_ofList rfl
  apply capital_warningsWhere
  simp only [List.forall_mem_cons]
  exact ⟨capital_ofList rfl, capital_append (capital_append quoted _) _,
    capital_append (capital_append (capital_append framework _) _) _, capital_ofList rfl, nofun⟩

theorem capital_warnings (t : OutputType) (s : Section) : ∀ w ∈ t.warnings s, Capital w := by
  cases t
  case deck =>
    change ∀ w ∈ deckWarnings s, Capital w
    unfold deckWarnings
    split
    next =>
      apply capital_warningsWhere
      iterate 3 refine List.forall_mem_cons.mpr ⟨capital_ofList rfl, ?_⟩
      nofun
    next => simp
  case code => exact capital_codeWarnings s
  all_goals
    apply capital_warningsWhere
    repeat refine List.forall_mem_cons.mpr ⟨capital_ofList rfl, ?_⟩
    nofun

theorem capital_versionWarnings (fields : Section) : ∀ w ∈ versionWarnings fields, Capital w := by
  have version : Capital "Spec version " := capital_ofList rfl
  unfold versionWarnings
  dsimp only
  split
  · rw [List.forall_mem_singleton]
    exact capital_append (capital_append (capital_append version _) _) _
  · simp

theorem capital_wordWarning (label : String) (known : List String) (word : Json) :
    ∀ w ∈ wordWarning label known word, Capital w := by
  have invalid : Capital "Invalid " := capital_ofList rfl
  unfold wordWarning
  split
  · rw [List.forall_mem_singleton]
    exact capital_append (capital_append (capital_append invalid _) _) _
  · simp

theorem capital_wordWarnings (fields : Section) : ∀ w ∈ wordWarnings fields, Capital w := by
  intro w inside
  rcases List.mem_append.mp inside with others | length
  · rcases List.mem_append.mp others with urgency | expertise
    · exact capital_wordWarning _ _ _ w urgency
    · exact capital_wordWarning _ _ _ w expertise
  · exact capital_wordWarning _ _ _ w length

namespace PromptSpec

variable {s r : PromptSpec} {patch : Section}

theorem Filled.bindType (filled : s.Filled) :
    PromptSpec.bindType s.tag (.obj s.typeSpecific) = .ok s.typeSpecific := by
  rw [bindType_obj (show s.tag = Json.ofOption .str s.outputType from rfl),
    Entries.put_of_get? _ _ _ filled.tagged]
  exact filled.typeSpecific

theorem tag_of_outputTypeOf? {v : Json} {t : OutputType} (known : outputTypeOf? v = some t) :
    v = .str t.name := by
  cases v with
  | str name => rw [OutputType.name_of_ofName? known]
  | _ => cases known

theorem Filled.ownWarnings (filled : s.Filled) :
    PromptStudio.ownWarnings (s.toFields .null) =
      .ok (s.variant?.elim [] fun t => t.warnings s.typeSpecific) := by
  have tag : Section.value (s.toFields .null) "output_type" = s.tag := rfl
  have own : Section.value (s.toFields .null) "type_specific" = .obj s.typeSpecific := rfl
  have held : s.variant? = outputTypeOf? s.tag := by
    rw [variant?, Section.value, filled.tagged, Option.getD_some]
  rw [PromptStudio.ownWarnings, tag, own, held]
  cases known : outputTypeOf? s.tag with
  | none => rfl
  | some t =>
    have form : typeForm s.tag = t.form := by simp [typeForm, known]
    have named : s.tag = .str t.name := tag_of_outputTypeOf? known
    have kept : t.form.fill s.typeSpecific = .ok s.typeSpecific := form ▸ filled.typeSpecific
    refine Outcome.bind_eq_ok.mpr ⟨s.typeSpecific, rfl, ?_⟩
    rw [← named, Entries.put_of_get? _ _ _ filled.tagged, kept]
    rfl

theorem Filled.mergePatch_nil (filled : s.Filled) : s.mergePatch [] = .ok s := by
  have read : (s.mergedParts [] s.typeSpecific).Read s := by
    constructor
    case version => rfl
    case outputType => exact Checked.under_eq_ok_iff.mpr (versionReader_eq_ok_iff.mpr rfl)
    case generatedAt => rfl
    case shared => exact fun name => Checked.under_eq_ok_iff.mpr (filled.shared name)
    case typeSpecific => rfl
    case inferred => exact Checked.under_eq_ok_iff.mpr filled.inferred
  exact mergePatch_of_parts filled.bindType read

theorem Filled.load_toFields (filled : s.Filled) {time : Json}
    (moment : momentReader time = .ok s.generatedAt) : load (.obj (s.toFields time)) = .ok s := by
  have read : (partsOf (s.toFields time) s.typeSpecific).Read s := by
    constructor
    case version => exact Checked.under_eq_ok_iff.mpr (versionReader_eq_ok_iff.mpr rfl)
    case outputType => exact Checked.under_eq_ok_iff.mpr (versionReader_eq_ok_iff.mpr rfl)
    case generatedAt => exact Checked.under_eq_ok_iff.mpr moment
    case shared =>
      intro name
      cases name <;> exact Checked.under_eq_ok_iff.mpr (filled.shared _)
    case typeSpecific => rfl
    case inferred => exact Checked.under_eq_ok_iff.mpr filled.inferred
  have bound : PromptSpec.bindType (tagIn (s.toFields time)) (rawTypeSpecific (s.toFields time)) =
      .ok s.typeSpecific := filled.bindType
  change loadFields (s.toFields time) = .ok s
  rw [loadFields, bound]
  exact read.ofParts

def Dated (s : PromptSpec) : Prop := ∀ m, s.generatedAt = some m → m.Valid

theorem Dated.of_mergePatch (dated : s.Dated) (merged : s.mergePatch patch = .ok r) : r.Dated := by
  have read := generatedAt_of_mergePatch merged
  intro m there
  rw [there] at read
  cases given : scalarFor patch "generated_at" with
  | none =>
    rw [given] at read
    injection read with kept
    exact dated m kept
  | some v =>
    rw [given, Option.elim_some, PromptSpec.momentReader,
      Reader.optional_of_ne_null (scalarFor_eq_some given).2] at read
    obtain ⟨time, found, same⟩ := Checked.map_eq_ok_iff.mp read
    cases same
    exact Moment.valid_of_moment found

theorem Dated.momentReader (dated : s.Dated) :
    PromptSpec.momentReader (Json.ofOption (fun m => .str m.iso) s.generatedAt) =
      .ok s.generatedAt := by
  cases there : s.generatedAt with
  | none => rfl
  | some m =>
    change (Reader.moment (.str m.iso)).map some = _
    rw [Moment.moment_iso (dated m there)]
    rfl

/-- What comes of a created spec by merging and by overriding. -/
inductive Edited : PromptSpec → Prop where
  | create {outputType : Option String} {s : PromptSpec} (created : create outputType = .ok s) :
      Edited s
  | merge {s r : PromptSpec} {updates : Json} (before : Edited s)
      (merged : s.merge updates = .ok r) : Edited r
  | override {s r : PromptSpec} {choices : Json} (before : Edited s)
      (overridden : s.override choices = .ok r) : Edited r

theorem mergePatch_of_override {choices : Json} (overridden : s.override choices = .ok r) :
    r = s ∨ ∃ patch, s.mergePatch patch = .ok r := by
  unfold override at overridden
  split at overridden
  next =>
    obtain ⟨patch, -, merged⟩ := Outcome.bind_eq_ok.mp overridden
    exact .inr ⟨patch, Checked.toOutcome_eq_ok_iff.mp merged⟩
  next =>
    split at overridden
    next => cases overridden
    next =>
      cases overridden
      exact .inl rfl

-- One step: whatever is merged, the result is filled and its moment is a valid one.
theorem Edited.filled_dated (edited : s.Edited) : s.Filled ∧ s.Dated := by
  induction edited with
  | @create outputType s created =>
    unfold PromptSpec.create at created
    split at created
    next t _ =>
      cases created
      exact ⟨filled_ofType (some t.name), nofun⟩
    next => cases created
  | merge _ merged before =>
    obtain ⟨patch, merged⟩ := mergePatch_of_merge merged
    exact ⟨filled_of_mergePatch merged, before.2.of_mergePatch merged⟩
  | override _ overridden before =>
    rcases mergePatch_of_override overridden with rfl | ⟨patch, merged⟩
    · exact before
    · exact ⟨filled_of_mergePatch merged, before.2.of_mergePatch merged⟩

theorem Filled.validate (filled : s.Filled) :
    s.validate = .ok ⟨headerErrors (s.toFields .null) ++ intentErrors (s.toFields .null),
      versionWarnings (s.toFields .null) ++ wordWarnings (s.toFields .null) ++
        s.variant?.elim [] fun t => t.warnings s.typeSpecific⟩ := by
  rw [PromptSpec.validate, validateFields, filled.ownWarnings]
  rfl

theorem Filled.typeLine_not_mem (filled : s.Filled) :
    ∃ v, s.validate = .ok v ∧ ∀ p : Problem, p.typeLine ∉ v.warnings := by
  refine ⟨_, filled.validate, fun p inside => typeLine_not_capital p ?_⟩
  rcases List.mem_append.mp inside with others | own
  · rcases List.mem_append.mp others with version | word
    · exact capital_versionWarnings _ _ version
    · exact capital_wordWarnings _ _ word
  · cases variant : s.variant? with
    | none =>
      rw [variant] at own
      cases own
    | some t =>
      rw [variant] at own
      exact capital_warnings t _ _ own

theorem edited_canonical (s : PromptSpec) (edited : s.Edited) :
    s.Tagged ∧ s.variant? = s.outputType.bind OutputType.ofName? ∧
      load s.toJson = .ok s ∧
      (∀ time, momentReader time = .ok s.generatedAt → load (.obj (s.toFields time)) = .ok s) ∧
      s.merge (.obj []) = .ok s ∧ s.merge .null = .ok s ∧
      ∃ v, s.validate = .ok v ∧ ∀ p : Problem, p.typeLine ∉ v.warnings := by
  obtain ⟨filled, dated⟩ := edited.filled_dated
  have same : ∀ updates, normalizeUpdates updates = .ok [] → s.merge updates = .ok s := by
    intro updates nothing
    rw [merge_of_normalized nothing, filled.mergePatch_nil]
    rfl
  exact ⟨filled.to_tagged, filled.to_tagged.variant, filled.load_toFields dated.momentReader,
    fun _ => filled.load_toFields, same (.obj []) rfl, same .null rfl, filled.typeLine_not_mem⟩

def editedDoc : Outcome PromptSpec := do
  let deck ← create (some "deck")
  let dated ← deck.merge (.obj
    [("typeSpecific", .obj [("slide_count", .str "12"), ("deck_type", .int 5),
        ("document_type", .str "memo"), ("margin", .float .nan)]),
      ("generated_at", .str "2024-02-29 12:30+02:00"), ("audience", .str "executives")])
  let doc ← dated.merge (.obj [("output_type", .str "doc")])
  doc.override (.obj [("tone", .str "calm"), ("length", .int 5)])

theorem edited_canonical_doc :
    ∃ s : PromptSpec, editedDoc = .ok s ∧ s.Edited ∧ s.variant? = some .doc ∧
      Entries.get? s.typeSpecific "document_type" = some (.str "memo") ∧
      Entries.get? s.typeSpecific "margin" = some (.float .nan) ∧
      s.generatedAt = some ⟨2024, 2, 29, 12, 30, 0, 0, some 7200⟩ ∧
      s.Tagged ∧ load s.toJson = .ok s ∧ s.merge .null = .ok s ∧
      ∃ v, s.validate = .ok v ∧ ∀ p : Problem, p.typeLine ∉ v.warnings := by
  have made : ∃ s, editedDoc = .ok s ∧ s.variant? = some .doc ∧
      Entries.get? s.typeSpecific "document_type" = some (.str "memo") ∧
      Entries.get? s.typeSpecific "margin" = some (.float .nan) ∧
      s.generatedAt = some ⟨2024, 2, 29, 12, 30, 0, 0, some 7200⟩ := ⟨_, rfl, rfl, rfl, rfl, rfl⟩
  obtain ⟨s, made, variant, memo, margin, moment⟩ := made
  obtain ⟨deck, created, merged⟩ := Outcome.bind_eq_ok.mp made
  obtain ⟨dated, dating, merged⟩ := Outcome.bind_eq_ok.mp merged
  obtain ⟨doc, switched, overridden⟩ := Outcome.bind_eq_ok.mp merged
  have edited : s.Edited := .override (.merge (.merge (.create created) dating) switched) overridden
  obtain ⟨tagged, -, loaded, -, -, kept, validated⟩ := edited_canonical s edited
  exact ⟨s, made, edited, variant, memo, margin, moment, tagged, loaded, kept, validated⟩

end PromptSpec

end PromptStudio
