import PromptStudio.Proofs.Json.Distinct
import PromptStudio.Proofs.Spec.Folding
import PromptStudio.Proofs.Spec.Sections

set_option autoImplicit false

namespace PromptStudio

def given (u : Section) (key : String) : Option Json :=
  (u.find? fun entry => respell entry.1 == key).map (·.2)

def filledPart : Option Json → Option Section
  | some (.obj (entry :: rest)) => some (entry :: rest)
  | _ => none

def givenPart (u : Section) (key : String) : Option Section := filledPart (given u key)

def SpelledOnce (u : Section) : Prop := (u.map fun entry => respell entry.1).Nodup

theorem get?_respelled (u : Section) (key : String) :
    Entries.get? (u.map fun entry => (respell entry.1, entry.2)) key = given u key := by
  induction u with
  | nil => rfl
  | cons entry rest ih =>
    obtain ⟨k, v⟩ := entry
    by_cases same : key = respell k
    next => simp [given, Entries.get?_cons, same]
    next =>
      have other : (respell k == key) = false := beq_eq_false_iff_ne.mpr (Ne.symm same)
      simpa [given, Entries.get?_cons, same, other] using ih

theorem normalizeUpdates_obj (u : Section) (once : SpelledOnce u) :
    normalizeUpdates (.obj u) = .ok (u.map fun entry => (respell entry.1, entry.2)) := by
  have distinct : (Entries.keys (u.map fun entry => (respell entry.1, entry.2))).Nodup := by
    simpa [Entries.keys, SpelledOnce, Function.comp_def] using once
  cases u with
  | nil => rfl
  | cons entry rest =>
    have filled : Json.truthy (.obj (entry :: rest)) = true := rfl
    simp only [normalizeUpdates, Json.entriesFor, filled, if_true, Json.ownEntries, Except.map]
    rw [Entries.ofPairs_of_nodup _ distinct]

theorem mem_of_given {u : Section} {key : String} {v : Json} (found : given u key = some v) :
    ∃ k, (k, v) ∈ u ∧ respell k = key := by
  obtain ⟨⟨k, w⟩, hit, rfl⟩ := Option.map_eq_some_iff.mp found
  exact ⟨k, List.mem_of_find?_eq_some hit, by simpa using List.find?_some hit⟩

theorem filledPart_eq_some {v : Option Json} {part : Section} (found : filledPart v = some part) :
    v = some (.obj part) := by
  unfold filledPart at found
  split at found
  next entry rest =>
    obtain rfl : entry :: rest = part := by simpa using found
    rfl
  next => simp at found

theorem givenPart_distinct {u part : Section} {key : String} (distinct : (Json.obj u).Distinct)
    (found : givenPart u key = some part) : (Json.obj part).Distinct := by
  obtain ⟨k, inside, -⟩ := mem_of_given (filledPart_eq_some found)
  exact distinct.value inside

theorem givenPart_names {u : Section} (distinct : (Json.obj u).Distinct) (key : String) :
    ∀ part ∈ givenPart u key, (Entries.keys part).Nodup :=
  fun _ found => (givenPart_distinct distinct found).names

theorem getD_givenPart_distinct {u : Section} (distinct : (Json.obj u).Distinct) (key : String) :
    (Json.obj ((givenPart u key).getD [])).Distinct := by
  cases part : givenPart u key with
  | none => simp [Json.Distinct, Json.FieldsDistinct, Entries.keys]
  | some updates => exact givenPart_distinct distinct part

namespace PromptSpec

structure Header (s : PromptSpec) (u : Section) : Prop where
  version : ∀ v, given u "version" = some v → ∃ x, versionReader v = .ok x
  generatedAt : ∀ v, given u "generated_at" = some v → ∃ x, momentReader v = .ok x
  outputType : ∀ v, given u "output_type" = some v → v = .null ∨ v = s.tag

structure Plain (patch : Section) : Prop where
  version : ∀ v, scalarFor patch "version" = some v → ∃ text, v = .str text
  outputType : ∀ v, scalarFor patch "output_type" = some v → ∃ text, v = .str text
  generatedAt : ∀ v, scalarFor patch "generated_at" = some v → ∃ time, Reader.moment v = .ok time

variable {s r : PromptSpec} {u patch : Section}

theorem updatesFor_eq_givenPart (key : String)
    (patched : ∀ key, Entries.get? patch key = given u key) :
    updatesFor patch key = givenPart u key := by
  change filledPart (Entries.get? patch key) = filledPart (given u key)
  rw [patched]

theorem scalarFor_eq_some {key : String} {v : Json} (found : scalarFor patch key = some v) :
    Entries.get? patch key = some v ∧ v ≠ .null := by
  unfold scalarFor at found
  split at found
  next => simp at found
  next other => exact ⟨found, fun null => other (null ▸ found)⟩

theorem mergedTag_eq (header : s.Header u)
    (patched : ∀ key, Entries.get? patch key = given u key) : s.mergedTag patch = s.tag := by
  unfold mergedTag
  cases found : scalarFor patch "output_type" with
  | none => rfl
  | some v =>
    obtain ⟨there, filled⟩ := scalarFor_eq_some found
    rw [patched] at there
    exact (header.outputType v there).resolve_left filled

theorem mergedTag_of_typeless (s : PromptSpec) (typeless : scalarFor patch "output_type" = none) :
    s.mergedTag patch = s.tag := by
  rw [mergedTag, typeless]
  rfl

theorem Header.plain (header : s.Header u)
    (patched : ∀ key, Entries.get? patch key = given u key) : Plain patch := by
  have text {v : Json} {x : Option String} (read : versionReader v = .ok x) (filled : v ≠ .null) :
      ∃ text, v = .str text := by
    obtain rfl := versionReader_eq_ok_iff.mp read
    cases x with
    | none => exact absurd rfl filled
    | some name => exact ⟨name, rfl⟩
  constructor
  case version =>
    intro v found
    obtain ⟨there, filled⟩ := scalarFor_eq_some found
    obtain ⟨x, read⟩ := header.version v (patched "version" ▸ there)
    exact text read filled
  case outputType =>
    intro v found
    obtain ⟨there, filled⟩ := scalarFor_eq_some found
    obtain rfl := (header.outputType v (patched "output_type" ▸ there)).resolve_left filled
    exact text (versionReader_eq_ok_iff.mpr rfl) filled
  case generatedAt =>
    intro v found
    obtain ⟨there, filled⟩ := scalarFor_eq_some found
    obtain ⟨x, read⟩ := header.generatedAt v (patched "generated_at" ▸ there)
    rw [momentReader, Reader.optional_of_ne_null filled] at read
    obtain ⟨time, ok, -⟩ := Checked.map_eq_ok_iff.mp read
    exact ⟨time, ok⟩

theorem fill_mergedShared (filled : s.Filled) (patch : Section) (name : SectionName) :
    name.form.fill (s.mergedShared patch name) =
      .ok (name.form.mergedPart (s.shared name) (updatesFor patch name.key) []) := by
  rw [mergedShared]
  cases updatesFor patch name.key with
  | none => exact filled.shared name
  | some updates =>
    exact Form.fill_folded name.form_wellFormed (filled.shared name) name.form.suits_nil

theorem fill_mergedInferred (filled : s.Filled) (patch : Section) :
    inferredForm.fill (s.mergedInferred patch) =
      .ok (inferredForm.mergedPart s.inferred
        ((updatesFor patch "inferred").map s.reasoningUpdates) []) := by
  rw [mergedInferred]
  cases updatesFor patch "inferred" with
  | none => exact filled.inferred
  | some updates =>
    exact Form.fill_folded inferredForm_wellFormed filled.inferred inferredForm.suits_nil

theorem keys_reasoningUpdates (s : PromptSpec) (updates : Section) :
    Entries.keys (s.reasoningUpdates updates) = Entries.keys updates := by
  unfold reasoningUpdates
  split
  next reasons there =>
    apply Entries.keys_put_of_mem
    by_contra absent
    rw [Section.value, (Entries.get?_eq_none_iff updates "reasoning").mpr absent] at there
    simp at there
  next => rfl

theorem reasoningUpdates_names (s : PromptSpec) {part : Option Section}
    (names : ∀ updates ∈ part, (Entries.keys updates).Nodup) :
    ∀ updates ∈ part.map s.reasoningUpdates, (Entries.keys updates).Nodup := by
  intro joined found
  obtain ⟨updates, there, rfl⟩ := Option.map_eq_some_iff.mp found
  rw [keys_reasoningUpdates]
  exact names updates there

theorem Filled.get?_shared (filled : s.Filled) (name : SectionName) {part : Option Section}
    (names : ∀ updates ∈ part, (Entries.keys updates).Nodup) {field : Field}
    (inside : field ∈ name.form.fields) :
    Entries.get? (name.form.mergedPart (s.shared name) part []) field.name =
      field.updated (s.shared name) (part.getD []) :=
  Form.get?_mergedPart name.form_wellFormed (filled.shared name) names name.form.suits_nil inside
    rfl

theorem Filled.get?_inferred (filled : s.Filled) {part : Option Section}
    (names : ∀ updates ∈ part, (Entries.keys updates).Nodup) {field : Field}
    (inside : field ∈ inferredForm.fields) :
    Entries.get? (inferredForm.mergedPart s.inferred (part.map s.reasoningUpdates) [])
        field.name =
      field.updated s.inferred (s.reasoningUpdates (part.getD [])) := by
  have joined : (part.map s.reasoningUpdates).getD [] = s.reasoningUpdates (part.getD []) := by
    cases part <;> rfl
  rw [← joined]
  exact Form.get?_mergedPart inferredForm_wellFormed filled.inferred
    (reasoningUpdates_names s names) inferredForm.suits_nil inside rfl

theorem get?_reasoningUpdates (s : PromptSpec) (updates : Section) {key : String}
    (other : key ≠ "reasoning") :
    Entries.get? (s.reasoningUpdates updates) key = Entries.get? updates key := by
  unfold reasoningUpdates
  split
  · rw [Entries.get?_put, if_neg other]
  · rfl

theorem suits_tag (outputType : Option String) :
    (typeForm (Json.ofOption .str outputType)).Suits
      [("output_type", Json.ofOption .str outputType)] := by
  constructor
  · simp [Entries.keys]
  · intro field inside v found
    by_cases named : field.name = "output_type"
    next =>
      obtain rfl : Json.ofOption .str outputType = v := by
        simpa [Entries.get?_cons, named] using found
      exact typeForm_reads_tag outputType inside named
    next => simp [Entries.get?_cons, named] at found

theorem tag_suits (s : PromptSpec) : (typeForm s.tag).Suits [("output_type", s.tag)] :=
  suits_tag s.outputType

theorem bindType_obj {tag : Json} {outputType : Option String}
    (typed : tag = Json.ofOption .str outputType) (merged : Section) :
    bindType tag (.obj merged) = (typeForm tag).fill (Entries.put merged "output_type" tag) := by
  simp only [bindType, spread, typed, typeForm?_ofOption]

theorem Plain.typed (plain : Plain patch) (s : PromptSpec) :
    ∃ outputType, s.mergedTag patch = Json.ofOption .str outputType := by
  unfold mergedTag
  cases found : scalarFor patch "output_type" with
  | none => exact ⟨s.outputType, rfl⟩
  | some v =>
    obtain ⟨name, rfl⟩ := plain.outputType v found
    exact ⟨some name, rfl⟩

theorem Plain.reads_version (plain : Plain patch) (s : PromptSpec) (own : Section) :
    ∃ version, (s.mergedParts patch own).version = .ok version := by
  unfold mergedParts
  cases found : scalarFor patch "version" with
  | none => exact ⟨s.version, rfl⟩
  | some v =>
    obtain ⟨name, rfl⟩ := plain.version v found
    exact ⟨some name, rfl⟩

theorem Plain.reads_generatedAt (plain : Plain patch) (s : PromptSpec) (own : Section) :
    ∃ generatedAt, (s.mergedParts patch own).generatedAt = .ok generatedAt := by
  unfold mergedParts mergedMoment
  cases found : scalarFor patch "generated_at" with
  | none => exact ⟨s.generatedAt, rfl⟩
  | some v =>
    obtain ⟨time, read⟩ := plain.generatedAt v found
    have filled := (scalarFor_eq_some found).2
    exact ⟨some time, by simp [momentReader, Reader.optional_of_ne_null filled, read, Checked.map]⟩

theorem parts_of_mergePatch (merged : s.mergePatch patch = .ok r) :
    bindType (s.mergedTag patch) (.obj (s.mergedTypeSpecific patch)) = .ok r.typeSpecific ∧
      (s.mergedParts patch r.typeSpecific).Read r := by
  unfold mergePatch at merged
  split at merged
  next own bound =>
    have read := Parts.Read.of_eq_ok merged
    obtain rfl : own = r.typeSpecific := read.typeSpecific
    exact ⟨bound, read⟩
  next => simp at merged
  next => simp at merged

theorem mergePatch_of_parts
    (bound : bindType (s.mergedTag patch) (.obj (s.mergedTypeSpecific patch)) =
      .ok r.typeSpecific)
    (read : (s.mergedParts patch r.typeSpecific).Read r) : s.mergePatch patch = .ok r := by
  rw [mergePatch, bound]
  exact read.ofParts

theorem mergedParts_version (s : PromptSpec) (patch own : Section) :
    (s.mergedParts patch own).version =
      ((scalarFor patch "version").elim (.ok s.version) versionReader).under "version" := by
  cases given : scalarFor patch "version" <;> simp [mergedParts, given]

theorem mergedParts_generatedAt (s : PromptSpec) (patch own : Section) :
    (s.mergedParts patch own).generatedAt =
      ((scalarFor patch "generated_at").elim (.ok s.generatedAt) momentReader).under
        "generated_at" := by
  cases given : scalarFor patch "generated_at" <;> simp [mergedParts, mergedMoment, given]

theorem version_of_mergePatch (merged : s.mergePatch patch = .ok r) :
    (scalarFor patch "version").elim (.ok s.version) versionReader = .ok r.version := by
  have read := (parts_of_mergePatch merged).2.version
  rw [mergedParts_version] at read
  exact Checked.under_eq_ok_iff.mp read

theorem generatedAt_of_mergePatch (merged : s.mergePatch patch = .ok r) :
    (scalarFor patch "generated_at").elim (.ok s.generatedAt) momentReader =
      .ok r.generatedAt := by
  have read := (parts_of_mergePatch merged).2.generatedAt
  rw [mergedParts_generatedAt] at read
  exact Checked.under_eq_ok_iff.mp read

theorem tag_of_mergePatch (merged : s.mergePatch patch = .ok r) : r.tag = s.mergedTag patch := by
  have read := Checked.under_eq_ok_iff.mp (parts_of_mergePatch merged).2.outputType
  exact (versionReader_eq_ok_iff.mp read).symm

theorem filled_of_mergePatch (merged : s.mergePatch patch = .ok r) : r.Filled := by
  obtain ⟨bound, read⟩ := parts_of_mergePatch merged
  obtain ⟨held, tagged⟩ := bindType_eq_ok bound
  rw [← tag_of_mergePatch merged] at held tagged
  constructor
  case shared =>
    intro name
    exact Form.holds_of_fill name.form_wellFormed (Checked.under_eq_ok_iff.mp (read.shared name))
  case typeSpecific => exact held
  case inferred =>
    exact Form.holds_of_fill inferredForm_wellFormed (Checked.under_eq_ok_iff.mp read.inferred)
  case tagged => exact tagged

theorem shared_of_mergePatch (filled : s.Filled) (merged : s.mergePatch patch = .ok r)
    (name : SectionName) :
    r.shared name = name.form.mergedPart (s.shared name) (updatesFor patch name.key) [] := by
  have read := Checked.under_eq_ok_iff.mp ((parts_of_mergePatch merged).2.shared name)
  rw [fill_mergedShared filled patch name] at read
  injection read with same
  exact same.symm

theorem inferred_of_mergePatch (filled : s.Filled) (merged : s.mergePatch patch = .ok r) :
    r.inferred = inferredForm.mergedPart s.inferred
      ((updatesFor patch "inferred").map s.reasoningUpdates) [] := by
  have read := Checked.under_eq_ok_iff.mp (parts_of_mergePatch merged).2.inferred
  rw [fill_mergedInferred filled patch] at read
  injection read with same
  exact same.symm

def boundPart (s : PromptSpec) (patch : Section) : Section :=
  Entries.put (s.mergedTypeSpecific patch) "output_type" (s.mergedTag patch)

-- Only the type's own part can refuse a merge: the others are read by the form that held them.
theorem mergePatch_ok_iff (filled : s.Filled) (plain : Plain patch) :
    (∃ r, s.mergePatch patch = .ok r) ↔
      (typeForm (s.mergedTag patch)).Accepts (s.boundPart patch) := by
  obtain ⟨outputType, typed⟩ := plain.typed s
  have bind := bindType_obj typed (s.mergedTypeSpecific patch)
  constructor
  · rintro ⟨r, merged⟩
    exact Form.accepts_of_fill (bind.symm.trans (parts_of_mergePatch merged).1)
  · intro accepted
    have bound := bind.trans (Form.fill_of_accepts (typeForm_wellFormed _) accepted)
    generalize (typeForm (s.mergedTag patch)).settled _ = own at bound
    obtain ⟨version, readVersion⟩ := plain.reads_version s own
    obtain ⟨generatedAt, readMoment⟩ := plain.reads_generatedAt s own
    let shared (name : SectionName) : Section :=
      name.form.mergedPart (s.shared name) (updatesFor patch name.key) []
    let r : PromptSpec := ⟨version, outputType, generatedAt, shared .intent, shared .audience,
      shared .context, shared .constraints, shared .quality, own,
      inferredForm.mergedPart s.inferred
        ((updatesFor patch "inferred").map s.reasoningUpdates) []⟩
    have parts (name : SectionName) : r.shared name = shared name := by cases name <;> rfl
    have read : (s.mergedParts patch own).Read r := by
      constructor
      case version => exact readVersion
      case outputType => exact Checked.under_eq_ok_iff.mpr (versionReader_eq_ok_iff.mpr typed)
      case generatedAt => exact readMoment
      case shared =>
        intro name
        rw [parts name]
        exact Checked.under_eq_ok_iff.mpr (fill_mergedShared filled patch name)
      case typeSpecific => rfl
      case inferred => exact Checked.under_eq_ok_iff.mpr (fill_mergedInferred filled patch)
    exact ⟨r, mergePatch_of_parts bound read⟩

theorem settled_boundPart (filled : s.Filled) (kept : s.mergedTag patch = s.tag) :
    (typeForm s.tag).fill (s.boundPart patch) =
      .ok ((typeForm s.tag).mergedPart s.typeSpecific (updatesFor patch "type_specific")
        [("output_type", s.tag)]) := by
  rw [boundPart, mergedTypeSpecific, kept]
  cases updatesFor patch "type_specific" with
  | none =>
    rw [Entries.put_of_get? _ _ _ filled.tagged]
    exact filled.typeSpecific
  | some updates =>
    exact Form.fill_folded (typeForm_wellFormed s.tag) filled.typeSpecific s.tag_suits

theorem mergePatch_ok_of_kept (filled : s.Filled) (plain : Plain patch)
    (kept : s.mergedTag patch = s.tag) : ∃ r, s.mergePatch patch = .ok r := by
  rw [mergePatch_ok_iff filled plain, kept]
  exact Form.accepts_of_fill (settled_boundPart filled kept)

theorem typeSpecific_of_mergePatch (filled : s.Filled) (kept : s.mergedTag patch = s.tag)
    (merged : s.mergePatch patch = .ok r) :
    r.typeSpecific = (typeForm s.tag).mergedPart s.typeSpecific (updatesFor patch "type_specific")
      [("output_type", s.tag)] := by
  have bound := (parts_of_mergePatch merged).1
  rw [bindType_obj kept, kept] at bound
  have settled := settled_boundPart filled kept
  rw [boundPart, kept] at settled
  rw [settled] at bound
  injection bound with same
  exact same.symm

theorem mergePatch_of_merge {updates : Json} (merged : s.merge updates = .ok r) :
    ∃ patch, s.mergePatch patch = .ok r := by
  obtain ⟨patch, -, merged⟩ := Outcome.bind_eq_ok.mp merged
  exact ⟨patch, Checked.toOutcome_eq_ok_iff.mp merged⟩

theorem merge_of_normalized {updates : Json} (normalized : normalizeUpdates updates = .ok patch) :
    s.merge updates = (s.mergePatch patch).toOutcome := by
  rw [merge, normalized]
  rfl

/-- The result of a merge, each part as its form settles it. -/
structure Assembled (s : PromptSpec) (u : Section) (r : PromptSpec) : Prop where
  outputType : r.outputType = s.outputType
  shared : ∀ name : SectionName,
    r.shared name = name.form.mergedPart (s.shared name) (givenPart u name.key) []
  typeSpecific : r.typeSpecific =
    (typeForm s.tag).mergedPart s.typeSpecific (givenPart u "type_specific")
      [("output_type", s.tag)]
  inferred : r.inferred =
    inferredForm.mergedPart s.inferred ((givenPart u "inferred").map s.reasoningUpdates) []

theorem merge_assembled (filled : s.Filled) (header : s.Header u) (once : SpelledOnce u) :
    ∃ r, s.merge (.obj u) = .ok r ∧ s.Assembled u r := by
  have normalized := normalizeUpdates_obj u once
  have patched := get?_respelled u
  generalize (u.map fun entry => (respell entry.1, entry.2)) = patch at patched normalized
  have kept := mergedTag_eq header patched
  obtain ⟨r, merged⟩ := mergePatch_ok_of_kept filled (header.plain patched) kept
  refine ⟨r, by rw [merge_of_normalized normalized, merged]; rfl, ?_⟩
  constructor
  case outputType => exact ofOption_str_inj.mp ((tag_of_mergePatch merged).trans kept)
  case shared =>
    intro name
    rw [shared_of_mergePatch filled merged, updatesFor_eq_givenPart name.key patched]
  case typeSpecific =>
    rw [typeSpecific_of_mergePatch filled kept merged,
      updatesFor_eq_givenPart "type_specific" patched]
  case inferred =>
    rw [inferred_of_mergePatch filled merged, updatesFor_eq_givenPart "inferred" patched]

end PromptSpec

end PromptStudio
