import PromptStudio.Proofs.Spec.Sections

set_option autoImplicit false

namespace PromptStudio.PromptSpec

variable {fields : Section} {s : PromptSpec}

structure Tagged (s : PromptSpec) : Prop where
  form : (typeForm s.tag).Holds s.typeSpecific
  tag : Entries.get? s.typeSpecific "output_type" = some s.tag

theorem Tagged.variant (tagged : s.Tagged) :
    s.variant? = s.outputType.bind OutputType.ofName? := by
  rw [variant?, Section.value, tagged.tag, PromptSpec.tag]
  cases s.outputType <;> rfl

theorem Filled.to_tagged (filled : s.Filled) : s.Tagged := ⟨filled.typeSpecific, filled.tagged⟩

def typeIn (fields : Section) : Json :=
  ((Entries.get? fields "outputType").or (Entries.get? fields "output_type")).getD .null

/-- Where the output type is spelled in both ways, both give the same. -/
def SpellingsAgree (fields : Section) : Prop :=
  ∀ v w, Entries.get? fields "output_type" = some v → Entries.get? fields "outputType" = some w →
    v = w

theorem typeIn_of_read {outputType : Option String}
    (read : eitherSpelling fields "output_type" "outputType" none versionReader =
      .ok outputType) : typeIn fields = Json.ofOption .str outputType := by
  unfold eitherSpelling Entries.has Reader.needed Reader.withDefault at read
  cases other : Entries.get? fields "outputType" with
  | some v =>
    simp only [other, Option.isSome_some, if_true] at read
    simpa [typeIn, other] using versionReader_eq_ok_iff.mp (Checked.under_eq_ok_iff.mp read)
  | none =>
    simp only [other, Option.isSome_none, Bool.false_eq_true, if_false] at read
    cases own : Entries.get? fields "output_type" with
    | some v =>
      simp only [own] at read
      simpa [typeIn, other, own] using
        versionReader_eq_ok_iff.mp (Checked.under_eq_ok_iff.mp read)
    | none =>
      obtain rfl : none = outputType := by simpa [own] using read
      simp [typeIn, other, own, Json.ofOption]

theorem tagIn_eq_typeIn_iff : tagIn fields = typeIn fields ↔ SpellingsAgree fields := by
  unfold tagIn typeIn SpellingsAgree
  cases own : Entries.get? fields "output_type" <;>
    cases other : Entries.get? fields "outputType" <;> simp

theorem parts_of_loadFields (loaded : loadFields fields = .ok s) :
    bindType (tagIn fields) (rawTypeSpecific fields) = .ok s.typeSpecific ∧
      (partsOf fields s.typeSpecific).Read s := by
  unfold loadFields at loaded
  split at loaded
  next own bound =>
    have read := Parts.Read.of_eq_ok loaded
    obtain rfl : own = s.typeSpecific := read.typeSpecific
    exact ⟨bound, read⟩
  next => simp at loaded
  next => simp at loaded

theorem Tagged.to_filled (tagged : s.Tagged) (loaded : loadFields fields = .ok s) : s.Filled := by
  obtain ⟨-, read⟩ := parts_of_loadFields loaded
  constructor
  case shared => exact fun name => holds_of_sectionIn name.form_wellFormed (read.shared name)
  case typeSpecific => exact tagged.form
  case inferred => exact holds_of_sectionIn inferredForm_wellFormed read.inferred
  case tagged => exact tagged.tag

-- A load has put the part in the form of whatever it took for the tag.
theorem tagged_of_load {raw : Json} (loaded : load raw = .ok s)
    (tag : Entries.get? s.typeSpecific "output_type" = some s.tag) : s.Tagged := by
  cases raw with
  | obj fields =>
    obtain ⟨form, taken⟩ := bindType_eq_ok (parts_of_loadFields loaded).1
    have same : tagIn fields = s.tag := Option.some.inj (taken.symm.trans tag)
    exact ⟨same ▸ form, tag⟩
  | _ => exact nomatch loaded

theorem filled_of_load {raw : Json} (loaded : load raw = .ok s)
    (tag : Entries.get? s.typeSpecific "output_type" = some s.tag) : s.Filled := by
  have tagged := tagged_of_load loaded tag
  cases raw with
  | obj fields => exact tagged.to_filled loaded
  | _ => exact nomatch loaded

theorem load_tagged_iff (fields : Section) (s : PromptSpec) (loaded : load (.obj fields) = .ok s) :
    s.Tagged ↔ SpellingsAgree fields := by
  obtain ⟨bound, read⟩ := parts_of_loadFields loaded
  obtain ⟨form, tag⟩ := bindType_eq_ok bound
  have typed : typeIn fields = s.tag := typeIn_of_read read.outputType
  rw [← tagIn_eq_typeIn_iff, typed]
  constructor
  · intro tagged
    have same := tag.symm.trans tagged.tag
    injection same
  · intro same
    rw [same] at form tag
    exact ⟨form, tag⟩

def agreeingSpellings : Section :=
  [("outputType", .str "deck"), ("output_type", .str "deck"),
    ("typeSpecific", .obj [("deck_type", .str "sales")]),
    ("type_specific", .obj [("deck_type", .str "board"), ("size", .str "A2")])]

theorem load_agreeingSpellings :
    ∃ s, load (.obj agreeingSpellings) = .ok s ∧ SpellingsAgree agreeingSpellings ∧ s.Tagged ∧
      s.variant? = some .deck ∧
      Entries.get? s.typeSpecific "deck_type" = some (.str "board") := by
  refine ⟨_, rfl, ?_⟩
  have agree : SpellingsAgree agreeingSpellings := by
    rintro v w ⟨⟩ ⟨⟩
    rfl
  exact ⟨agree, (load_tagged_iff agreeingSpellings _ rfl).mpr agree, rfl, rfl⟩

def divergingSpellings : Section := [("output_type", .str "deck"), ("outputType", .str "doc")]

theorem load_divergingSpellings :
    ∃ s, load (.obj divergingSpellings) = .ok s ∧ s.outputType = some "doc" ∧
      s.variant? = some .deck ∧ ¬s.Tagged := by
  refine ⟨_, rfl, rfl, rfl, ?_⟩
  intro tagged
  exact absurd tagged.variant (by decide)

end PromptStudio.PromptSpec
