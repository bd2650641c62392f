import PromptStudio.Proofs.Prompt.Suggestions

set_option autoImplicit false

namespace PromptStudio

open PromptSpec

variable {s r : PromptSpec} {provided gaps own : Section} {key : String} {v : Json}

def offered (provided : Section) (key : String) (v : Json) : Section :=
  if Entries.has provided key then [] else [(key, v)]

def impliedLanguage (own : Section) : Section :=
  if Section.flag own "language" then []
  else match languageFor (Section.text? own "framework") with
    | some language => [("language", .str language)]
    | none => []

def offeredSummary (s : PromptSpec) (provided : Section) : Section :=
  offered provided "include_executive_summary" (.bool
    (summaryAdvised (Section.text? s.constraints "length")
      (Section.text? s.audience "expertise_level")))

theorem mem_keys_offered {other : String} : other ∈ Entries.keys (offered provided key v) ↔
    other = key ∧ key ∉ Entries.keys provided := by
  unfold offered
  by_cases given : key ∈ Entries.keys provided
  next =>
    rw [if_pos (Entries.has_iff.mpr given)]
    exact iff_of_false List.not_mem_nil fun free => free.2 given
  next =>
    rw [if_neg (given ∘ Entries.has_iff.mp), and_iff_left given]
    exact List.mem_singleton

theorem offered_overlay (w : Json)
    (inside : ∀ other ∈ Entries.keys (offered provided key v), other ∈ Entries.keys gaps) :
    offered (Entries.overlay provided gaps) key w = [] := by
  refine if_pos (Entries.has_iff.mpr ((Entries.mem_keys_overlay _ _ _).mpr ?_))
  by_cases given : key ∈ Entries.keys provided
  next => exact .inl given
  next => exact .inr (inside key (mem_keys_offered.mpr ⟨rfl, given⟩))

theorem sectionsFor_ne_nil (documentType agendaType : Option String) :
    sectionsFor documentType agendaType ≠ [] := by
  have agendas : ∀ entry ∈ agendaStructures, entry.2 ≠ [] := by decide
  have structures : ∀ entry ∈ sectionStructures, entry.2 ≠ [] := by decide
  have usual : (sectionStructures.lookup (documentType.getD "")).getD reportSections ≠ [] := by
    cases found : sectionStructures.lookup (documentType.getD "") with
    | none => decide
    | some names => exact structures _ (Entries.mem_of_get? found)
  unfold sectionsFor
  split
  next =>
    cases agendaType with
    | none => exact usual
    | some kind =>
      cases found : agendaStructures.lookup kind with
      | none => simpa [found] using usual
      | some names => simpa [found] using agendas _ (Entries.mem_of_get? found)
  next => exact usual

theorem languageFor_ne_empty {framework : Option String} {language : String}
    (found : languageFor framework = some language) : language ≠ "" := by
  have named : ∀ entry ∈ frameworks, entry.1 ≠ "" := by decide
  unfold languageFor at found
  split at found
  next => cases found
  next =>
    split at found
    next => cases found
    next =>
      obtain ⟨entry, listed, rfl⟩ := Option.map_eq_some_iff.mp found
      exact named entry (List.mem_of_find?_eq_some listed)

structure Sectioned (own sections : Section) : Prop where
  blank : Section.items own "section_structure" = [] →
    ∃ names, names ≠ [] ∧ sections = [("section_structure", Json.texts names)]
  listed : Section.items own "section_structure" ≠ [] → sections = []

theorem docGaps_sectioned (filled : docGaps s provided = .ok gaps) :
    ∃ sections, Sectioned s.typeSpecific sections ∧ gaps = sections ++ offeredSummary s provided := by
  unfold docGaps at filled
  dsimp only at filled
  split at filled
  next blank =>
    have empty := List.isEmpty_iff.mp blank
    have advised (kind : Option String) : Sectioned s.typeSpecific [("section_structure",
        Json.texts (sectionsFor (Section.text? s.typeSpecific "document_type") kind))] :=
      ⟨fun _ => ⟨_, sectionsFor_ne_nil _ kind, rfl⟩, fun listed => absurd empty listed⟩
    split at filled
    next =>
      obtain ⟨kind, -, filled⟩ := Outcome.bind_eq_ok.mp filled
      cases filled
      exact ⟨_, advised kind, rfl⟩
    next =>
      cases filled
      exact ⟨_, advised none, rfl⟩
  next listed =>
    cases filled
    exact ⟨[], ⟨fun empty => absurd (List.isEmpty_iff.mpr empty) listed, fun _ => rfl⟩, rfl⟩

theorem docGaps_of_sections (listed : Section.items s.typeSpecific "section_structure" ≠ [])
    (provided : Section) : docGaps s provided = .ok (offeredSummary s provided) := by
  unfold docGaps
  dsimp only
  rw [if_neg (listed ∘ List.isEmpty_iff.mp)]
  rfl

section Merged

variable {t : OutputType} {field : Field}

theorem updatesFor_gaps (gaps : Section) :
    (updatesFor [("type_specific", .obj gaps)] "type_specific").getD [] = gaps ∧
      ∀ updates ∈ updatesFor [("type_specific", .obj gaps)] "type_specific", updates = gaps := by
  cases gaps with
  | nil => exact ⟨rfl, nofun⟩
  | cons gap rest =>
    refine ⟨rfl, ?_⟩
    rintro _ ⟨⟩
    rfl

theorem variant_eq_tag (filled : s.Filled) : s.variant? = outputTypeOf? s.tag := by
  rw [variant?, Section.value, filled.tagged]
  rfl

theorem variant_of_gaps (filled : s.Filled)
    (merged : s.mergePatch [("type_specific", .obj gaps)] = .ok r) : r.variant? = s.variant? := by
  rw [variant_eq_tag filled, variant_eq_tag (filled_of_mergePatch merged),
    tag_of_mergePatch merged, (gaps_partsOnly gaps).kept s]

theorem own_of_gaps (filled : s.Filled) (variant : s.variant? = some t)
    (names : (Entries.keys gaps).Nodup)
    (merged : s.mergePatch [("type_specific", .obj gaps)] = .ok r) (inside : field ∈ t.fields) :
    Section.value r.typeSpecific field.name =
      ((field.readIn gaps).or (Entries.get? s.typeSpecific field.name)).getD .null := by
  obtain ⟨part, same⟩ := updatesFor_gaps gaps
  have form : typeForm s.tag = t.form := by
    rw [typeForm, ← variant_eq_tag filled, variant]
  have untagged : field.name ≠ "output_type" := t.fields_untagged field inside
  rw [Section.value, typeSpecific_of_mergePatch filled ((gaps_partsOnly gaps).kept s) merged,
    Form.get?_mergedPart (typeForm_wellFormed _) filled.typeSpecific
      (fun updates given => same updates given ▸ names) s.tag_suits
      (by rw [form]; exact .tail _ inside) (by simp [Entries.get?_cons, untagged]), part]
  rfl

theorem value_of_gap (filled : s.Filled) (variant : s.variant? = some t)
    (names : (Entries.keys gaps).Nodup)
    (merged : s.mergePatch [("type_specific", .obj gaps)] = .ok r) (inside : field ∈ t.fields)
    (found : Entries.get? gaps field.name = some v) (fits : field.kind.read v = .ok v) :
    Section.value r.typeSpecific field.name = v := by
  rw [own_of_gaps filled variant names merged inside, Field.readIn, found]
  simp [fits, Checked.toOption]

theorem value_of_no_gap (filled : s.Filled) (variant : s.variant? = some t)
    (names : (Entries.keys gaps).Nodup)
    (merged : s.mergePatch [("type_specific", .obj gaps)] = .ok r) (inside : field ∈ t.fields)
    (absent : Entries.get? gaps field.name = none) :
    Section.value r.typeSpecific field.name = Section.value s.typeSpecific field.name := by
  rw [own_of_gaps filled variant names merged inside, Field.readIn, absent]
  rfl

end Merged

section Again

theorem fillGaps_deck (deck : s.variant? = some .deck) (provided : Section) :
    fillGaps s provided = .ok (offered provided "visual_style"
      (.str (visualStyleFor (Section.text? s.typeSpecific "deck_type")))) := by
  simp only [fillGaps, deck, offered]

theorem fillGaps_comms (comms : s.variant? = some .comms) (provided : Section) :
    fillGaps s provided = .ok (offered provided "formality_level"
      (.str (formalityFor (Section.text? s.audience "relationship")))) := by
  simp only [fillGaps, comms, offered]

theorem fillGaps_code (code : s.variant? = some .code) (provided : Section) :
    fillGaps s provided = .ok (impliedLanguage s.typeSpecific) := by
  unfold fillGaps
  rw [code]
  rfl

theorem fillGaps_doc (doc : s.variant? = some .doc) (provided : Section) :
    fillGaps s provided = docGaps s provided := by
  simp only [fillGaps, doc]

theorem impliedLanguage_cases (own : Section) :
    (impliedLanguage own = [] ∧
        (Section.flag own "language" = true ∨ languageFor (Section.text? own "framework") = none)) ∨
      (Section.flag own "language" = false ∧
        ∃ language, language ≠ "" ∧ languageFor (Section.text? own "framework") = some language ∧
          impliedLanguage own = [("language", .str language)]) := by
  unfold impliedLanguage
  cases Section.flag own "language" with
  | true => exact .inl ⟨rfl, .inl rfl⟩
  | false =>
    cases found : languageFor (Section.text? own "framework") with
    | none => exact .inl ⟨rfl, .inr rfl⟩
    | some language => exact .inr ⟨rfl, language, languageFor_ne_empty found, rfl, rfl⟩

theorem impliedLanguage_again (filled : s.Filled) (code : s.variant? = some .code)
    (merged : s.mergePatch [("type_specific", .obj (impliedLanguage s.typeSpecific))] = .ok r) :
    impliedLanguage r.typeSpecific = [] := by
  have language : textField "language" ∈ OutputType.code.fields := .head _
  have framework : textOrNullField "framework" ∈ OutputType.code.fields := .tail _ (.head _)
  rcases impliedLanguage_cases s.typeSpecific with ⟨unimplied, settled⟩ | ⟨-, name, named, -, implied⟩
  next =>
    rw [unimplied] at merged
    have names : (Entries.keys ([] : Section)).Nodup := .nil
    have same : Section.value r.typeSpecific "language" =
        Section.value s.typeSpecific "language" :=
      value_of_no_gap filled code names merged language rfl
    have same' : Section.value r.typeSpecific "framework" =
        Section.value s.typeSpecific "framework" :=
      value_of_no_gap filled code names merged framework rfl
    rw [← unimplied]
    unfold impliedLanguage Section.flag Section.text?
    rw [same, same']
  next =>
    rw [implied] at merged
    have held : Section.value r.typeSpecific "language" = .str name :=
      value_of_gap filled code (by simp [Entries.keys]) merged language rfl rfl
    have flag : Section.flag r.typeSpecific "language" = true := by
      rw [Section.flag, held]
      simpa [Json.truthy] using named
    exact if_pos flag

theorem docGaps_again (filled : s.Filled) (doc : s.variant? = some .doc)
    (given : docGaps s provided = .ok gaps)
    (merged : s.mergePatch [("type_specific", .obj gaps)] = .ok r) :
    docGaps r (Entries.overlay provided gaps) = .ok [] := by
  have names : (Entries.keys gaps).Nodup := fillGaps_names ((fillGaps_doc doc provided).trans given)
  obtain ⟨sections, sectioned, whole⟩ := docGaps_sectioned given
  have structured : textsField "section_structure" ∈ OutputType.doc.fields := .tail _ (.head _)
  have listed : Section.items r.typeSpecific "section_structure" ≠ [] := by
    by_cases blank : Section.items s.typeSpecific "section_structure" = []
    next =>
      obtain ⟨listed, filled', rfl⟩ := sectioned.blank blank
      have held : Section.value r.typeSpecific "section_structure" = Json.texts listed :=
        value_of_gap filled doc names merged structured (by rw [whole]; rfl) (Kind.texts_read _)
      rw [Section.items, held]
      simpa [Json.texts, Json.asItems?] using filled'
    next =>
      have absent : Entries.get? gaps "section_structure" = none := by
        rw [whole, sectioned.listed blank, List.nil_append, Entries.get?_eq_none_iff, offeredSummary,
          mem_keys_offered]
        exact fun found => absurd found.1 (by decide)
      have same : Section.value r.typeSpecific "section_structure" =
          Section.value s.typeSpecific "section_structure" :=
        value_of_no_gap filled doc names merged structured absent
      rwa [Section.items, same]
  rw [docGaps_of_sections listed, offeredSummary, offered_overlay]
  intro key inside
  rw [whole, Entries.keys, List.map_append]
  exact List.mem_append_right _ inside

theorem fillGaps_again (filled : s.Filled) (given : fillGaps s provided = .ok gaps)
    (merged : s.mergePatch [("type_specific", .obj gaps)] = .ok r) :
    fillGaps r (Entries.overlay provided gaps) = .ok [] := by
  have names := fillGaps_names given
  have same := variant_of_gaps filled merged
  cases variant : s.variant? with
  | none =>
    rw [variant] at same
    simp only [fillGaps, same]
  | some t =>
    rw [variant] at same
    cases t with
    | deck =>
      rw [fillGaps_deck variant] at given
      cases given
      rw [fillGaps_deck same, offered_overlay _ fun _ inside => inside]
    | comms =>
      rw [fillGaps_comms variant] at given
      cases given
      rw [fillGaps_comms same, offered_overlay _ fun _ inside => inside]
    | code =>
      rw [fillGaps_code variant] at given
      cases given
      rw [fillGaps_code same, impliedLanguage_again filled variant merged]
    | doc =>
      rw [fillGaps_doc variant] at given
      rw [fillGaps_doc same]
      exact docGaps_again filled variant given merged
    | data => simp only [fillGaps, same]
    | copy => simp only [fillGaps, same]

end Again

/-- A setting that is provided and that advice gives although it is: the spec has none. -/
inductive Overridden (s : PromptSpec) (provided : Section) : String → Prop where
  | language {name : String} (code : s.variant? = some .code)
      (blank : Section.flag s.typeSpecific "language" = false)
      (implied : languageFor (Section.text? s.typeSpecific "framework") = some name)
      (given : "language" ∈ Entries.keys provided) : Overridden s provided "language"
  | sections (doc : s.variant? = some .doc)
      (blank : Section.items s.typeSpecific "section_structure" = [])
      (given : "section_structure" ∈ Entries.keys provided) :
      Overridden s provided "section_structure"

theorem Overridden.variant (overridden : Overridden s provided key) :
    s.variant? = some .code ∨ s.variant? = some .doc := by
  cases overridden with
  | language code => exact .inl code
  | sections doc => exact .inr doc

theorem Overridden.mem_refilled (overridden : Overridden s provided key) : key ∈ refilled := by
  cases overridden with
  | language => exact .tail _ (.head _)
  | sections => exact .head _

theorem not_mem_offered (inside : key ∈ Entries.keys provided) {other : String} :
    key ∉ Entries.keys (offered provided other v) := by
  intro found
  obtain ⟨rfl, free⟩ := mem_keys_offered.mp found
  exact free inside

theorem mem_impliedLanguage (code : s.variant? = some .code)
    (inside : key ∈ Entries.keys provided) :
    key ∈ Entries.keys (impliedLanguage s.typeSpecific) ↔ Overridden s provided key := by
  rcases impliedLanguage_cases s.typeSpecific with ⟨unimplied, settled⟩ | ⟨blank, name, -, found, implied⟩
  next =>
    rw [unimplied]
    refine iff_of_false List.not_mem_nil ?_
    rintro (⟨-, blank, implied, -⟩ | ⟨doc, -, -⟩)
    next =>
      rcases settled with flag | unknown
      next => cases flag.symm.trans blank
      next => cases unknown.symm.trans implied
    next => cases code.symm.trans doc
  next =>
    rw [implied]
    constructor
    next =>
      intro language
      obtain rfl : key = "language" := List.mem_singleton.mp language
      exact .language code blank found inside
    next =>
      rintro (⟨-, -, -, -⟩ | ⟨doc, -, -⟩)
      next => exact List.mem_singleton.mpr rfl
      next => cases code.symm.trans doc

theorem mem_docGaps (doc : s.variant? = some .doc) (given : docGaps s provided = .ok gaps)
    (inside : key ∈ Entries.keys provided) :
    key ∈ Entries.keys gaps ↔ Overridden s provided key := by
  obtain ⟨sections, sectioned, rfl⟩ := docGaps_sectioned given
  have first : key ∈ Entries.keys (sections ++ offeredSummary s provided) ↔
      key ∈ Entries.keys sections := by
    rw [Entries.keys, List.map_append, List.mem_append]
    exact or_iff_left (not_mem_offered inside)
  rw [first]
  by_cases blank : Section.items s.typeSpecific "section_structure" = []
  next =>
    obtain ⟨names, -, rfl⟩ := sectioned.blank blank
    constructor
    next =>
      intro found
      obtain rfl : key = "section_structure" := List.mem_singleton.mp found
      exact .sections doc blank inside
    next =>
      rintro (⟨code, -, -, -⟩ | ⟨-, -, -⟩)
      next => cases doc.symm.trans code
      next => exact List.mem_singleton.mpr rfl
  next =>
    rw [sectioned.listed blank]
    refine iff_of_false List.not_mem_nil ?_
    rintro (⟨code, -, -, -⟩ | ⟨-, empty, -⟩)
    next => cases doc.symm.trans code
    next => exact blank empty

theorem mem_fillGaps (given : fillGaps s provided = .ok gaps)
    (inside : key ∈ Entries.keys provided) :
    key ∈ Entries.keys gaps ↔ Overridden s provided key := by
  have never (nothing : key ∉ Entries.keys gaps)
      (other : s.variant? ≠ some .code ∧ s.variant? ≠ some .doc) :
      key ∈ Entries.keys gaps ↔ Overridden s provided key :=
    iff_of_false nothing fun overridden => overridden.variant.elim other.1 other.2
  cases variant : s.variant? with
  | none =>
    simp only [fillGaps, variant] at given
    cases given
    exact never List.not_mem_nil (by simp [variant])
  | some t =>
    cases t with
    | deck =>
      rw [fillGaps_deck variant] at given
      cases given
      exact never (not_mem_offered inside) (by simp [variant])
    | comms =>
      rw [fillGaps_comms variant] at given
      cases given
      exact never (not_mem_offered inside) (by simp [variant])
    | code =>
      rw [fillGaps_code variant] at given
      cases given
      exact mem_impliedLanguage variant inside
    | doc => exact mem_docGaps variant ((fillGaps_doc variant provided).symm.trans given) inside
    | data =>
      simp only [fillGaps, variant] at given
      cases given
      exact never List.not_mem_nil (by simp [variant])
    | copy =>
      simp only [fillGaps, variant] at given
      cases given
      exact never List.not_mem_nil (by simp [variant])

theorem fillGaps_settled (s : PromptSpec) (filled : s.Filled) (provided gaps : Section)
    (given : fillGaps s provided = .ok gaps) :
    (∀ key ∈ Entries.keys provided, key ∈ Entries.keys gaps ↔ Overridden s provided key) ∧
      ∃ r, s.merge (.obj [("type_specific", .obj gaps)]) = .ok r ∧
        fillGaps r (Entries.overlay provided gaps) = .ok [] := by
  have parts := gaps_partsOnly gaps
  obtain ⟨r, merged⟩ := mergePatch_ok_of_kept filled parts.plain (parts.kept s)
  have normalized : normalizeUpdates (.obj [("type_specific", .obj gaps)]) =
      .ok [("type_specific", .obj gaps)] := rfl
  refine ⟨fun key inside => mem_fillGaps given inside, r, ?_, fillGaps_again filled given merged⟩
  rw [merge_of_normalized normalized, merged]
  rfl

theorem fillGaps_settled_report : ∃ r gaps,
    fillGaps (ofType (some "doc")) [("include_toc", .bool true)] = .ok gaps ∧
    gaps = [("section_structure", Json.texts reportSections),
      ("include_executive_summary", .bool false)] ∧
    "include_toc" ∉ Entries.keys gaps ∧
    (ofType (some "doc")).merge (.obj [("type_specific", .obj gaps)]) = .ok r ∧
    fillGaps r (Entries.overlay [("include_toc", .bool true)] gaps) = .ok [] := by
  have given : fillGaps (ofType (some "doc")) [("include_toc", .bool true)] =
      .ok [("section_structure", Json.texts reportSections),
        ("include_executive_summary", .bool false)] := rfl
  obtain ⟨kept, r, merged, settled⟩ := fillGaps_settled _ (filled_ofType (some "doc")) _ _ given
  refine ⟨r, _, given, rfl, fun found => ?_, merged, settled⟩
  exact absurd ((kept "include_toc" (.head _)).mp found).mem_refilled (by decide)

def reactCode : Outcome PromptSpec :=
  (ofType (some "code")).merge (.obj [("type_specific", .obj [("framework", .str "react")])])

theorem fillGaps_pythonReact : ∃ s, reactCode = .ok s ∧
    fillGaps s [("language", .str "python")] = .ok [("language", .str "javascript")] := by
  refine ⟨_, rfl, ?_⟩
  rfl

end PromptStudio
