import PromptStudio.Proofs.Prompt.Analysis
import PromptStudio.Proofs.Prompt.Generation

set_option autoImplicit false

namespace PromptStudio

open PromptSpec

theorem PromptSpec.toneAndStyle_ne_empty (s : PromptSpec) : s.toneAndStyle ≠ "" := by
  have title : "## Tone & Style\n- Tone: " ≠ "" := by decide
  unfold toneAndStyle
  simp only [ne_eq, String.append_eq_empty_iff, title, false_and, not_false_eq_true]

def PromptSpec.partsBefore (s : PromptSpec) : List String :=
  ["You are generating a high-quality, ready-to-use prompt based on a detailed specification.",
    "## Primary Goal\n" ++ Section.text s.intent "primary_goal", s.criteriaPart,
    s.audiencePart].filter (· != "")

def PromptSpec.partsAfter (s : PromptSpec) (own : String) : List String :=
  [s.contentRequirements, own, generationTask].filter (· != "")

def PromptSpec.promptWith (s : PromptSpec) (style own : String) : String :=
  String.intercalate "\n\n" (s.partsBefore ++ style :: s.partsAfter own)

theorem PromptSpec.generationPrompt_with {s : PromptSpec} {own : String}
    (written : s.ownInstructions = .ok own) :
    s.generationPrompt = .ok (s.promptWith s.toneAndStyle own) := by
  have filled : (s.toneAndStyle != "") = true := bne_iff_ne.mpr s.toneAndStyle_ne_empty
  have split (before after : List String) :
      (before ++ s.toneAndStyle :: after).filter (· != "") =
        before.filter (· != "") ++ s.toneAndStyle :: after.filter (· != "") := by
    rw [List.filter_append, List.filter_cons_of_pos (by exact filled)]
  rw [promptWith, partsBefore, partsAfter, ← split]
  exact Outcome.bind_eq_ok.mpr ⟨own, written, rfl⟩

theorem PromptSpec.generationPrompt_eq {s : PromptSpec} {own : String}
    (written : s.ownInstructions = .ok own) :
    ∃ before after, s.generationPrompt =
      .ok (String.intercalate "\n\n" (before ++ s.toneAndStyle :: after)) :=
  ⟨_, _, generationPrompt_with written⟩

section Advice

variable {s r : PromptSpec} {t : OutputType} {provided : Section}

/-- An agenda without sections, for which none can be chosen: its kind is no name to look up. -/
structure AgendaUnnamed (s : PromptSpec) (provided : Section) : Prop where
  doc : s.variant? = some .doc
  agenda : Section.text? s.typeSpecific "document_type" = some "agenda"
  blank : Section.items s.typeSpecific "section_structure" = []
  unnamed : ∃ f, lookupName (Section.value provided "agenda_type") = .error f

theorem docGaps_ok_iff (s : PromptSpec) (provided : Section) :
    (∃ gaps, docGaps s provided = .ok gaps) ↔
      ¬(Section.text? s.typeSpecific "document_type" = some "agenda" ∧
        Section.items s.typeSpecific "section_structure" = [] ∧
        ∃ f, lookupName (Section.value provided "agenda_type") = .error f) := by
  unfold docGaps
  by_cases blank : Section.items s.typeSpecific "section_structure" = []
  next =>
    by_cases agenda : Section.text? s.typeSpecific "document_type" = some "agenda"
    next =>
      cases lookupName (Section.value provided "agenda_type") with
      | error f => simp [blank, agenda, Bind.bind, Except.bind]
      | ok kind => simp [blank, agenda, Bind.bind, Except.bind, pure, Except.pure]
    next => simp [blank, agenda, Bind.bind, Except.bind, pure, Except.pure]
  next => simp [blank, Bind.bind, Except.bind, pure, Except.pure]

theorem fillGaps_ok_iff (s : PromptSpec) (provided : Section) :
    (∃ gaps, fillGaps s provided = .ok gaps) ↔ ¬AgendaUnnamed s provided := by
  by_cases doc : s.variant? = some .doc
  next =>
    have own : fillGaps s provided = docGaps s provided := by simp [fillGaps, doc]
    rw [own, docGaps_ok_iff]
    exact not_congr ⟨fun ⟨agenda, blank, unnamed⟩ => ⟨doc, agenda, blank, unnamed⟩,
      fun ⟨_, agenda, blank, unnamed⟩ => ⟨agenda, blank, unnamed⟩⟩
  next =>
    have filled : ∃ gaps, fillGaps s provided = .ok gaps := by
      unfold fillGaps
      split
      next => exact ⟨_, rfl⟩
      next => exact ⟨_, rfl⟩
      next same => exact absurd same doc
      next => exact ⟨_, rfl⟩
      next => exact ⟨_, rfl⟩
    exact iff_of_true filled fun unnamed => doc unnamed.doc

theorem PromptSpec.Ready.withAdvice_ok_iff (ready : s.Ready t) (provided : Section) :
    (∃ r, s.withAdvice provided = .ok r) ↔ ¬AgendaUnnamed s provided := by
  rw [← fillGaps_ok_iff]
  constructor
  · rintro ⟨r, advised⟩
    obtain ⟨gaps, filled, -⟩ := Outcome.bind_eq_ok.mp advised
    exact ⟨gaps, filled⟩
  · rintro ⟨gaps, filled⟩
    have parts : PartsOnly [("type_specific", .obj gaps)] := ⟨rfl, rfl, rfl⟩
    obtain ⟨merged, ok⟩ := mergePatch_ok_of_kept ready.filled parts.plain (parts.kept s)
    by_cases nothing : gaps.isEmpty = true
    next => exact ⟨s, Outcome.bind_eq_ok.mpr ⟨gaps, filled, if_pos nothing⟩⟩
    next =>
      refine ⟨merged, Outcome.bind_eq_ok.mpr ⟨gaps, filled, ?_⟩⟩
      rw [if_neg nothing, ok]
      rfl

theorem PromptSpec.Ready.kept_of_withAdvice (ready : s.Ready t)
    (advised : s.withAdvice provided = .ok r) :
    r.inferred = s.inferred ∧ r.constraints = s.constraints := by
  obtain ⟨gaps, -, advised⟩ := Outcome.bind_eq_ok.mp advised
  split at advised
  next =>
    obtain rfl : s = r := by injection advised
    exact ⟨rfl, rfl⟩
  next =>
    have merged := Checked.toOutcome_eq_ok_iff.mp advised
    exact ⟨inferred_of_mergePatch ready.filled merged,
      shared_of_mergePatch ready.filled merged .constraints⟩

end Advice

section Settings

variable {analysis : Section} {r : Request} {now : Moment} {spec : PromptSpec}

structure Recommends (analysis : Section) (tone format length : String) : Prop where
  toneText : Section.value (analysisPart analysis "recommended_settings") "tone" = .str tone
  formatText : Section.value (analysisPart analysis "recommended_settings") "format" = .str format
  lengthText : Section.value (analysisPart analysis "recommended_settings") "length" = .str length
  named : tone ≠ "" ∧ format ≠ "" ∧ length ≠ ""

/-- The analysis suggests an agenda without sections, of a kind that is a list or an object. -/
structure AgendaUnlisted (analysis : Section) (r : Request) : Prop where
  doc : r.outputType = .doc
  agenda : Section.value (suggestionsIn analysis) "document_type" = .str "agenda"
  blank : ∀ item items,
    Section.value (suggestionsIn analysis) "section_structure" ≠ Json.texts (item :: items)
  unnamed : ∃ f, lookupName (Section.value (suggestionsIn analysis) "agenda_type") = .error f

theorem analysisUpdates_partsOnly (analysis : Section) (r : Request) :
    PartsOnly (analysisUpdates analysis r) := ⟨rfl, rfl, rfl⟩

theorem specOfAnalysis_eq (analysis : Section) (r : Request) (now : Moment) :
    ∃ merged, (ofType (some r.outputType.name)).mergePatch (analysisUpdates analysis r) =
        .ok merged ∧ merged.Ready r.outputType ∧
      specOfAnalysis analysis r now =
        ({ merged with generatedAt := some now } : PromptSpec).withAdvice
          (suggestionsIn analysis) := by
  have ready := ready_ofType r.outputType
  have parts := analysisUpdates_partsOnly analysis r
  obtain ⟨merged, ok⟩ := mergePatch_ok_of_kept ready.filled parts.plain (parts.kept _)
  have dated : (ofType (some r.outputType.name)).mergeAt now (analysisUpdates analysis r) =
      .ok { merged with generatedAt := some now } := mergeAt_eq_ok_iff.mpr ⟨merged, ok, rfl⟩
  refine ⟨merged, ok, ready.merged parts ok, ?_⟩
  rw [specOfAnalysis, dated]
  rfl

variable {merged : PromptSpec}

def freshSpec (r : Request) : PromptSpec := ofType (some r.outputType.name)

theorem freshSpec_filled (r : Request) : (freshSpec r).Filled := filled_ofType _

-- The length that is inferred is one setting and the length that is asked for another: only
-- the first is part of the update.
theorem constraints_of_analysis
    (ok : (freshSpec r).mergePatch (analysisUpdates analysis r) = .ok merged) :
    merged.constraints = constraintsForm.empty :=
  shared_of_mergePatch (freshSpec_filled r) ok .constraints

theorem inferred_of_analysis
    (ok : (freshSpec r).mergePatch (analysisUpdates analysis r) = .ok merged)
    {key text : String} (declared : textOrNullField key ∈ inferredForm.fields)
    (other : key ≠ "reasoning")
    (given : (updatesFor (analysisUpdates analysis r) "inferred").bind (Entries.get? · key) =
      some (.str text)) :
    Section.value merged.inferred key = .str text := by
  have names : ∀ updates ∈ updatesFor (analysisUpdates analysis r) "inferred",
      (Entries.keys updates).Nodup := by
    rintro updates ⟨⟩
    simp [Entries.keys]
  rw [Section.value, inferred_merged (freshSpec_filled r) names ok declared other given]
  rfl

theorem own_of_analysis (distinct : (Entries.keys (suggestionsIn analysis)).Nodup)
    (ok : (freshSpec r).mergePatch (analysisUpdates analysis r) = .ok merged) {field : Field}
    (inside : field ∈ r.outputType.fields) :
    Entries.get? merged.typeSpecific field.name =
      field.updated (freshSpec r).typeSpecific (suggestionsIn analysis) := by
  have part : (updatesFor (analysisUpdates analysis r) "type_specific").getD [] =
        suggestionsIn analysis ∧
      ∀ updates ∈ updatesFor (analysisUpdates analysis r) "type_specific",
        (Entries.keys updates).Nodup := by
    have found : Entries.get? (analysisUpdates analysis r) "type_specific" =
        some (.obj (suggestionsIn analysis)) := rfl
    rw [updatesFor, found]
    cases suggested : suggestionsIn analysis with
    | nil => exact ⟨rfl, nofun⟩
    | cons entry rest =>
      refine ⟨rfl, ?_⟩
      rintro updates ⟨⟩
      rwa [suggested] at distinct
  have form : typeForm (freshSpec r).tag = r.outputType.form := by
    simp [freshSpec, PromptSpec.tag, ofType, Json.ofOption, typeForm, outputTypeOf?]
  have untagged : field.name ≠ "output_type" := OutputType.fields_untagged _ field inside
  have held := typeSpecific_of_mergePatch (freshSpec_filled r)
    ((analysisUpdates_partsOnly analysis r).kept (freshSpec r)) ok
  rw [held, Form.get?_mergedPart (typeForm_wellFormed _) (freshSpec_filled r).typeSpecific part.2
    (tag_suits _) (by rw [form]; exact .tail _ inside) (by simp [Entries.get?_cons, untagged]),
    part.1]

theorem documentType_of_analysis (doc : r.outputType = .doc)
    (distinct : (Entries.keys (suggestionsIn analysis)).Nodup)
    (ok : (freshSpec r).mergePatch (analysisUpdates analysis r) = .ok merged) :
    Section.text? merged.typeSpecific "document_type" = some "agenda" ↔
      Section.value (suggestionsIn analysis) "document_type" = .str "agenda" := by
  have inside : textField "document_type" "report" ∈ r.outputType.fields := by
    rw [doc]
    exact .head _
  have held := own_of_analysis distinct ok inside
  have default : Entries.get? (freshSpec r).typeSpecific "document_type" =
      some (.str "report") := by
    rw [freshSpec, doc]
    rfl
  have found : Entries.get? merged.typeSpecific "document_type" =
      (((Entries.get? (suggestionsIn analysis) "document_type").bind
        fun v => (Kind.text.read v).toOption).or (some (.str "report"))) := by
    rw [← default]
    exact held
  rw [Section.text?, Section.value, found, Section.value]
  cases Entries.get? (suggestionsIn analysis) "document_type" with
  | none => simp [Json.asText?]
  | some v => cases v <;> simp [read_text, Json.asText?]

theorem sections_of_analysis (doc : r.outputType = .doc)
    (distinct : (Entries.keys (suggestionsIn analysis)).Nodup)
    (ok : (freshSpec r).mergePatch (analysisUpdates analysis r) = .ok merged) :
    Section.items merged.typeSpecific "section_structure" = [] ↔
      ∀ item items, Section.value (suggestionsIn analysis) "section_structure" ≠
        Json.texts (item :: items) := by
  have inside : textsField "section_structure" ∈ r.outputType.fields := by
    rw [doc]
    exact .tail _ (.head _)
  have held := own_of_analysis distinct ok inside
  have default : Entries.get? (freshSpec r).typeSpecific "section_structure" =
      some (.arr []) := by
    rw [freshSpec, doc]
    rfl
  have found : Entries.get? merged.typeSpecific "section_structure" =
      (((Entries.get? (suggestionsIn analysis) "section_structure").bind
        fun v => (Kind.texts.read v).toOption).or (some (.arr []))) := by
    rw [← default]
    exact held
  rw [Section.items, Section.value, found, Section.value]
  cases Entries.get? (suggestionsIn analysis) "section_structure" with
  | none => simp [Json.asItems?, Json.texts]
  | some v =>
    by_cases listed : ∃ texts, v = Json.texts texts
    next =>
      obtain ⟨texts, rfl⟩ := listed
      rw [Option.bind_some, Kind.texts_read]
      cases texts <;> simp [Checked.toOption, Json.asItems?, Json.texts]
    next =>
      have refused : (Kind.texts.read v).toOption = none := by
        cases read : Kind.texts.read v with
        | ok w =>
          obtain ⟨texts, same, -⟩ := Kind.texts_read_eq_ok read
          exact absurd ⟨texts, same⟩ listed
        | _ => rfl
      have other (item : String) (items : List String) : v ≠ Json.texts (item :: items) :=
        fun same => listed ⟨_, same⟩
      simp [refused, Json.asItems?, other]

theorem suggestionsIn_names (distinct : (Json.obj analysis).Distinct) :
    (Entries.keys (suggestionsIn analysis)).Nodup := by
  have part : (Entries.keys (analysisPart analysis "type_specific_suggestions")).Nodup := by
    unfold analysisPart Section.value
    cases found : Entries.get? analysis "type_specific_suggestions" with
    | none => exact .nil
    | some v =>
      cases v with
      | obj fields => exact (distinct.value (Entries.mem_of_get? found)).names
      | _ => exact .nil
  exact part.sublist (List.filter_sublist.map _)

theorem agendaUnnamed_iff (distinct : (Entries.keys (suggestionsIn analysis)).Nodup)
    (ok : (freshSpec r).mergePatch (analysisUpdates analysis r) = .ok merged)
    (ready : merged.Ready r.outputType) :
    AgendaUnnamed { merged with generatedAt := some now } (suggestionsIn analysis) ↔
      AgendaUnlisted analysis r := by
  have variant : ({ merged with generatedAt := some now } : PromptSpec).variant? =
      some r.outputType := (ready.at now).variant
  constructor
  · rintro ⟨typed, agenda, blank, unnamed⟩
    have doc : r.outputType = .doc := Option.some.inj (variant.symm.trans typed)
    exact ⟨doc, (documentType_of_analysis doc distinct ok).mp agenda,
      (sections_of_analysis doc distinct ok).mp blank, unnamed⟩
  · rintro ⟨doc, agenda, blank, unnamed⟩
    exact ⟨doc ▸ variant, (documentType_of_analysis doc distinct ok).mpr agenda,
      (sections_of_analysis doc distinct ok).mpr blank, unnamed⟩

def styleOf (tone format length : String) : String :=
  "## Tone & Style\n- Tone: " ++ tone ++ "\n- Format: " ++ format ++ "\n- Length: " ++ length

theorem styleOf_length_inj {tone format length other : String} :
    styleOf tone format length = styleOf tone format other ↔ length = other :=
  String.append_right_inj _

/-- The settings are kept, and two of them get into the prompt. -/
structure PromptSpec.Followed (spec : PromptSpec) (tone format length : String) : Prop where
  toneKept : Section.value spec.inferred "tone" = .str tone
  formatKept : Section.value spec.inferred "format" = .str format
  lengthKept : Section.value spec.inferred "length" = .str length
  style : spec.toneAndStyle = styleOf tone format "medium"

theorem followed_of_analysis {tone format length : String}
    (recommends : Recommends analysis tone format length)
    (ok : (freshSpec r).mergePatch (analysisUpdates analysis r) = .ok merged) :
    merged.Followed tone format length := by
  obtain ⟨toneText, formatText, lengthText, toneNamed, formatNamed, lengthNamed⟩ := recommends
  have chosen {key text fallback : String}
      (given : Section.value (analysisPart analysis "recommended_settings") key = .str text)
      (named : text ≠ "") :
      valueOr (analysisPart analysis "recommended_settings") key (.str fallback) = .str text := by
    simp [valueOr, given, named]
  have toneKept : Section.value merged.inferred "tone" = .str tone :=
    inferred_of_analysis ok (.head _) (by decide)
      (congrArg some (chosen toneText toneNamed))
  have formatKept : Section.value merged.inferred "format" = .str format :=
    inferred_of_analysis ok (.tail _ (.head _)) (by decide)
      (congrArg some (chosen formatText formatNamed))
  have lengthKept : Section.value merged.inferred "length" = .str length :=
    inferred_of_analysis ok (.tail _ (.tail _ (.head _))) (by decide)
      (congrArg some (chosen lengthText lengthNamed))
  have medium : Section.textOr merged.constraints "length" "medium" = "medium" := by
    rw [constraints_of_analysis ok]
    decide +kernel
  have written {key text fallback : String}
      (kept : Section.value merged.inferred key = .str text) (named : text ≠ "") :
      Section.textOr merged.inferred key fallback = text := by
    simp [Section.textOr, Section.text, kept, Json.asText?, named]
  refine ⟨toneKept, formatKept, lengthKept, ?_⟩
  unfold toneAndStyle
  rw [medium, written toneKept toneNamed, written formatKept formatNamed]
  rfl

theorem PromptSpec.Followed.withAdvice {s : PromptSpec} {t : OutputType}
    {tone format length : String} {provided : Section} (followed : s.Followed tone format length)
    (ready : s.Ready t) (advised : s.withAdvice provided = .ok spec) : spec.Followed tone format length := by
  obtain ⟨inferred, constraints⟩ := ready.kept_of_withAdvice advised
  have style : spec.toneAndStyle = s.toneAndStyle := by
    unfold toneAndStyle
    rw [inferred, constraints]
  constructor
  case toneKept => rw [inferred, followed.toneKept]
  case formatKept => rw [inferred, followed.formatKept]
  case lengthKept => rw [inferred, followed.lengthKept]
  case style => exact style.trans followed.style

theorem specOfAnalysis_recommended (analysis : Section) (distinct : (Json.obj analysis).Distinct)
    (r : Request) (now : Moment) (tone format length : String)
    (recommends : Recommends analysis tone format length) :
    ((∃ spec, specOfAnalysis analysis r now = .ok spec) ↔ ¬AgendaUnlisted analysis r) ∧
      ∀ spec, specOfAnalysis analysis r now = .ok spec →
        spec.Followed tone format length ∧
        (spec.toneAndStyle = styleOf tone format length ↔ length = "medium") ∧
        ∃ before after, spec.generationPrompt =
          .ok (String.intercalate "\n\n" (before ++ spec.toneAndStyle :: after)) := by
  obtain ⟨merged, ok, ready, made⟩ := specOfAnalysis_eq analysis r now
  have names := suggestionsIn_names distinct
  have dated := ready.at now
  constructor
  · rw [made, dated.withAdvice_ok_iff, agendaUnnamed_iff names ok ready]
  · intro spec advised
    rw [made] at advised
    have followed : ({ merged with generatedAt := some now } : PromptSpec).Followed tone format
        length := by
      obtain ⟨toneKept, formatKept, lengthKept, style⟩ := followed_of_analysis recommends ok
      exact ⟨toneKept, formatKept, lengthKept, style⟩
    obtain ⟨own, written⟩ := (dated.withAdvice advised).1.filled.to_tagged.ownInstructions
    have advisedFollowed := followed.withAdvice dated advised
    refine ⟨advisedFollowed, ?_, generationPrompt_eq written⟩
    rw [advisedFollowed.style, styleOf_length_inj, eq_comm]

end Settings

section Witnesses

def recommending (length : String) : Section :=
  [("recommended_settings",
    .obj [("tone", .str "warm"), ("format", .str "email"), ("length", .str length)])]

theorem recommending_distinct (length : String) : (Json.obj (recommending length)).Distinct := by
  simp [recommending, Json.Distinct, Json.FieldsDistinct, Entries.keys]

theorem recommending_recommends {length : String} (named : length ≠ "") :
    Recommends (recommending length) "warm" "email" length :=
  ⟨rfl, rfl, rfl, by decide, by decide, named⟩

def newYear : Moment := ⟨2026, 1, 1, 0, 0, 0, 0, none⟩

theorem specOfAnalysis_mediumTalk :
    (Json.obj (recommending "medium")).Distinct ∧
      Recommends (recommending "medium") "warm" "email" "medium" ∧
      ∃ spec, specOfAnalysis (recommending "medium") talkRequest newYear = .ok spec ∧
        spec.toneAndStyle = styleOf "warm" "email" "medium" := by
  have distinct := recommending_distinct "medium"
  have recommends : Recommends (recommending "medium") "warm" "email" "medium" :=
    recommending_recommends (by decide)
  obtain ⟨made, followed⟩ := specOfAnalysis_recommended (recommending "medium") distinct talkRequest
    newYear "warm" "email" "medium" recommends
  have listed : ¬AgendaUnlisted (recommending "medium") talkRequest := fun unlisted =>
    nomatch unlisted.agenda
  obtain ⟨spec, ok⟩ := made.mpr listed
  exact ⟨distinct, recommends, spec, ok, (followed spec ok).1.style⟩

theorem specOfAnalysis_shortTalk :
    ∃ spec, Recommends (recommending "short") "warm" "email" "short" ∧
      specOfAnalysis (recommending "short") talkRequest newYear = .ok spec ∧
      Section.value spec.inferred "length" = .str "short" ∧
      spec.toneAndStyle = styleOf "warm" "email" "medium" ∧
      spec.toneAndStyle ≠ styleOf "warm" "email" "short" := by
  refine ⟨_, recommending_recommends (by decide), rfl, rfl, rfl, ?_⟩
  decide +kernel

end Witnesses

end PromptStudio
