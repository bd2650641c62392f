import PromptStudio.Proofs.Json.Reading
import PromptStudio.Proofs.Prompt.Recommendations

set_option autoImplicit false

namespace PromptStudio

open PromptSpec

theorem distinct_of_decodeText {text : String} {v : Json} (decoded : decodeText text = .ok v) :
    v.Distinct := by
  have trimmed {text : List Char} {v : Json} (read : decodeTrimmed? text = some v) :
      v.Distinct := by
    unfold decodeTrimmed? at read
    split at read
    next => cases read
    next => exact Json.distinct_of_readChars read
  unfold decodeText at decoded
  split at decoded
  next w found =>
    cases decoded
    rcases Option.or_eq_some_iff.mp found with fenced | ⟨-, later⟩
    · obtain ⟨block, -, read⟩ := Option.bind_eq_some_iff.mp fenced
      exact trimmed read
    · rcases Option.or_eq_some_iff.mp later with whole | ⟨-, outer⟩
      · exact trimmed whole
      · obtain ⟨braces, -, read⟩ := Option.bind_eq_some_iff.mp outer
        exact trimmed read
  next => cases decoded

theorem analysisOf_eq_ok {reply : Json} {analysis : Section}
    (read : analysisOf reply = .ok analysis) :
    reply = .obj analysis ∨ ∃ text, decodeText text = .ok (.obj analysis) := by
  unfold analysisOf at read
  split at read
  next text =>
    obtain ⟨decoded, found, read⟩ := Outcome.bind_eq_ok.mp read
    cases decoded with
    | obj fields => cases read; exact .inr ⟨text, found⟩
    | _ => cases read
  next => cases read; exact .inl rfl
  next =>
    obtain ⟨decoded, found, read⟩ := Outcome.bind_eq_ok.mp read
    cases decoded with
    | obj fields => cases read; exact .inr ⟨_, found⟩
    | _ => cases read

theorem distinct_of_analysisOf {reply : Json} {analysis : Section} (distinct : reply.Distinct)
    (read : analysisOf reply = .ok analysis) : (Json.obj analysis).Distinct := by
  rcases analysisOf_eq_ok read with rfl | ⟨text, decoded⟩
  · exact distinct
  · exact distinct_of_decodeText decoded

section Advice

variable {s spec : PromptSpec} {t : OutputType} {provided gaps : Section}

theorem PromptSpec.Ready.form_eq (ready : s.Ready t) : typeForm s.tag = t.form := by
  rw [tag, ready.outputType]
  simp [Json.ofOption, typeForm, outputTypeOf?]

theorem lookupName_error {v : Json} {f : Failure} (refused : lookupName v = .error f) :
    ∃ message, f = .wrongType message := by
  unfold lookupName at refused
  split at refused
  · cases refused
    exact ⟨_, rfl⟩
  · cases refused
    exact ⟨_, rfl⟩
  · cases refused

theorem fillGaps_of_unnamed (unnamed : AgendaUnnamed s provided) :
    ∃ message, fillGaps s provided = .error (.wrongType message) := by
  obtain ⟨doc, agenda, blank, f, refused⟩ := unnamed
  obtain ⟨message, rfl⟩ := lookupName_error refused
  refine ⟨message, ?_⟩
  simp [fillGaps, doc, docGaps, blank, agenda, refused, Bind.bind, Except.bind]

def refilled : List String := ["section_structure", "language"]

/-- A part that advice may fill in: it is declared and not suggested, or one of the two that are
filled in as well when what is suggested is of no account. -/
def Blank (s : PromptSpec) (t : OutputType) (provided : Section) (key : String) : Prop :=
  (∃ field ∈ t.fields, field.name = key) ∧
    (Entries.get? provided key = none ∨
      key ∈ refilled ∧ (Section.value s.typeSpecific key).truthy = false)

theorem docGaps_eq_ok (filled : docGaps s provided = .ok gaps) :
    ∃ sections summary, gaps = sections ++ summary ∧
      (sections = [] ∨ Section.items s.typeSpecific "section_structure" = [] ∧
        Entries.keys sections = ["section_structure"]) ∧
      (summary = [] ∨ Entries.get? provided "include_executive_summary" = none ∧
        Entries.keys summary = ["include_executive_summary"]) := by
  have summarised : ∀ advised : Bool,
      let summary : Section := if Entries.has provided "include_executive_summary" then []
        else [("include_executive_summary", .bool advised)]
      summary = [] ∨ Entries.get? provided "include_executive_summary" = none ∧
        Entries.keys summary = ["include_executive_summary"] := by
    intro advised
    cases found : Entries.get? provided "include_executive_summary" <;>
      simp [Entries.has, found, Entries.keys]
  unfold docGaps at filled
  dsimp only at filled
  split at filled
  next blank =>
    have empty : Section.items s.typeSpecific "section_structure" = [] := List.isEmpty_iff.mp blank
    split at filled
    next =>
      obtain ⟨kind, -, filled⟩ := Outcome.bind_eq_ok.mp filled
      cases filled
      exact ⟨_, _, rfl, .inr ⟨empty, rfl⟩, summarised _⟩
    next =>
      cases filled
      exact ⟨_, _, rfl, .inr ⟨empty, rfl⟩, summarised _⟩
  next =>
    cases filled
    exact ⟨_, _, rfl, .inl rfl, summarised _⟩

theorem docGaps_blank (ready : s.Ready .doc) (filled : docGaps s provided = .ok gaps) :
    ∀ key ∈ Entries.keys gaps, Blank s .doc provided key := by
  obtain ⟨sections, summary, rfl, listed, summarised⟩ := docGaps_eq_ok filled
  intro key inside
  rw [Entries.keys, List.map_append, List.mem_append] at inside
  rcases inside with first | second
  · rcases listed with rfl | ⟨empty, keys⟩
    · cases first
    obtain rfl : key = "section_structure" := by
      simpa using (keys ▸ first : key ∈ ["section_structure"])
    have held := ready.form_eq ▸ ready.filled.typeSpecific
    obtain ⟨items, found⟩ := texts_of_holds (OutputType.form_wellFormed .doc) held
      (show textsField "section_structure" ∈ OutputType.doc.form.fields by
        simp [OutputType.form, OutputType.fields])
    refine ⟨⟨textsField "section_structure", .tail _ (.head _), rfl⟩, .inr ⟨.head _, ?_⟩⟩
    rw [Section.items, Section.value, found] at empty
    rw [Section.value, found]
    cases items with
    | nil => rfl
    | cons item rest => cases empty
  · rcases summarised with rfl | ⟨absent, keys⟩
    · cases second
    obtain rfl : key = "include_executive_summary" := by
      simpa using (keys ▸ second : key ∈ ["include_executive_summary"])
    exact ⟨⟨flagField "include_executive_summary" false, .tail _ (.tail _ (.head _)), rfl⟩,
      .inl absent⟩

theorem fillGaps_blank (ready : s.Ready t) (filled : fillGaps s provided = .ok gaps) :
    ∀ key ∈ Entries.keys gaps, Blank s t provided key := by
  have variant := ready.variant
  unfold fillGaps at filled
  rw [variant] at filled
  cases t with
  | deck =>
    cases filled
    intro key inside
    split at inside
    next => cases inside
    next absent =>
      obtain rfl : key = "visual_style" := by simpa [Entries.keys] using inside
      exact ⟨⟨textField "visual_style" "minimal", .tail _ (.tail _ (.head _)), rfl⟩,
        .inl (by simpa [Entries.has] using absent)⟩
  | code =>
    cases filled
    intro key inside
    split at inside
    next => cases inside
    next blank =>
      split at inside
      next =>
        obtain rfl : key = "language" := by simpa [Entries.keys] using inside
        exact ⟨⟨textField "language", .head _, rfl⟩,
          .inr ⟨.tail _ (.head _), by simpa [Section.flag] using blank⟩⟩
      next => cases inside
  | doc => exact docGaps_blank ready filled
  | comms =>
    cases filled
    intro key inside
    split at inside
    next => cases inside
    next absent =>
      obtain rfl : key = "formality_level" := by simpa [Entries.keys] using inside
      exact ⟨⟨textField "formality_level" "professional",
          .tail _ (.tail _ (.tail _ (.head _))), rfl⟩,
        .inl (by simpa [Entries.has] using absent)⟩
  | _ =>
    cases filled
    intro key inside
    cases inside

theorem fillGaps_names (filled : fillGaps s provided = .ok gaps) : (Entries.keys gaps).Nodup := by
  unfold fillGaps at filled
  split at filled
  next => cases filled; split <;> simp [Entries.keys]
  next => cases filled; repeat' split <;> simp [Entries.keys]
  next =>
    obtain ⟨sections, summary, rfl, listed, summarised⟩ := docGaps_eq_ok filled
    have first : Entries.keys sections = [] ∨ Entries.keys sections = ["section_structure"] :=
      listed.imp (fun absent => by rw [absent]; rfl) And.right
    have second : Entries.keys summary = [] ∨
        Entries.keys summary = ["include_executive_summary"] :=
      summarised.imp (fun absent => by rw [absent]; rfl) And.right
    rw [Entries.keys, List.map_append]
    change (Entries.keys sections ++ Entries.keys summary).Nodup
    rcases first with keys | keys <;> rcases second with later | later <;> rw [keys, later] <;>
      decide
  next => cases filled; split <;> simp [Entries.keys]
  next => cases filled; simp [Entries.keys]

theorem withAdvice_eq_ok (advised : s.withAdvice provided = .ok spec) :
    ∃ gaps, fillGaps s provided = .ok gaps ∧
      (spec = s ∨ updatesFor [("type_specific", .obj gaps)] "type_specific" = some gaps ∧
        s.mergePatch [("type_specific", .obj gaps)] = .ok spec) := by
  obtain ⟨gaps, filled, advised⟩ := Outcome.bind_eq_ok.mp advised
  refine ⟨gaps, filled, ?_⟩
  split at advised
  next =>
    cases advised
    exact .inl rfl
  next filled =>
    refine .inr ⟨?_, Checked.toOutcome_eq_ok_iff.mp advised⟩
    cases gaps with
    | nil => exact absurd rfl filled
    | cons gap rest => rfl

theorem gaps_partsOnly (gaps : Section) : PartsOnly [("type_specific", .obj gaps)] :=
  ⟨rfl, rfl, rfl⟩

theorem PromptSpec.Ready.parts_of_withAdvice (ready : s.Ready t)
    (advised : s.withAdvice provided = .ok spec) :
    spec.generatedAt = s.generatedAt ∧ spec.inferred = s.inferred ∧
      ∀ name, spec.shared name = s.shared name := by
  obtain ⟨gaps, -, rfl | ⟨-, merged⟩⟩ := withAdvice_eq_ok advised
  · exact ⟨rfl, rfl, fun _ => rfl⟩
  have moment := generatedAt_of_mergePatch merged
  rw [(gaps_partsOnly gaps).generatedAt] at moment
  refine ⟨(Checked.ok.inj moment).symm, inferred_of_mergePatch ready.filled merged, fun name => ?_⟩
  have shared := shared_of_mergePatch ready.filled merged name
  cases name <;> exact shared

-- Advice is laid over the type's own part, and it gives only what is blank there.
theorem PromptSpec.Ready.part_of_withAdvice (ready : s.Ready t)
    (advised : s.withAdvice provided = .ok spec) :
    spec.typeSpecific = s.typeSpecific ∨ ∃ gaps,
      (∀ key ∈ Entries.keys gaps, Blank s t provided key) ∧
      (∀ fields ∈ some gaps, (Entries.keys fields).Nodup) ∧
      spec.typeSpecific = (typeForm s.tag).mergedPart s.typeSpecific (some gaps)
        [("output_type", s.tag)] := by
  obtain ⟨gaps, filled, rfl | ⟨part, merged⟩⟩ := withAdvice_eq_ok advised
  · exact .inl rfl
  · refine .inr ⟨gaps, fillGaps_blank ready filled, ?_, ?_⟩
    · rintro _ ⟨⟩
      exact fillGaps_names filled
    · rw [typeSpecific_of_mergePatch ready.filled ((gaps_partsOnly gaps).kept s) merged, part]

theorem PromptSpec.Ready.own_of_withAdvice (ready : s.Ready t)
    (advised : s.withAdvice provided = .ok spec) {field : Field} (inside : field ∈ t.fields)
    {w : Json} (suggested : field.readIn provided = some w)
    (held : Entries.get? s.typeSpecific field.name = some w)
    (kept : w.truthy = true ∨ field.name ∉ refilled) :
    Entries.get? spec.typeSpecific field.name = some w := by
  rcases ready.part_of_withAdvice advised with same | ⟨gaps, blank, names, own⟩
  · rw [same, held]
  have untagged : field.name ≠ "output_type" := t.fields_untagged field inside
  have absent : Entries.get? gaps field.name = none := by
    rw [Entries.get?_eq_none_iff]
    intro gap
    rcases (blank field.name gap).2 with unnamed | ⟨empty, falsy⟩
    · simp [Field.readIn, unnamed] at suggested
    · have counts : w.truthy = true := kept.resolve_right fun other => other empty
      rw [Section.value, held, Option.getD_some, counts] at falsy
      cases falsy
  have spared : field.readIn gaps = none := by simp [Field.readIn, absent]
  rw [own, Form.get?_mergedPart (typeForm_wellFormed _) ready.filled.typeSpecific names
      s.tag_suits (by rw [ready.form_eq]; exact .tail _ inside)
      (by simp [Entries.get?_cons, untagged]),
    Field.updated, Option.getD_some, spared, held]
  rfl

theorem PromptSpec.Ready.undeclared_of_withAdvice (ready : s.Ready t)
    (advised : s.withAdvice provided = .ok spec) {key : String}
    (unknown : t.form.declares key = false) :
    Entries.get? spec.typeSpecific key = Entries.get? s.typeSpecific key := by
  rcases ready.part_of_withAdvice advised with same | ⟨gaps, blank, names, own⟩
  · rw [same]
  have other : key ≠ "output_type" := by
    rintro rfl
    cases unknown
  have absent : Entries.get? gaps key = none := by
    rw [Entries.get?_eq_none_iff]
    intro gap
    obtain ⟨field, inside, rfl⟩ := (blank key gap).1
    rw [Form.declares_of_mem (List.mem_cons_of_mem _ inside)] at unknown
    cases unknown
  rw [own, Form.get?_mergedPart_undeclared (typeForm_isOpen _) names s.tag_suits
      (by rw [ready.form_eq]; exact unknown) (by simp [Entries.get?_cons, other]),
    Option.getD_some, absent, Option.none_or]

end Advice

section Analyses

variable {analysis : Section} {r : Request} {now : Moment} {spec merged : PromptSpec}

theorem analysisUpdates_names (distinct : (Entries.keys (suggestionsIn analysis)).Nodup)
    (r : Request) (key : String) :
    ∀ part ∈ updatesFor (analysisUpdates analysis r) key, (Entries.keys part).Nodup := by
  intro part found
  have inside : (key, Json.obj part) ∈ analysisUpdates analysis r :=
    Entries.mem_of_get? (filledPart_eq_some found)
  simp only [analysisUpdates, List.mem_cons, Prod.mk.injEq, Json.obj.injEq, List.not_mem_nil,
    or_false] at inside
  rcases inside with ⟨-, rfl⟩ | ⟨-, rfl⟩ | ⟨-, rfl⟩ | ⟨-, rfl⟩ | ⟨-, rfl⟩
  case inr.inr.inr.inl => exact distinct
  all_goals simp [Entries.keys]

/-- Field by field, what a spec holds of the analysis that it is made of. What does not fit its
field leaves the default there, and nothing else is lost. -/
structure PromptSpec.DrawnFrom (spec : PromptSpec) (analysis : Section) (r : Request)
    (now : Moment) : Prop where
  ready : spec.Ready r.outputType
  generatedAt : spec.generatedAt = some now
  shared : ∀ name : SectionName, ∀ field ∈ name.form.fields,
    Entries.get? (spec.shared name) field.name =
      field.updated name.form.empty
        ((updatesFor (analysisUpdates analysis r) name.key).getD [])
  inferred : ∀ field ∈ inferredForm.fields,
    Entries.get? spec.inferred field.name =
      field.updated inferredForm.empty ((freshSpec r).reasoningUpdates
        ((updatesFor (analysisUpdates analysis r) "inferred").getD []))
  suggested : ∀ field ∈ r.outputType.fields, ∀ w,
    field.readIn (suggestionsIn analysis) = some w →
    w.truthy = true ∨ field.name ∉ refilled →
      Entries.get? spec.typeSpecific field.name = some w
  undeclared : ∀ key, r.outputType.form.declares key = false →
    Entries.get? spec.typeSpecific key = Entries.get? (suggestionsIn analysis) key

theorem Form.get?_empty_undeclared {f : Form} {key : String} (unknown : f.declares key = false) :
    Entries.get? f.empty key = none := by
  have free : Entries.get? (f.others []) key = none := by simp [Form.get?_others]
  rw [Form.empty, Form.complete, Entries.get?_append, free, Option.or_none]
  exact Form.get?_map_fields_undeclared f _ key unknown

theorem typeSpecific_freshSpec (r : Request) :
    (freshSpec r).typeSpecific = r.outputType.form.empty := by
  cases outputType : r.outputType <;> rw [freshSpec, outputType] <;> rfl

theorem ownUpdates_analysisUpdates (analysis : Section) (r : Request) :
    ownUpdates (analysisUpdates analysis r) = suggestionsIn analysis := by
  change (filledPart (some (.obj (suggestionsIn analysis)))).getD [] = _
  cases suggestionsIn analysis <;> rfl

theorem drawnFrom_of_analysis (distinct : (Entries.keys (suggestionsIn analysis)).Nodup)
    (ok : (freshSpec r).mergePatch (analysisUpdates analysis r) = .ok merged)
    (ready : merged.Ready r.outputType) :
    ({ merged with generatedAt := some now } : PromptSpec).DrawnFrom analysis r now := by
  have filled := freshSpec_filled r
  have names := analysisUpdates_names distinct r
  have switched := switchedInto_of_mergePatch filled (analysisUpdates_partsOnly analysis r).plain
    names ok
  constructor
  case ready => exact ready.at now
  case generatedAt => rfl
  case shared =>
    intro name field inside
    have held := switched.shared name field inside
    cases name <;> exact held
  case inferred => exact switched.inferred
  case suggested =>
    intro field inside w given _
    rw [own_of_analysis distinct ok inside, Field.updated, given]
    rfl
  case undeclared =>
    intro key unknown
    have held := switched.undeclared key (by rw [ready.form_eq]; exact unknown)
    rw [ownUpdates_analysisUpdates, typeSpecific_freshSpec] at held
    rw [Form.get?_empty_undeclared unknown, Option.or_none] at held
    exact held

theorem PromptSpec.DrawnFrom.withAdvice {s : PromptSpec} (drawn : s.DrawnFrom analysis r now)
    (held : ∀ field ∈ r.outputType.fields, ∀ w,
      field.readIn (suggestionsIn analysis) = some w →
        Entries.get? s.typeSpecific field.name = some w)
    (advised : s.withAdvice (suggestionsIn analysis) = .ok spec) :
    spec.DrawnFrom analysis r now := by
  have ready := drawn.ready
  obtain ⟨moment, inferred, shared⟩ := ready.parts_of_withAdvice advised
  constructor
  case ready => exact (ready.withAdvice advised).1
  case generatedAt => exact moment.trans drawn.generatedAt
  case shared =>
    intro name field inside
    rw [shared name]
    exact drawn.shared name field inside
  case inferred => exact inferred ▸ drawn.inferred
  case suggested =>
    intro field inside w given kept
    exact ready.own_of_withAdvice advised inside given (held field inside w given) kept
  case undeclared =>
    intro key unknown
    rw [ready.undeclared_of_withAdvice advised unknown]
    exact drawn.undeclared key unknown

/-- No spec is made of an answer: the call failed, its reply is no object, or the object suggests an
agenda that is not listed. -/
def Unusable (r : Request) (answer : Outcome Json) : Prop :=
  ∀ reply analysis, answer = .ok reply → analysisOf reply = .ok analysis →
    AgendaUnlisted analysis r

theorem specOfAnalysis_of_unlisted (now : Moment) (distinct : (Json.obj analysis).Distinct)
    (unlisted : AgendaUnlisted analysis r) :
    ∃ message, specOfAnalysis analysis r now = .error (.wrongType message) := by
  obtain ⟨merged, ok, ready, made⟩ := specOfAnalysis_eq analysis r now
  obtain ⟨message, refused⟩ := fillGaps_of_unnamed
    ((agendaUnnamed_iff (suggestionsIn_names distinct) ok ready).mpr unlisted)
  refine ⟨message, ?_⟩
  rw [made, withAdvice, refused]
  rfl

theorem specOfAnalysis_of_listed (now : Moment) (distinct : (Json.obj analysis).Distinct)
    (listed : ¬AgendaUnlisted analysis r) :
    ∃ spec, specOfAnalysis analysis r now = .ok spec ∧ spec.DrawnFrom analysis r now := by
  have names := suggestionsIn_names distinct
  obtain ⟨merged, ok, ready, made⟩ := specOfAnalysis_eq analysis r now
  have named : ¬AgendaUnnamed { merged with generatedAt := some now } (suggestionsIn analysis) :=
    fun unnamed => listed ((agendaUnnamed_iff names ok ready).mp unnamed)
  obtain ⟨spec, advised⟩ := ((ready.at now).withAdvice_ok_iff _).mpr named
  refine ⟨spec, made.trans advised, (drawnFrom_of_analysis names ok ready).withAdvice ?_ advised⟩
  intro field inside w given
  rw [own_of_analysis names ok inside, Field.updated, given]
  rfl

theorem specOfAnswer_of_unusable {answer : Outcome Json}
    (distinct : ∀ reply, answer = .ok reply → reply.Distinct) (unusable : Unusable r answer) :
    specOfAnswer r now answer = r.basicSpec now := by
  cases answer with
  | error f => rfl
  | ok reply =>
    rw [specOfAnswer, specOfReply]
    cases read : analysisOf reply with
    | error f => rfl
    | ok analysis =>
      obtain ⟨message, refused⟩ := specOfAnalysis_of_unlisted now
        (distinct_of_analysisOf (distinct reply rfl) read) (unusable reply analysis rfl read)
      simp only [Except.bind, refused]

theorem specOfAnswer_of_spec {answer : Outcome Json} {reply : Json} (answered : answer = .ok reply)
    (read : analysisOf reply = .ok analysis) (made : specOfAnalysis analysis r now = .ok spec) :
    specOfAnswer r now answer = .ok spec := by
  rw [answered, specOfAnswer, specOfReply, read]
  simp only [Except.bind, made]

theorem specOfAnalysis_ok_iff (r : Request) (now : Moment) :
    (∀ analysis : Section, (Json.obj analysis).Distinct →
      ((∃ spec, specOfAnalysis analysis r now = .ok spec) ↔ ¬AgendaUnlisted analysis r) ∧
      (AgendaUnlisted analysis r →
        ∃ message, specOfAnalysis analysis r now = .error (.wrongType message)) ∧
      ∀ spec, specOfAnalysis analysis r now = .ok spec → spec.DrawnFrom analysis r now) ∧
    ∀ (ask : Caller) (temperature : Binary64) (s : Session), ∃ prompt,
      r.analysisPrompt = .ok prompt ∧
      ((∀ reply, (analysisAnswer ask prompt temperature s).1 = .ok reply → reply.Distinct) →
        (Unusable r (analysisAnswer ask prompt temperature s).1 →
          analyze r ask temperature now s =
            (r.basicSpec now, (analysisAnswer ask prompt temperature s).2)) ∧
        (¬Unusable r (analysisAnswer ask prompt temperature s).1 →
          ∃ reply analysis spec, (analysisAnswer ask prompt temperature s).1 = .ok reply ∧
            analysisOf reply = .ok analysis ∧ specOfAnalysis analysis r now = .ok spec ∧
            analyze r ask temperature now s =
              (.ok spec, (analysisAnswer ask prompt temperature s).2))) := by
  constructor
  · intro analysis distinct
    have stopped (unlisted : AgendaUnlisted analysis r) :=
      specOfAnalysis_of_unlisted now distinct unlisted
    have listed {spec : PromptSpec} (made : specOfAnalysis analysis r now = .ok spec) :
        ¬AgendaUnlisted analysis r := by
      intro unlisted
      obtain ⟨message, refused⟩ := stopped unlisted
      rw [refused] at made
      cases made
    refine ⟨⟨fun ⟨spec, made⟩ => listed made, fun fits => ?_⟩, stopped, ?_⟩
    · obtain ⟨spec, made, -⟩ := specOfAnalysis_of_listed now distinct fits
      exact ⟨spec, made⟩
    · intro spec made
      obtain ⟨again, same, drawn⟩ := specOfAnalysis_of_listed now distinct (listed made)
      obtain rfl : again = spec := Except.ok.inj (same.symm.trans made)
      exact drawn
  · intro ask temperature s
    obtain ⟨prompt, written⟩ := analysisPrompt_ok r
    refine ⟨prompt, written, fun distinct => ⟨fun unusable => ?_, fun usable => ?_⟩⟩
    · rw [analyze_apply written, specOfAnswer_of_unusable distinct unusable]
    · simp only [Unusable, not_forall] at usable
      obtain ⟨reply, analysis, answered, read, listed⟩ := usable
      obtain ⟨spec, made, -⟩ := specOfAnalysis_of_listed now
        (distinct_of_analysisOf (distinct reply answered) read) listed
      refine ⟨reply, analysis, spec, answered, read, made, ?_⟩
      rw [analyze_apply written, specOfAnswer_of_spec answered read made]

def deckRequest : Request := { userInput := "a pitch", outputType := .deck }

def mixedAnalysis : Section :=
  [("intent", .str "win"),
    ("audience", .obj [("primary", .str "investors"), ("expertise_level", .int 3)]),
    ("recommended_settings", .obj [("tone", .str "warm"), ("format", .arr [.str "slides"])]),
    ("type_specific_suggestions", .obj [("slide_count", .str "10-12"),
      ("visual_style", .str "bold"), ("include_speaker_notes", .bool false),
      ("aspect_ratio", .str "16:9")])]

theorem specOfAnalysis_mixedAnalysis :
    (Json.obj mixedAnalysis).Distinct ∧
      ∃ spec, specOfAnalysis mixedAnalysis deckRequest newYear = .ok spec ∧
        Entries.get? spec.intent "primary_goal" = some (.str "a pitch") ∧
        Entries.get? spec.audience "primary" = some (.str "investors") ∧
        Entries.get? spec.audience "expertise_level" = some (.str "general") ∧
        Entries.get? spec.inferred "tone" = some (.str "warm") ∧
        Entries.get? spec.inferred "format" = some .null ∧
        Entries.get? spec.typeSpecific "visual_style" = some (.str "bold") ∧
        Entries.get? spec.typeSpecific "include_speaker_notes" = some (.bool false) ∧
        Entries.get? spec.typeSpecific "aspect_ratio" = some (.str "16:9") := by
  have distinct : (Json.obj mixedAnalysis).Distinct := by
    simp [mixedAnalysis, Json.Distinct, Json.FieldsDistinct, Json.ItemsDistinct, Entries.keys]
  have listed : ¬AgendaUnlisted mixedAnalysis deckRequest := by
    intro unlisted
    cases unlisted.doc
  obtain ⟨made, -, drawn⟩ :=
    (specOfAnalysis_ok_iff deckRequest newYear).1 mixedAnalysis distinct
  obtain ⟨spec, ok⟩ := made.mpr listed
  have held := drawn spec ok
  have goal := held.shared .intent (textField "primary_goal") (.head _)
  have primary := held.shared .audience (textField "primary") (.head _)
  have expertise := held.shared .audience (textField "expertise_level" "general")
    (.tail _ (.tail _ (.head _)))
  have tone := held.inferred (textOrNullField "tone") (.head _)
  have format := held.inferred (textOrNullField "format") (.tail _ (.head _))
  have visual := held.suggested (textField "visual_style" "minimal")
    (.tail _ (.tail _ (.head _))) (.str "bold") rfl (.inl rfl)
  have notes := held.suggested (flagField "include_speaker_notes" true)
    (.tail _ (.tail _ (.tail _ (.head _)))) (.bool false) rfl (.inr (by decide))
  have ratio := held.undeclared "aspect_ratio" (by decide)
  exact ⟨distinct, spec, ok, goal, primary, expertise, tone, format, visual, notes, ratio⟩

theorem specOfAnalysis_listedCall :
    (Json.obj [("type_specific_suggestions", .obj [("document_type", .str "agenda"),
        ("agenda_type", .arr [.str "call"])])]).Distinct ∧
      specOfAnalysis [("type_specific_suggestions", .obj [("document_type", .str "agenda"),
          ("agenda_type", .arr [.str "call"])])] talkRequest newYear =
        .error (.wrongType "unhashable type: 'list'") := by
  refine ⟨?_, rfl⟩
  simp [Json.Distinct, Json.FieldsDistinct, Json.ItemsDistinct, Entries.keys]

end Analyses

end PromptStudio
