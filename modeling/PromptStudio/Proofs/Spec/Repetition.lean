import PromptStudio.Proofs.Spec.Switching

set_option autoImplicit false

namespace PromptStudio

namespace PromptSpec

variable {s r loaded : PromptSpec} {fields patch updates : Section}

theorem mergedTag_again (merged : s.mergePatch patch = .ok r) : r.mergedTag patch = r.tag := by
  rw [tag_of_mergePatch merged, mergedTag, mergedTag]
  cases given : scalarFor patch "output_type" with
  | some v => rfl
  | none =>
    have kept := tag_of_mergePatch merged
    rw [mergedTag, given] at kept
    exact kept

def reasonsHeld (s : PromptSpec) : Section :=
  ((Section.value s.inferred "reasoning").asFields?).getD []

theorem reasoningUpdates_of_obj {given : Section}
    (there : Section.value updates "reasoning" = .obj given) :
    s.reasoningUpdates updates =
      Entries.put updates "reasoning" (.obj (Entries.overlay s.reasonsHeld given)) := by
  rw [reasoningUpdates, there]
  rfl

theorem settled_reasoning {e : Section} (accepted : inferredForm.Accepts e) :
    reasoningField.settled e = (Entries.get? e "reasoning").getD (.obj []) := by
  have named : reasoningField.name = "reasoning" := rfl
  rw [Field.settled, named]
  cases found : Entries.get? e "reasoning" with
  | none => rfl
  | some v =>
    obtain ⟨w, read⟩ := Kind.read_ok_of_accepts (accepted reasoningField reasoningField_mem v found)
    obtain rfl := Kind.textMap_read_self read
    have kept : reasoningField.kind.read w = .ok w := read
    simp [kept]

theorem reasonsHeld_of_get? {reasons : Section}
    (found : Entries.get? s.inferred "reasoning" = some (.obj reasons)) :
    s.reasonsHeld = reasons := by
  rw [reasonsHeld, Section.value, found]
  rfl

-- The reasons after a merge: the joined ones, where they are texts, or those that were there.
theorem get?_reasoning_of_fill (names : (Entries.keys updates).Nodup)
    (filled : inferredForm.fill
      (foldSection inferredForm s.inferred (s.reasoningUpdates updates) []) = .ok r.inferred) :
    Entries.get? r.inferred "reasoning" =
      some ((((Entries.get? (s.reasoningUpdates updates) "reasoning").filter
        Kind.textMap.accepts).or (Entries.get? s.inferred "reasoning")).getD (.obj [])) := by
  have accepted := Form.accepts_of_fill filled
  rw [Form.fill_of_accepts inferredForm_wellFormed accepted] at filled
  injection filled with settled
  have after := Form.get?_settled inferredForm_wellFormed
    (foldSection inferredForm s.inferred (s.reasoningUpdates updates) []) reasoningField_mem
  have laid : Entries.get? (foldSection inferredForm s.inferred (s.reasoningUpdates updates) [])
      reasoningField.name = _ :=
    Form.get?_foldSection inferredForm_wellFormed
      ((keys_reasoningUpdates s updates).symm ▸ names) inferredForm.suits_nil.1 reasoningField_mem
      rfl
  rw [settled, settled_reasoning accepted] at after
  exact after.trans (congrArg (fun found => some (found.getD (.obj []))) laid)

theorem reasonsHeld_of_fill {given : Section} (names : (Entries.keys updates).Nodup)
    (there : Section.value updates "reasoning" = .obj given)
    (filled : inferredForm.fill
      (foldSection inferredForm s.inferred (s.reasoningUpdates updates) []) = .ok r.inferred) :
    r.reasonsHeld = Entries.overlay s.reasonsHeld given ∨ r.reasonsHeld = s.reasonsHeld := by
  have after := get?_reasoning_of_fill names filled
  rw [reasoningUpdates_of_obj there, Entries.get?_put, if_pos rfl, Option.filter_some] at after
  cases joined : Kind.textMap.accepts (.obj (Entries.overlay s.reasonsHeld given)) with
  | true =>
    rw [if_pos joined, Option.some_or, Option.getD_some] at after
    exact .inl (reasonsHeld_of_get? after)
  | false =>
    rw [if_neg (by simp [joined]), Option.none_or] at after
    right
    cases old : Entries.get? s.inferred "reasoning" with
    | none =>
      rw [old] at after
      rw [reasonsHeld_of_get? after, reasonsHeld, Section.value, old]
      rfl
    | some v =>
      rw [old, Option.getD_some] at after
      rw [reasonsHeld, reasonsHeld, Section.value, Section.value, after, old]

theorem reasoningUpdates_again (names : (Entries.keys updates).Nodup)
    (filled : inferredForm.fill
      (foldSection inferredForm s.inferred (s.reasoningUpdates updates) []) = .ok r.inferred) :
    r.reasoningUpdates updates = s.reasoningUpdates updates := by
  cases there : Section.value updates "reasoning" with
  | obj given =>
    rw [reasoningUpdates_of_obj there, reasoningUpdates_of_obj there]
    rcases reasonsHeld_of_fill names there filled with joined | kept
    · rw [joined, Entries.overlay_overlay]
    · rw [kept]
  | _ => simp [reasoningUpdates, there]

theorem mergedShared_again {name : SectionName}
    (names : ∀ part ∈ updatesFor patch name.key, (Entries.keys part).Nodup)
    (filled : name.form.fill (s.mergedShared patch name) = .ok (r.shared name)) :
    name.form.fill (r.mergedShared patch name) = .ok (r.shared name) := by
  rw [mergedShared] at filled ⊢
  cases part : updatesFor patch name.key with
  | none => exact Form.holds_of_fill name.form_wellFormed filled
  | some updates =>
    rw [part] at filled
    exact Form.fill_refolded name.form_wellFormed (names updates part) name.form.suits_nil
      (by simp [Form.others]) filled

theorem mergedInferred_again
    (names : ∀ part ∈ updatesFor patch "inferred", (Entries.keys part).Nodup)
    (filled : inferredForm.fill (s.mergedInferred patch) = .ok r.inferred) :
    inferredForm.fill (r.mergedInferred patch) = .ok r.inferred := by
  rw [mergedInferred] at filled ⊢
  cases part : updatesFor patch "inferred" with
  | none => exact Form.holds_of_fill inferredForm_wellFormed filled
  | some updates =>
    rw [part] at filled
    have names := names updates part
    dsimp only
    rw [reasoningUpdates_again names filled]
    have joined := (keys_reasoningUpdates s updates).symm ▸ names
    exact Form.fill_refolded inferredForm_wellFormed joined inferredForm.suits_nil
      (by simp [Form.others]) filled

theorem mergedTypeSpecific_again
    (names : ∀ part ∈ updatesFor patch "type_specific", (Entries.keys part).Nodup)
    (merged : s.mergePatch patch = .ok r) :
    bindType (r.mergedTag patch) (.obj (r.mergedTypeSpecific patch)) = .ok r.typeSpecific := by
  have filled := filled_of_mergePatch merged
  have bound := (parts_of_mergePatch merged).1
  have tag := mergedTag_again merged
  have typed : r.tag = Json.ofOption .str r.outputType := rfl
  rw [← tag_of_mergePatch merged, bindType_obj typed] at bound
  rw [tag, bindType_obj typed]
  rw [mergedTypeSpecific] at bound ⊢
  cases part : updatesFor patch "type_specific" with
  | none =>
    rw [Entries.put_of_get? _ _ _ filled.tagged]
    exact filled.typeSpecific
  | some updates =>
    rw [part, ← tag_of_mergePatch merged] at bound
    rw [tag]
    exact Form.fill_refolded (typeForm_wellFormed r.tag) (names updates part) r.tag_suits
      (by simp [Form.others, typeForm_declares_tag]) bound

theorem scalar_again {α : Type} {read : Reader α} {given : Option Json} {old new : α}
    (first : given.elim (.ok old) read = .ok new) : given.elim (.ok new) read = .ok new := by
  cases given with
  | none => rfl
  | some v => exact first

def PartsNamed (patch : Section) : Prop :=
  ∀ key, ∀ part ∈ updatesFor patch key, (Entries.keys part).Nodup

theorem mergePatch_again (names : PartsNamed patch) (merged : s.mergePatch patch = .ok r) :
    r.mergePatch patch = .ok r := by
  obtain ⟨-, read⟩ := parts_of_mergePatch merged
  apply mergePatch_of_parts (mergedTypeSpecific_again (names "type_specific") merged)
  constructor
  case version =>
    rw [mergedParts_version]
    exact Checked.under_eq_ok_iff.mpr (scalar_again (version_of_mergePatch merged))
  case outputType =>
    rw [mergedParts, mergedTag_again merged]
    exact Checked.under_eq_ok_iff.mpr (versionReader_eq_ok_iff.mpr rfl)
  case generatedAt =>
    rw [mergedParts_generatedAt]
    exact Checked.under_eq_ok_iff.mpr (scalar_again (generatedAt_of_mergePatch merged))
  case shared =>
    intro name
    have filled := Checked.under_eq_ok_iff.mp (read.shared name)
    exact Checked.under_eq_ok_iff.mpr (mergedShared_again (names name.key) filled)
  case typeSpecific => rfl
  case inferred =>
    have filled := Checked.under_eq_ok_iff.mp read.inferred
    exact Checked.under_eq_ok_iff.mpr (mergedInferred_again (names "inferred") filled)

end PromptSpec

theorem Form.readGiven_names {f : Form} (wellFormed : f.WellFormed) {v : Json} {given : Section}
    (distinct : v.Distinct) (ok : f.readGiven v = .ok given) : (Entries.keys given).Nodup := by
  cases v with
  | obj fields => exact Form.given_names wellFormed distinct.names ok
  | _ => simp [Form.readGiven, Reader.record, Checked.wrong] at ok

theorem get?_of_mapM {α β : Type} {check : String × α → Outcome (String × β)}
    (named : ∀ entry found, check entry = .ok found → found.1 = entry.1) {patch : Entries α}
    {checked : Entries β} (ok : patch.mapM check = .ok checked) (key : String) :
    (Entries.get? patch key = none ∧ Entries.get? checked key = none) ∨
      ∃ v w, Entries.get? patch key = some v ∧ Entries.get? checked key = some w ∧
        check (key, v) = .ok (key, w) := by
  induction patch generalizing checked with
  | nil =>
    cases ok
    exact .inl ⟨rfl, rfl⟩
  | cons entry rest ih =>
    rw [List.mapM_cons] at ok
    obtain ⟨first, found, ok⟩ := Outcome.bind_eq_ok.mp ok
    obtain ⟨later, rested, same⟩ := Outcome.bind_eq_ok.mp ok
    cases same
    obtain ⟨k, v⟩ := entry
    obtain ⟨k', w⟩ := first
    obtain rfl : k' = k := named _ _ found
    rw [Entries.get?_cons, Entries.get?_cons]
    by_cases here : key = k'
    next =>
      subst here
      exact .inr ⟨v, w, by simp, by simp, found⟩
    next =>
      rw [if_neg here, if_neg here]
      exact ih rested

namespace PromptSpec

variable {s r : PromptSpec} {fields patch : Section}

def checkedEntry (s : PromptSpec) (patch : Section) (entry : String × Json) :
    Outcome (String × Json) :=
  match s.partForm? patch entry.1 with
  | some form => (form.readGiven entry.2).toOutcome.map fun given => (entry.1, Json.obj given)
  | none => .ok entry

theorem mergeForms_eq_ok_iff {updates : Json} :
    s.mergeForms updates = .ok r ↔ ∃ patch checked, normalizeUpdates updates = .ok patch ∧
      patch.mapM (s.checkedEntry patch) = .ok checked ∧ s.mergePatch checked = .ok r := by
  change (normalizeUpdates updates >>= fun patch => patch.mapM (s.checkedEntry patch) >>=
    fun checked => (s.mergePatch checked).toOutcome) = .ok r ↔ _
  simp only [Outcome.bind_eq_ok, Checked.toOutcome_eq_ok_iff]
  constructor
  · rintro ⟨patch, normalized, checked, found, merged⟩
    exact ⟨patch, checked, normalized, found, merged⟩
  · rintro ⟨patch, checked, normalized, found, merged⟩
    exact ⟨patch, normalized, checked, found, merged⟩

theorem checkedEntry_named (s : PromptSpec) (patch : Section) (entry found : String × Json)
    (ok : s.checkedEntry patch entry = .ok found) : found.1 = entry.1 := by
  unfold checkedEntry at ok
  split at ok
  next form _ =>
    cases read : form.readGiven entry.2 <;> simp [read, Checked.toOutcome, Except.map] at ok
    rw [← ok]
  next =>
    cases ok
    rfl

theorem partForm?_wellFormed {key : String} {form : Form}
    (found : s.partForm? patch key = some form) : form.WellFormed := by
  unfold partForm? at found
  split at found
  next =>
    cases found
    exact typeForm_wellFormed _
  next =>
    cases found
    exact inferredForm_wellFormed
  next =>
    obtain ⟨name, -, rfl⟩ := Option.map_eq_some_iff.mp found
    exact name.form_wellFormed

theorem checkedEntry_names {key : String} {v : Json} {part : Section} (distinct : v.Distinct)
    (ok : s.checkedEntry patch (key, v) = .ok (key, .obj part)) : (Entries.keys part).Nodup := by
  unfold checkedEntry at ok
  split at ok
  next form chosen =>
    cases read : form.readGiven v with
    | ok given =>
      simp only [read, Checked.toOutcome, Except.map, Except.ok.injEq, Prod.mk.injEq,
        Json.obj.injEq, true_and] at ok
      exact ok ▸ Form.readGiven_names (partForm?_wellFormed chosen) distinct read
    | _ => simp [read, Checked.toOutcome, Except.map] at ok
  next =>
    cases ok
    exact distinct.names

theorem checkedEntry_tag (s : PromptSpec) (patch : Section) (v : Json) :
    s.checkedEntry patch ("output_type", v) = .ok ("output_type", v) := rfl

theorem checkedEntry_congr {s r : PromptSpec} (same : r.mergedTag patch = s.mergedTag patch) :
    r.checkedEntry patch = s.checkedEntry patch := by
  funext entry
  have forms : r.partForm? patch entry.1 = s.partForm? patch entry.1 := by
    unfold partForm?
    rw [same]
  rw [checkedEntry, checkedEntry, forms]

theorem distinct_of_normalize {updates : Json} (distinct : updates.Distinct)
    (normalized : normalizeUpdates updates = .ok patch) {key : String} {v : Json}
    (found : Entries.get? patch key = some v) : v.Distinct := by
  cases updates with
  | obj u =>
    rw [normalizeUpdates_patchOf] at normalized
    cases normalized
    rcases Entries.mem_of_get?_overlay found with nothing | inside
    · simp at nothing
    · obtain ⟨⟨k, w⟩, member, same⟩ := List.mem_map.mp inside
      cases same
      exact distinct.value member
  | _ =>
    unfold normalizeUpdates Json.entriesFor at normalized
    split at normalized
    next => cases normalized
    next =>
      cases normalized
      cases found

theorem mergeForms_again {updates : Json} (distinct : updates.Distinct)
    (merged : s.mergeForms updates = .ok r) : r.mergeForms updates = .ok r := by
  obtain ⟨patch, checked, normalized, found, merged⟩ := mergeForms_eq_ok_iff.mp merged
  have entries := get?_of_mapM (s.checkedEntry_named patch) found
  have names : PartsNamed checked := by
    intro key part inside
    rcases entries key with ⟨-, absent⟩ | ⟨v, w, given, there, kept⟩
    · rw [filledPart_eq_some inside] at absent
      cases absent
    · rw [filledPart_eq_some inside] at there
      cases there
      exact checkedEntry_names (distinct_of_normalize distinct normalized given) kept
  have scalar : scalarFor checked "output_type" = scalarFor patch "output_type" := by
    rcases entries "output_type" with ⟨absent, gone⟩ | ⟨v, w, given, there, kept⟩
    · rw [scalarFor, scalarFor, absent, gone]
    · rw [checkedEntry_tag] at kept
      cases kept
      rw [scalarFor, scalarFor, given, there]
  have tag : r.mergedTag patch = s.mergedTag patch := by
    have again := (mergedTag_again merged).trans (tag_of_mergePatch merged)
    rw [mergedTag, mergedTag, scalar] at again
    exact again
  apply mergeForms_eq_ok_iff.mpr
  refine ⟨patch, checked, normalized, ?_, mergePatch_again names merged⟩
  rw [checkedEntry_congr tag]
  exact found

theorem spread_names {given : Section} (distinct : (Json.obj fields).Distinct)
    (spreads : spread (rawTypeSpecific fields) = .ok given) : (Entries.keys given).Nodup := by
  have inside {v : Json} (found : (Entries.get? fields "type_specific").or
      (Entries.get? fields "typeSpecific") = some v) : v.Distinct := by
    rcases Option.or_eq_some_iff.mp found with own | ⟨-, other⟩
    · exact distinct.value (Entries.mem_of_get? own)
    · exact distinct.value (Entries.mem_of_get? other)
  unfold rawTypeSpecific at spreads
  cases found : (Entries.get? fields "type_specific").or (Entries.get? fields "typeSpecific") with
  | none =>
    rw [found] at spreads
    cases spreads
    exact .nil
  | some v =>
    rw [found, Option.getD_some] at spreads
    unfold spread at spreads
    split at spreads
    next own =>
      cases spreads
      exact (inside found).names
    next =>
      split at spreads
      next => cases spreads
      next =>
        cases spreads
        exact .nil

theorem givenPatch_names (distinct : (Json.obj fields).Distinct) (loaded : PromptSpec) :
    PartsNamed (givenPatch fields loaded) := by
  intro key part inside
  have member := Entries.mem_of_get? (filledPart_eq_some inside)
  have named {name : String} {form : Form} (wellFormed : form.WellFormed) {given : Section}
      (read : (Entries.get? fields name).map form.readGiven = some (.ok given)) :
      (Entries.keys given).Nodup := by
    obtain ⟨v, found, ok⟩ := Option.map_eq_some_iff.mp read
    exact Form.readGiven_names wellFormed (distinct.value (Entries.mem_of_get? found)) ok
  have text {α : Type} (write : α → String) {given : Bool} {name : String} {value : Option α} :
      (key, Json.obj part) ∉
        if given then [(name, Json.ofOption (fun a => .str (write a)) value)] else [] := by
    cases given <;> cases value <;> simp [Json.ofOption]
  unfold givenPatch at member
  simp only [List.mem_append, List.mem_flatMap] at member
  rcases member with ((((version | outputType) | moment) | ⟨name, -, shared⟩) | own) | inferred
  · exact absurd version (text id)
  · exact absurd outputType (text id)
  · exact absurd moment (text Moment.iso)
  · split at shared
    next given read =>
      cases List.mem_singleton.mp shared
      exact named name.form_wellFormed read
    next => cases shared
  · split at own
    next given spreads =>
      split at own
      next taken ok =>
        cases List.mem_singleton.mp own
        exact Form.given_names (typeForm_wellFormed _)
          (Entries.nodup_keys_put (spread_names distinct spreads) "output_type" _) ok
      next => cases own
    next => cases own
  · split at inferred
    next given read =>
      cases List.mem_singleton.mp inferred
      exact named inferredForm_wellFormed read
    next => cases inferred

theorem mergeLoaded_again {other : Json} (distinct : other.Distinct)
    (merged : s.mergeLoaded other = .ok r) : r.mergeLoaded other = .ok r := by
  obtain ⟨loaded, read, merged⟩ := Outcome.bind_eq_ok.mp merged
  apply Outcome.bind_eq_ok.mpr
  refine ⟨loaded, read, ?_⟩
  cases other with
  | obj fields =>
    have merged := Checked.toOutcome_eq_ok_iff.mp merged
    have names := givenPatch_names distinct loaded
    exact Checked.toOutcome_eq_ok_iff.mpr (mergePatch_again names merged)
  | _ => cases read

theorem merge_again {u : Json} (distinct : u.Distinct) (merged : s.merge u = .ok r) :
    r.merge u = .ok r := by
  obtain ⟨patch, normalized, merged⟩ := Outcome.bind_eq_ok.mp merged
  have names : PartsNamed patch := fun _ _ inside =>
    (distinct_of_normalize distinct normalized (filledPart_eq_some inside)).names
  rw [merge_of_normalized normalized]
  exact Checked.toOutcome_eq_ok_iff.mpr
    (mergePatch_again names (Checked.toOutcome_eq_ok_iff.mp merged))

theorem merge_repeated (s r : PromptSpec) (u : Json) (distinct : u.Distinct) :
    (s.merge u = .ok r → r.merge u = .ok r) ∧
      (s.mergeForms u = .ok r → r.mergeForms u = .ok r) ∧
      (s.mergeLoaded u = .ok r → r.mergeLoaded u = .ok r) :=
  ⟨merge_again distinct, mergeForms_again distinct, mergeLoaded_again distinct⟩

def wideDeck : Section :=
  [("outputType", .str "deck"),
    ("typeSpecific", .obj [("slide_count", .str "12"), ("deck_type", .int 5),
      ("margin", .str "wide")]),
    ("inferred", .obj [("tone", .int 5), ("reasoning", .obj [("tone", .str "peers")])])]

def shortDeck : Section :=
  [("output_type", .str "deck"), ("type_specific", .obj [("slide_count", .str "12")])]

theorem merge_repeated_decks :
    (Json.obj wideDeck).Distinct ∧ (Json.obj shortDeck).Distinct ∧
    (∃ r, wordySlides.merge (.obj wideDeck) = .ok r ∧ r.variant? = some .deck ∧
      Entries.get? r.typeSpecific "deck_type" = some (.str "internal") ∧
      Entries.get? r.inferred "reasoning" = some (.obj [("tone", .str "peers")]) ∧
      r.merge (.obj wideDeck) = .ok r) ∧
    (∃ r, wordySlides.mergeForms (.obj shortDeck) = .ok r ∧
      r.mergeForms (.obj shortDeck) = .ok r) ∧
    ∃ r, wordySlides.mergeLoaded (.obj shortDeck) = .ok r ∧
      r.mergeLoaded (.obj shortDeck) = .ok r := by
  have wide : (Json.obj wideDeck).Distinct := by
    simp [wideDeck, Json.Distinct, Json.FieldsDistinct, Entries.keys]
  have short : (Json.obj shortDeck).Distinct := by
    simp [shortDeck, Json.Distinct, Json.FieldsDistinct, Entries.keys]
  refine ⟨wide, short, ⟨_, rfl, rfl, rfl, rfl, ?_⟩, ⟨_, rfl, ?_⟩, ⟨_, rfl, ?_⟩⟩
  · exact (merge_repeated wordySlides _ (.obj wideDeck) wide).1 rfl
  · exact (merge_repeated wordySlides _ (.obj shortDeck) short).2.1 rfl
  · exact (merge_repeated wordySlides _ (.obj shortDeck) short).2.2 rfl

end PromptSpec

end PromptStudio
