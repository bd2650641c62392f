import PromptStudio.Proofs.Spec.Loading
import PromptStudio.Proofs.Spec.Merge

set_option autoImplicit false

namespace PromptStudio

/-- The fields of an update under their kept spelling; of two spellings the later one counts. -/
def patchOf (u : Section) : Section :=
  Entries.ofPairs (u.map fun entry => (respell entry.1, entry.2))

theorem normalizeUpdates_patchOf (u : Section) : normalizeUpdates (.obj u) = .ok (patchOf u) := by
  cases u <;> rfl

theorem updatesFor_patchOf_names {u : Section} (distinct : (Json.obj u).Distinct) (key : String) :
    ∀ part ∈ updatesFor (patchOf u) key, (Entries.keys part).Nodup := by
  intro part found
  have found : filledPart (Entries.get? (patchOf u) key) = some part := found
  rcases Entries.mem_of_get?_overlay (filledPart_eq_some found) with nothing | inside
  · simp at nothing
  · obtain ⟨⟨k, v⟩, member, same⟩ := List.mem_map.mp inside
    simp only [Prod.mk.injEq] at same
    obtain ⟨-, rfl⟩ := same
    exact (distinct.value member).names

namespace Field

theorem readIn_eq_none_iff (field : Field) {e : Section} :
    field.readIn e = none ↔ (Entries.get? e field.name).filter field.kind.accepts = none := by
  cases found : Entries.get? e field.name with
  | none => simp [readIn, found]
  | some v =>
    cases read : (field.kind.read v).toOption <;>
      simp [readIn, found, Option.filter, Kind.accepts, read]

theorem settled_eq_readIn (field : Field) (e : Section) :
    field.settled e = (field.readIn e).getD field.default := by
  cases found : Entries.get? e field.name <;> simp [settled, readIn, found]

theorem readIn_of_laid (field : Field) {laid current updates : Section}
    (found : Entries.get? laid field.name =
      ((Entries.get? updates field.name).filter field.kind.accepts).or
        (Entries.get? current field.name)) :
    field.readIn laid = (field.readIn updates).or (field.readIn current) := by
  rw [readIn, found, readIn, readIn]
  cases Entries.get? updates field.name with
  | none => simp
  | some v =>
    cases read : (field.kind.read v).toOption <;>
      simp [Option.filter, Kind.accepts, read]

/-- What becomes of a field whose part passes to another form. -/
def carried (field : Field) (current updates : Section) : Json :=
  ((field.readIn updates).or (field.readIn current)).getD field.default

end Field

namespace PromptSpec

inductive Reachable : PromptSpec → Prop where
  | create {outputType : Option String} {s : PromptSpec} (created : create outputType = .ok s) :
      Reachable s
  | merge {s r : PromptSpec} {updates : Json} (before : Reachable s)
      (merged : s.merge updates = .ok r) : Reachable r

variable {s r : PromptSpec} {u patch : Section}

theorem Reachable.filled (reachable : s.Reachable) : s.Filled := by
  induction reachable with
  | @create outputType s created =>
    unfold PromptSpec.create at created
    split at created
    next t _ =>
      injection created with same
      exact same ▸ filled_ofType (some t.name)
    next => simp at created
  | merge _ merged _ =>
    obtain ⟨patch, merged⟩ := mergePatch_of_merge merged
    exact filled_of_mergePatch merged

def ownUpdates (patch : Section) : Section := (updatesFor patch "type_specific").getD []

/-- What the old part leaves to the form of the new type fits it. -/
def Refits (s : PromptSpec) (patch : Section) : Prop :=
  ∀ field ∈ (typeForm (s.mergedTag patch)).fields, field.name ≠ "output_type" →
    field.readIn (ownUpdates patch) = none →
      ∀ v, Entries.get? s.typeSpecific field.name = some v → field.kind.accepts v = true

theorem get?_boundPart (names : ∀ part ∈ updatesFor patch "type_specific", (Entries.keys part).Nodup)
    {field : Field} (inside : field ∈ (typeForm (s.mergedTag patch)).fields)
    (own : field.name ≠ "output_type") :
    Entries.get? (s.boundPart patch) field.name =
      ((Entries.get? (ownUpdates patch) field.name).filter field.kind.accepts).or
        (Entries.get? s.typeSpecific field.name) := by
  rw [boundPart, Entries.get?_put, if_neg own, mergedTypeSpecific, ownUpdates]
  cases part : updatesFor patch "type_specific" with
  | none => simp
  | some updates =>
    exact Form.get?_foldSection (typeForm_wellFormed _) (names updates part)
      (by simp [Entries.keys]) inside (by simp [Entries.get?_cons, own])

theorem get?_boundPart_undeclared
    (names : ∀ part ∈ updatesFor patch "type_specific", (Entries.keys part).Nodup) {key : String}
    (undeclared : (typeForm (s.mergedTag patch)).declares key = false) :
    Entries.get? (s.boundPart patch) key =
      (Entries.get? (ownUpdates patch) key).or (Entries.get? s.typeSpecific key) := by
  have other : key ≠ "output_type" := by
    rintro rfl
    simp [typeForm_declares_tag] at undeclared
  rw [boundPart, Entries.get?_put, if_neg other, mergedTypeSpecific, ownUpdates]
  cases part : updatesFor patch "type_specific" with
  | none => simp
  | some updates => exact Form.get?_foldSection_undeclared (names updates part) key undeclared

-- Only an old value that no accepted one replaces can be refused: the tag suits its form.
theorem accepts_boundPart_iff (plain : Plain patch)
    (names : ∀ part ∈ updatesFor patch "type_specific", (Entries.keys part).Nodup) :
    (typeForm (s.mergedTag patch)).Accepts (s.boundPart patch) ↔ s.Refits patch := by
  constructor
  · intro accepted field inside own unread v found
    apply accepted field inside v
    rw [get?_boundPart names inside own, field.readIn_eq_none_iff.mp unread, Option.none_or, found]
  · intro refits field inside v found
    by_cases own : field.name = "output_type"
    next =>
      obtain ⟨outputType, typed⟩ := plain.typed s
      obtain rfl : s.mergedTag patch = v := by simpa [boundPart, own, Entries.get?_put] using found
      rw [typed] at inside ⊢
      simp [Kind.accepts, typeForm_reads_tag outputType inside own]
    next =>
      rw [get?_boundPart names inside own, Option.or_eq_some_iff] at found
      rcases found with given | ⟨unread, old⟩
      · exact (Option.filter_eq_some_iff.mp given).2
      · exact refits field inside own (field.readIn_eq_none_iff.mpr unread) v old

/-- Field by field, what `r` is when the update of `s` is merged, whichever type it gives. -/
structure SwitchedInto (s : PromptSpec) (patch : Section) (r : PromptSpec) : Prop where
  outputType : r.tag = s.mergedTag patch
  tagged : r.Tagged
  shared : ∀ name : SectionName, ∀ field ∈ name.form.fields,
    Entries.get? (r.shared name) field.name =
      field.updated (s.shared name) ((updatesFor patch name.key).getD [])
  typeSpecific : ∀ field ∈ (typeForm r.tag).fields, field.name ≠ "output_type" →
    Entries.get? r.typeSpecific field.name =
      some (field.carried s.typeSpecific (ownUpdates patch))
  undeclared : ∀ key, (typeForm r.tag).declares key = false →
    Entries.get? r.typeSpecific key =
      (Entries.get? (ownUpdates patch) key).or (Entries.get? s.typeSpecific key)
  inferred : ∀ field ∈ inferredForm.fields,
    Entries.get? r.inferred field.name =
      field.updated s.inferred (s.reasoningUpdates ((updatesFor patch "inferred").getD []))

theorem settled_boundPart_of_mergePatch (plain : Plain patch)
    (merged : s.mergePatch patch = .ok r) :
    r.typeSpecific = (typeForm r.tag).settled (s.boundPart patch) := by
  obtain ⟨outputType, typed⟩ := plain.typed s
  have bound := (parts_of_mergePatch merged).1
  rw [bindType_obj typed] at bound
  rw [Form.fill_of_accepts (typeForm_wellFormed _) (Form.accepts_of_fill bound)] at bound
  injection bound with settled
  rw [tag_of_mergePatch merged]
  exact settled.symm

theorem switchedInto_of_mergePatch (filled : s.Filled) (plain : Plain patch)
    (names : ∀ key, ∀ part ∈ updatesFor patch key, (Entries.keys part).Nodup)
    (merged : s.mergePatch patch = .ok r) : s.SwitchedInto patch r := by
  have tag := tag_of_mergePatch merged
  have settled := settled_boundPart_of_mergePatch plain merged
  constructor
  case outputType => exact tag
  case tagged => exact (filled_of_mergePatch merged).to_tagged
  case shared =>
    intro name field inside
    rw [shared_of_mergePatch filled merged]
    exact filled.get?_shared name (names name.key) inside
  case typeSpecific =>
    intro field inside own
    rw [settled, Form.get?_settled (typeForm_wellFormed _) _ inside, field.settled_eq_readIn,
      field.readIn_of_laid (get?_boundPart (names "type_specific") (tag ▸ inside) own),
      Field.carried]
  case undeclared =>
    intro key unknown
    rw [settled, Form.get?_settled_undeclared _ _ key unknown, if_pos (typeForm_isOpen _),
      get?_boundPart_undeclared (names "type_specific") (tag ▸ unknown)]
  case inferred =>
    intro field inside
    rw [inferred_of_mergePatch filled merged]
    exact filled.get?_inferred (names "inferred") inside

theorem merge_ok_iff_mergePatch :
    s.merge (.obj u) = .ok r ↔ s.mergePatch (patchOf u) = .ok r := by
  rw [merge_of_normalized (normalizeUpdates_patchOf u), Checked.toOutcome_eq_ok_iff]

theorem merge_ok_iff_refits (s : PromptSpec) (reachable : s.Reachable) (u : Section)
    (distinct : (Json.obj u).Distinct) (plain : Plain (patchOf u)) :
    ((∃ r, s.merge (.obj u) = .ok r) ↔ s.Refits (patchOf u)) ∧
      (s.mergedTag (patchOf u) = s.tag → s.Refits (patchOf u)) ∧
      ∀ r, s.merge (.obj u) = .ok r → s.SwitchedInto (patchOf u) r := by
  have filled := reachable.filled
  have names := updatesFor_patchOf_names distinct
  have refits := accepts_boundPart_iff (s := s) plain (names "type_specific")
  simp only [merge_ok_iff_mergePatch]
  refine ⟨?_, ?_, ?_⟩
  · rw [mergePatch_ok_iff filled plain, refits]
  · intro kept
    rw [← refits, ← mergePatch_ok_iff filled plain]
    exact mergePatch_ok_of_kept filled plain kept
  · intro r merged
    exact switchedInto_of_mergePatch filled plain names merged

theorem plain_of_type {name : String} (version : scalarFor patch "version" = none)
    (outputType : scalarFor patch "output_type" = some (.str name))
    (generatedAt : scalarFor patch "generated_at" = none) : Plain patch := by
  constructor <;> intro v found
  case version => simp [version] at found
  case outputType =>
    rw [outputType] at found
    exact ⟨name, (Option.some.inj found).symm⟩
  case generatedAt => simp [generatedAt] at found

def wordySlides : PromptSpec :=
  { ofType (some "doc") with
    typeSpecific := (ofType (some "doc")).typeSpecific ++ [("slide_count", .str "ten")] }

theorem wordySlides_reachable : wordySlides.Reachable := by
  have created : create (some "doc") = .ok (ofType (some "doc")) := rfl
  have merged : (ofType (some "doc")).merge
      (.obj [("type_specific", .obj [("slide_count", .str "ten")])]) = .ok wordySlides := rfl
  exact .merge (.create created) merged

def deckSwitch : Section :=
  [("outputType", .str "deck"),
    ("type_specific", .obj [("slide_count", .str "12"), ("deck_type", .int 5)])]

theorem merge_deckSwitch :
    wordySlides.Reachable ∧ (Json.obj deckSwitch).Distinct ∧ Plain (patchOf deckSwitch) ∧
    ∃ r, wordySlides.merge (.obj deckSwitch) = .ok r ∧ wordySlides.Refits (patchOf deckSwitch) ∧
      r.Tagged ∧ r.variant? = some .deck ∧
      Entries.get? r.typeSpecific "slide_count" = some (.int 12) ∧
      Entries.get? r.typeSpecific "deck_type" = some (.str "internal") ∧
      Entries.get? r.typeSpecific "document_type" = some (.str "report") := by
  have distinct : (Json.obj deckSwitch).Distinct := by
    simp [deckSwitch, Json.Distinct, Json.FieldsDistinct, Entries.keys]
  have plain : Plain (patchOf deckSwitch) := plain_of_type rfl rfl rfl
  obtain ⟨succeeds, -, switched⟩ :=
    merge_ok_iff_refits wordySlides wordySlides_reachable deckSwitch distinct plain
  refine ⟨wordySlides_reachable, distinct, plain, _, rfl, succeeds.mp ⟨_, rfl⟩, ?_⟩
  have into := switched _ rfl
  have kind := into.typeSpecific (textField "deck_type" "internal") (.tail _ (.head _)) (by decide)
  have slides := into.typeSpecific ⟨"slide_count", .orNull .integer, .null⟩
    (.tail _ (.tail _ (.head _))) (by decide)
  exact ⟨into.tagged, rfl, slides, kind, into.undeclared "document_type" (by decide)⟩

theorem merge_wordySlides_refused :
    wordySlides.Reachable ∧ Plain (patchOf [("output_type", .str "deck")]) ∧
      ∀ r, wordySlides.merge (.obj [("output_type", .str "deck")]) ≠ .ok r := by
  refine ⟨wordySlides_reachable, plain_of_type rfl rfl rfl, ?_⟩
  intro r merged
  have refused : wordySlides.merge (.obj [("output_type", .str "deck")]) =
      .error (.invalid [⟨["slide_count"],
        "Input should be a valid integer, unable to parse string as an integer"⟩]) := rfl
  rw [refused] at merged
  exact nomatch merged

end PromptSpec

end PromptStudio
