import Mathlib.Data.List.Forall2
import PromptStudio.Plan.Plan
import PromptStudio.Proofs.Entries
import PromptStudio.Proofs.Inference.Certainty

set_option autoImplicit false

namespace PromptStudio

theorem mapM_forall₂ {α β : Type} {R : α → β → Prop} {f : α → Outcome β}
    (each : ∀ a, ∃ b, f a = .ok b ∧ R a b) (as : List α) :
    ∃ bs, as.mapM f = .ok bs ∧ List.Forall₂ R as bs := by
  induction as with
  | nil => exact ⟨[], rfl, .nil⟩
  | cons a rest ih =>
    obtain ⟨b, first, related⟩ := each a
    obtain ⟨bs, later, others⟩ := ih
    exact ⟨b :: bs, by rw [List.mapM_cons, first, later]; rfl, .cons related others⟩

def NoteLine (name line : String) : Prop :=
  ∃ share, line = "  - " ++ name ++ ": auto-detected" ++ share ∧
    (share = "" ∨ ∃ percent : Int, share = " (" ++ intText percent ++ "% confidence)")

def noteHeading : String := "[AUTO-DETECTED SETTINGS - override these by making UI selections]"

def noteText (lines : List String) : String :=
  noteHeading ++ "\n" ++ String.intercalate "\n" lines

/-- The prompt ends with a note on the settings, one a line; without settings there is no note. -/
structure Noted (names : List String) (bare prompt : String) : Prop where
  silent : names = [] → prompt = bare
  listed : names ≠ [] → ∃ lines, List.Forall₂ NoteLine names lines ∧
    prompt = (if bare = "" then "" else bare ++ "\n\n") ++ noteText lines

theorem withNote_noteText (bare : String) (lines : List String) :
    withNote bare ("\n" ++ noteText lines) =
      (if bare = "" then "" else bare ++ "\n\n") ++ noteText lines := by
  have filled : ("\n" ++ noteText lines == "") = false := by simp
  rw [withNote, filled, if_neg Bool.false_ne_true]
  by_cases empty : bare = ""
  next =>
    obtain ⟨rest, heading⟩ : ∃ rest, noteHeading.toList = '[' :: rest := ⟨_, rfl⟩
    rw [empty, if_pos (beq_self_eq_true ""), if_pos rfl, String.empty_append,
      ← String.toList_inj, String.toList_ofList]
    simp [noteText, heading]
  next =>
    rw [if_neg (by simpa using empty), if_neg empty, ← String.toList_inj]
    simp

namespace InferenceSummary

variable {s : InferenceSummary}

def detected (s : InferenceSummary) : List String :=
  Entries.keys (s.noted.filter fun entry => entry.2 = .inferred)

def Certain (s : InferenceSummary) : Prop :=
  ∀ key x, Entries.get? s.confidence key = some x → x.Share ∨ x = .finite 0

theorem Certain.reportLine (certain : s.Certain) (key : String) :
    ∃ line, reportLine (s.confidence.map fun entry => (entry.1, .float entry.2)) key = .ok line ∧
      NoteLine key line := by
  have share : ∃ text,
      certainty (s.confidence.map fun entry => (entry.1, .float entry.2)) key = .ok text ∧
        (text = "" ∨ ∃ percent : Int, text = " (" ++ intText percent ++ "% confidence)") := by
    unfold certainty
    rw [Entries.get?_mapValues]
    cases found : Entries.get? s.confidence key with
    | none => exact ⟨"", rfl, .inl rfl⟩
    | some x =>
      rcases certain key x found with share | rfl
      · obtain ⟨n, percent⟩ := percentOf_ok share
        simp only [Option.map_some, percent]
        split
        next => exact ⟨_, rfl, .inr ⟨n, rfl⟩⟩
        next => exact ⟨_, rfl, .inl rfl⟩
      · exact ⟨"", rfl, .inl rfl⟩
  obtain ⟨text, known, shape⟩ := share
  exact ⟨_, by rw [PromptStudio.reportLine, known]; rfl, text, rfl, shape⟩

theorem detected_eq (s : InferenceSummary) :
    ((s.noted.map fun entry => (entry.1, Json.str entry.2.name)).filter
      fun entry => entry.2.asText? == some Source.inferred.name).map (·.1) = s.detected := by
  have inferred (source : Source) :
      ((Json.str source.name).asText? == some Source.inferred.name) =
        decide (source = .inferred) := by
    cases source <;> decide
  simp [List.filter_map, Function.comp_def, inferred, detected, Entries.keys]

theorem Certain.note_eq (certain : s.Certain) : ∃ lines, List.Forall₂ NoteLine s.detected lines ∧
    s.note = .ok (if s.detected = [] then "" else "\n" ++ noteText lines) := by
  have confidence : (confidenceJson s.confidence).entriesFor "get" =
      .ok (s.confidence.map fun entry => (entry.1, .float entry.2)) := by
    cases held : s.confidence <;> rfl
  rw [← detected_eq]
  generalize inferred : (s.noted.map fun entry => (entry.1, Json.str entry.2.name)).filter
    (fun entry => entry.2.asText? == some Source.inferred.name) = entries
  obtain ⟨lines, written, each⟩ := mapM_forall₂ (fun entry => certain.reportLine entry.1) entries
  refine ⟨lines, List.forall₂_map_left_iff.mpr each, ?_⟩
  unfold note inferenceReport
  rw [confidence]
  dsimp only [sourcesJson, Json.ownEntries, Bind.bind, Except.bind, Pure.pure, Except.pure]
  rw [inferred, written]
  cases entries with
  | nil => rfl
  | cons entry rest =>
    have heading : "\n[AUTO-DETECTED SETTINGS - override these by making UI selections]\n" =
        "\n" ++ noteHeading ++ "\n" := rfl
    simp only [List.isEmpty_cons, Bool.false_eq_true, if_false, List.map_cons, reduceCtorEq, heading,
      noteText, String.append_assoc]

end InferenceSummary

end PromptStudio
