import PromptStudio.Judge.Verdict
import PromptStudio.Proofs.Reply.Written
import PromptStudio.Proofs.Spec.Verdict

set_option autoImplicit false

namespace PromptStudio

theorem Outcome.bind_of_ok {α β : Type} {x : Outcome α} {a : α} (ok : x = .ok a)
    (f : α → Outcome β) : x >>= f = f a := by
  rw [ok]
  rfl

theorem Outcome.bind_of_error {α β : Type} {x : Outcome α} {e : Failure} (refused : x = .error e)
    (f : α → Outcome β) : x >>= f = .error e := by
  rw [refused]
  rfl

theorem decodeText_error {text : String} {f : Failure} (refused : decodeText text = .error f) :
    f = parseFailure "Failed to parse JSON response" text := by
  unfold decodeText at refused
  split at refused
  · cases refused
  · exact (Except.error.inj refused).symm

namespace Verdict

variable {fields : Section} {v : Json}

def heldScore : Json → Json
  | .obj fields => Section.value fields "score"
  | v => v

def Measured (v : Json) : Prop := ∀ n, heldScore v = .int n → Binary64.ofInt? n ≠ none

def scored (v : Json) : Binary64 :=
  match heldScore v with
  | .int n => clampScore ((Binary64.ofInt? n).getD (.finite 0))
  | .float x => clampScore x
  | .str s => clampScore ((numberOf? s.toList).getD (.finite 0))
  | _ => .finite 0

def scoresFor (given : Section) : Entries Binary64 :=
  judgeDimensions.map fun d => (d, scored (Section.value given d))

def opened (v : Json) : Section := v.asFields?.getD []

def givenScores (fields : Section) : Section := opened (Section.value fields "dimensions")

def scoreValues (fields : Section) : List Json :=
  Section.value fields "composite" :: judgeDimensions.map (Section.value (givenScores fields))

/-- An object from which a verdict can be read. -/
structure Legible (fields : Section) : Prop where
  dimensions : Spreads (Section.value fields "dimensions")
  justifications : Spreads (Section.value fields "justifications")
  scores : ∀ v ∈ scoreValues fields, Measured v

def compositeFor (v : Json) (dimensions : Entries Binary64) : Binary64 :=
  match v with
  | .null => meanScore (dimensions.map (·.2))
  | .bool _ => meanScore (dimensions.map (·.2))
  | v => (scored v).roundPlaces 1

def readFrom (fields : Section) : Verdict :=
  let notes := opened (Section.value fields "justifications")
  { dimensions := scoresFor (givenScores fields)
    justifications := judgeDimensions.map fun d =>
      (d, justificationIn notes (givenScores fields) d)
    composite := compositeFor (Section.value fields "composite") (scoresFor (givenScores fields))
    summary := summaryIn fields }

def oversized : Failure := .tooLarge "int too large to convert to float"

theorem scoreOf_heldScore (v : Json) :
    scoreOf v = scoreNumber? (heldScore v) >>= fun number =>
      .ok (clampScore (number.getD (.finite 0))) := by
  cases v <;> rfl

theorem scoreOf_cases (v : Json) :
    (Measured v ∧ scoreOf v = .ok (scored v)) ∨ (¬Measured v ∧ scoreOf v = .error oversized) := by
  rw [scoreOf_heldScore]
  unfold Measured scored
  cases held : heldScore v with
  | int n =>
    cases small : Binary64.ofInt? n with
    | some x =>
      refine .inl ⟨?_, by simp [scoreNumber?, small, Bind.bind, Except.bind]⟩
      rintro _ ⟨⟩ large
      cases small.symm.trans large
    | none =>
      refine .inr ⟨fun measured => measured n rfl small, ?_⟩
      simp [scoreNumber?, small, Bind.bind, Except.bind, oversized]
  | _ => exact .inl ⟨nofun, rfl⟩

theorem scores_cases (given : Section) (ds : List String) :
    ((∀ d ∈ ds, Measured (Section.value given d)) ∧
        (ds.mapM fun d => do return (d, ← scoreOf (Section.value given d))) =
          .ok (ds.map fun d => (d, scored (Section.value given d)))) ∨
      ((∃ d ∈ ds, ¬Measured (Section.value given d)) ∧
        (ds.mapM fun d => do return (d, ← scoreOf (Section.value given d))) =
          (.error oversized : Outcome (Entries Binary64))) := by
  induction ds with
  | nil => exact .inl ⟨by simp, rfl⟩
  | cons d rest ih =>
    rw [List.mapM_cons]
    rcases scoreOf_cases (Section.value given d) with ⟨first, read⟩ | ⟨large, refused⟩
    · rw [read]
      rcases ih with ⟨later, all⟩ | ⟨⟨other, inside, large⟩, refused⟩
      · refine .inl ⟨List.forall_mem_cons.mpr ⟨first, later⟩, ?_⟩
        rw [all]
        rfl
      · refine .inr ⟨⟨other, .tail _ inside, large⟩, ?_⟩
        rw [refused]
        rfl
    · refine .inr ⟨⟨d, .head _, large⟩, ?_⟩
      rw [refused]
      rfl

theorem scoresIn_cases (given : Section) :
    ((∀ d ∈ judgeDimensions, Measured (Section.value given d)) ∧
        scoresIn given = .ok (scoresFor given)) ∨
      ((∃ d ∈ judgeDimensions, ¬Measured (Section.value given d)) ∧
        scoresIn given = .error oversized) :=
  scores_cases given judgeDimensions

theorem compositeIn_cases (v : Json) (dimensions : Entries Binary64) :
    (Measured v ∧ compositeIn v dimensions = .ok (compositeFor v dimensions)) ∨
      (¬Measured v ∧ compositeIn v dimensions = .error oversized) := by
  have counted (given : compositeIn v dimensions =
        scoreOf v >>= fun score => .ok (score.roundPlaces 1))
      (rounded : compositeFor v dimensions = (scored v).roundPlaces 1) :
      (Measured v ∧ compositeIn v dimensions = .ok (compositeFor v dimensions)) ∨
        (¬Measured v ∧ compositeIn v dimensions = .error oversized) := by
    rw [given, rounded]
    refine (scoreOf_cases v).imp ?_ ?_
    · rintro ⟨measured, read⟩
      exact ⟨measured, by rw [read]; rfl⟩
    · rintro ⟨large, refused⟩
      exact ⟨large, by rw [refused]; rfl⟩
  cases v with
  | null => exact .inl ⟨nofun, rfl⟩
  | bool _ => exact .inl ⟨nofun, rfl⟩
  | _ => exact counted rfl rfl

theorem entriesFor_cases (v : Json) (look : String) :
    (Spreads v ∧ v.entriesFor look = .ok (opened v)) ∨
      (¬Spreads v ∧ v.entriesFor look = .error (v.lacks look)) := by
  unfold Json.entriesFor
  by_cases counts : v.truthy = true
  next =>
    rw [if_pos counts]
    cases v with
    | obj fields => exact .inl ⟨fun _ => ⟨fields, rfl⟩, rfl⟩
    | _ =>
      refine .inr ⟨fun spreads => ?_, rfl⟩
      obtain ⟨_, ⟨⟩⟩ := spreads counts
  next =>
    rw [if_neg counts]
    refine .inl ⟨fun truthy => absurd truthy counts, ?_⟩
    cases v with
    | obj fields =>
      cases fields with
      | nil => rfl
      | cons _ _ => exact absurd rfl counts
    | _ => rfl

/-- Why no verdict can be read: a table is no object, or a score is too large. -/
def Fails (fields : Section) (f : Failure) : Prop :=
  (∃ key ∈ ["dimensions", "justifications"],
    ¬Spreads (Section.value fields key) ∧ f = (Section.value fields key).lacks "get") ∨
  (∃ v ∈ scoreValues fields, ¬Measured v) ∧ f = oversized

theorem ofFields_eq (fields : Section) :
    ofFields fields =
      (Section.value fields "dimensions").entriesFor "get" >>= fun given =>
        scoresIn given >>= fun dimensions =>
          (Section.value fields "justifications").entriesFor "get" >>= fun notes =>
            compositeIn (Section.value fields "composite") dimensions >>= fun composite =>
              .ok {
                dimensions := dimensions
                justifications := judgeDimensions.map fun d => (d, justificationIn notes given d)
                composite := composite
                summary := summaryIn fields } :=
  rfl

theorem ofFields_cases (fields : Section) :
    (Legible fields ∧ ofFields fields = .ok (readFrom fields)) ∨
      (¬Legible fields ∧ ∃ f, ofFields fields = .error f ∧ Fails fields f) := by
  rw [ofFields_eq]
  rcases entriesFor_cases (Section.value fields "dimensions") "get" with
    ⟨dimensions, given⟩ | ⟨solid, refused⟩
  case inr =>
    rw [Outcome.bind_of_error refused]
    exact .inr ⟨fun legible => solid legible.dimensions, _, rfl,
      .inl ⟨"dimensions", .head _, solid, rfl⟩⟩
  have given : (Section.value fields "dimensions").entriesFor "get" = .ok (givenScores fields) :=
    given
  rw [Outcome.bind_of_ok given]
  rcases scoresIn_cases (givenScores fields) with
    ⟨measured, read⟩ | ⟨⟨d, inside, large⟩, refused⟩
  case inr =>
    have among : Section.value (givenScores fields) d ∈ scoreValues fields :=
      .tail _ (List.mem_map_of_mem inside)
    rw [Outcome.bind_of_error refused]
    exact .inr ⟨fun legible => large (legible.scores _ among), _, rfl,
      .inr ⟨⟨_, among, large⟩, rfl⟩⟩
  rw [Outcome.bind_of_ok read]
  rcases entriesFor_cases (Section.value fields "justifications") "get" with
    ⟨justifications, notes⟩ | ⟨solid, refused⟩
  case inr =>
    rw [Outcome.bind_of_error refused]
    exact .inr ⟨fun legible => solid legible.justifications, _, rfl,
      .inl ⟨"justifications", .tail _ (.head _), solid, rfl⟩⟩
  rw [Outcome.bind_of_ok notes]
  rcases compositeIn_cases (Section.value fields "composite")
    (scoresFor (givenScores fields)) with ⟨small, summed⟩ | ⟨large, refused⟩
  case inr =>
    have among : Section.value fields "composite" ∈ scoreValues fields := .head _
    rw [Outcome.bind_of_error refused]
    exact .inr ⟨fun legible => large (legible.scores _ among), _, rfl,
      .inr ⟨⟨_, among, large⟩, rfl⟩⟩
  rw [Outcome.bind_of_ok summed]
  have scores : ∀ v ∈ scoreValues fields, Measured v :=
    List.forall_mem_cons.mpr ⟨small, List.forall_mem_map.mpr measured⟩
  exact .inl ⟨⟨dimensions, justifications, scores⟩, rfl⟩

theorem scored_of_no_number (nothing : scoreNumber? (heldScore v) = .ok none) :
    scored v = .finite 0 := by
  unfold scored
  cases held : heldScore v with
  | int n =>
    rw [held, scoreNumber?] at nothing
    split at nothing <;> cases nothing
  | float x =>
    rw [held] at nothing
    cases nothing
  | str s =>
    rw [held] at nothing
    have unread : numberOf? s.toList = none := Except.ok.inj nothing
    simp only [unread]
    rfl
  | _ => rfl

theorem score_readFrom {d : String} (inside : d ∈ judgeDimensions) :
    (readFrom fields).score d = scored (Section.value (givenScores fields) d) := by
  simp only [judgeDimensions, List.mem_cons, List.not_mem_nil, or_false] at inside
  rcases inside with rfl | rfl | rfl | rfl <;> rfl

theorem ofReply_text (text : String) :
    ofReply (.str text) = decodeText text >>= fun decoded =>
      match decoded with
      | .obj fields => ofFields fields
      | _ => .error (parseFailure "Judge response is not a JSON object" "") :=
  rfl

theorem ofReply_ok_iff (text : String) :
    (∀ fields, decodeText text = .ok (.obj fields) →
      ((∃ v, ofReply (.str text) = .ok v) ↔ Legible fields) ∧
      (Legible fields → ofReply (.str text) = .ok (readFrom fields)) ∧
      (∀ d ∈ judgeDimensions,
        scoreNumber? (heldScore (Section.value (givenScores fields) d)) = .ok none →
          (readFrom fields).score d = .finite 0) ∧
      (¬Legible fields → ∃ f, ofReply (.str text) = .error f ∧ Fails fields f)) ∧
    ((∀ fields, decodeText text ≠ .ok (.obj fields)) →
      ∃ message raw, ofReply (.str text) = .error (parseFailure message raw)) := by
  rw [ofReply_text]
  constructor
  · intro fields decoded
    have unusable (d : String) (inside : d ∈ judgeDimensions)
        (nothing : scoreNumber? (heldScore (Section.value (givenScores fields) d)) = .ok none) :
        (readFrom fields).score d = .finite 0 := by
      rw [score_readFrom inside, scored_of_no_number nothing]
    rw [Outcome.bind_of_ok decoded]
    dsimp only
    rcases ofFields_cases fields with ⟨legible, read⟩ | ⟨illegible, f, refused, fails⟩
    · rw [read]
      exact ⟨iff_of_true ⟨_, rfl⟩ legible, fun _ => rfl, unusable,
        fun illegible => absurd legible illegible⟩
    · rw [refused]
      exact ⟨iff_of_false nofun illegible, fun legible => absurd legible illegible, unusable,
        fun _ => ⟨f, rfl, fails⟩⟩
  · intro other
    cases decoded : decodeText text with
    | error f =>
      rw [decodeText_error decoded]
      exact ⟨_, _, rfl⟩
    | ok v =>
      cases v with
      | obj fields => exact absurd decoded (other fields)
      | _ => exact ⟨_, _, rfl⟩

def mixedVerdict : Section :=
  [("dimensions", .obj [("taskQuality", .str "high"), ("toneAudience", .obj [("score", .int 8)])]),
    ("justifications", .arr []), ("composite", .bool true)]

theorem mixedVerdict_legible : Legible mixedVerdict := by
  have eight : Measured (.obj [("score", .int 8)]) := by
    rintro _ ⟨⟩
    decide +kernel
  have table : givenScores mixedVerdict =
      [("taskQuality", .str "high"), ("toneAudience", .obj [("score", .int 8)])] := rfl
  constructor
  case dimensions => exact fun _ => ⟨_, rfl⟩
  case justifications => nofun
  case scores =>
    rw [scoreValues, table]
    intro v among
    simp only [judgeDimensions, List.map_cons, List.map_nil, List.mem_cons, List.not_mem_nil,
      or_false] at among
    rcases among with rfl | rfl | rfl | rfl | rfl
    case inr.inr.inr.inr => exact eight
    all_goals nofun

theorem ofReply_mixedVerdict :
    ∃ v, ofReply (.str ((Json.obj mixedVerdict).write .exchange)) = .ok v ∧
      v.score "taskQuality" = .finite 0 ∧ v.score "toneAudience" = .finite 8 ∧
      v.composite = .finite 2 := by
  have short : (decimalDigits 8).length ≤ digitLimit := by decide
  have portable : (Json.obj mixedVerdict).Portable := by
    simpa [mixedVerdict, Json.Portable, Json.FieldsPortable, Json.ItemsPortable, Entries.keys]
      using short
  have word : occursIn fence "high".toList = false := by decide
  have unfenced : (Json.obj mixedVerdict).Unfenced :=
    ⟨by decide, ⟨by decide, word, by decide, ⟨by decide, trivial, trivial⟩, trivial⟩, by decide,
      trivial, by decide, trivial, trivial⟩
  have decoded := decodeText_written Json.Style.exchange_plain (.inr ⟨_, rfl⟩) portable unfenced
  obtain ⟨-, read, unusable, -⟩ := (ofReply_ok_iff _).1 mixedVerdict decoded
  refine ⟨_, read mixedVerdict_legible, unusable "taskQuality" (by decide) rfl, ?_, ?_⟩
  · decide +kernel
  · decide +kernel

theorem ofReply_listedScores :
    decodeText "\x7b\"dimensions\": [1]\x7d" = .ok (.obj [("dimensions", .arr [.int 1])]) ∧
      ofReply (.str "\x7b\"dimensions\": [1]\x7d") =
        .error (.noMember "'list' object has no attribute 'get'") := by
  have written : (Json.obj [("dimensions", .arr [.int 1])]).write .exchange =
      "\x7b\"dimensions\": [1]\x7d" := by decide +kernel
  have short : (decimalDigits 1).length ≤ digitLimit := by decide
  have portable : (Json.obj [("dimensions", .arr [.int 1])]).Portable := by
    simpa [Json.Portable, Json.FieldsPortable, Json.ItemsPortable, Entries.keys] using short
  have unfenced : (Json.obj [("dimensions", .arr [.int 1])]).Unfenced :=
    ⟨by decide, ⟨trivial, trivial⟩, trivial⟩
  have decoded := decodeText_written Json.Style.exchange_plain (.inr ⟨_, rfl⟩) portable unfenced
  rw [written] at decoded
  refine ⟨decoded, ?_⟩
  rw [ofReply_text, Outcome.bind_of_ok decoded]
  rfl

end Verdict

end PromptStudio
