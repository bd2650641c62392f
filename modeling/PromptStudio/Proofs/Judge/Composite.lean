import PromptStudio.Proofs.Judge.Replies

set_option autoImplicit false

namespace PromptStudio

namespace Verdict

variable {fields : Section} {v : Json} {dimensions : Entries Binary64}

def Ungiven (v : Json) : Prop := v = .null ∨ ∃ b, v = .bool b

structure Numberless (v : Json) : Prop where
  integer : ∀ n, heldScore v ≠ .int n
  decimal : ∀ x, heldScore v ≠ .float x
  text : ∀ s, heldScore v = .str s → numberOf? s.toList = none

/-- The composite score for a value, where `mean` is the mean of the scores. -/
inductive Composes (mean : Binary64) (v : Json) : Binary64 → Prop where
  | mean (ungiven : Ungiven v) : Composes mean v mean
  | number {x : Binary64} (read : scoreNumber? (heldScore v) = .ok (some x)) :
      Composes mean v ((clampScore x).roundPlaces 1)
  | zero (given : ¬Ungiven v) (numberless : Numberless v) : Composes mean v (.finite 0)

theorem numberless_iff : Numberless v ↔ scoreNumber? (heldScore v) = .ok none := by
  constructor
  next =>
    rintro ⟨integer, decimal, text⟩
    cases held : heldScore v with
    | int n => exact absurd held (integer n)
    | float x => exact absurd held (decimal x)
    | str s => exact congrArg Except.ok (text s held)
    | _ => rfl
  next =>
    intro nothing
    constructor
    case integer =>
      intro n held
      rw [held, scoreNumber?] at nothing
      split at nothing <;> cases nothing
    case decimal =>
      intro x held
      rw [held] at nothing
      cases nothing
    case text =>
      intro s held
      rw [held] at nothing
      exact Except.ok.inj nothing

theorem scored_of_number (measured : Measured v) {x : Binary64}
    (read : scoreNumber? (heldScore v) = .ok (some x)) : scored v = clampScore x := by
  rcases scoreOf_cases v with ⟨-, scores⟩ | ⟨large, -⟩
  next =>
    rw [scoreOf_heldScore, read] at scores
    exact (Except.ok.inj scores).symm
  next => exact absurd measured large

theorem scoreNumber?_ok (measured : Measured v) : ∃ x, scoreNumber? (heldScore v) = .ok x := by
  rcases scoreOf_cases v with ⟨-, scores⟩ | ⟨large, -⟩
  next =>
    rw [scoreOf_heldScore] at scores
    obtain ⟨x, read, -⟩ := Outcome.bind_eq_ok.mp scores
    exact ⟨x, read⟩
  next => exact absurd measured large

theorem compositeFor_of_ungiven (ungiven : Ungiven v) (dimensions : Entries Binary64) :
    compositeFor v dimensions = meanScore (dimensions.map (·.2)) := by
  rcases ungiven with rfl | ⟨b, rfl⟩ <;> rfl

theorem compositeFor_of_given (given : ¬Ungiven v) (dimensions : Entries Binary64) :
    compositeFor v dimensions = (scored v).roundPlaces 1 := by
  cases v with
  | null => exact absurd (.inl rfl) given
  | bool b => exact absurd (.inr ⟨b, rfl⟩) given
  | _ => rfl

theorem compositeFor_composes (measured : Measured v) (dimensions : Entries Binary64) :
    Composes (meanScore (dimensions.map (·.2))) v (compositeFor v dimensions) := by
  by_cases ungiven : Ungiven v
  next =>
    rw [compositeFor_of_ungiven ungiven]
    exact .mean ungiven
  next =>
    rw [compositeFor_of_given ungiven]
    obtain ⟨number, read⟩ := scoreNumber?_ok measured
    cases number with
    | some x =>
      rw [scored_of_number measured read]
      exact .number read
    | none =>
      have rounded : (Binary64.finite 0).roundPlaces 1 = .finite 0 := by decide +kernel
      rw [scored_of_no_number read, rounded]
      exact .zero ungiven (numberless_iff.mpr read)

theorem ofReply_eq_ok {reply : Json} {v : Verdict} (read : ofReply reply = .ok v) :
    ∃ fields, decodeReply reply = .ok (.obj fields) ∧ Legible fields ∧ v = readFrom fields := by
  obtain ⟨decoded, given, read⟩ := Outcome.bind_eq_ok.mp read
  cases decoded with
  | obj fields =>
    refine ⟨fields, given, ?_⟩
    rcases ofFields_cases fields with ⟨legible, made⟩ | ⟨-, f, refused, -⟩
    next => exact ⟨legible, Except.ok.inj (read.symm.trans made)⟩
    next => cases refused.symm.trans read
  | _ => cases read

theorem Composes.of_numberless {mean x : Binary64} (composes : Composes mean v x)
    (numberless : Numberless v) : x = mean ↔ Ungiven v ∨ mean = .finite 0 := by
  cases composes with
  | mean ungiven => exact iff_of_true rfl (.inl ungiven)
  | number read => cases read.symm.trans (numberless_iff.mp numberless)
  | zero given =>
    rw [or_iff_right given]
    exact eq_comm

theorem ofReply_composes {reply : Json} {v : Verdict} (read : ofReply reply = .ok v) :
    ∃ fields, decodeReply reply = .ok (.obj fields) ∧
      let given := Section.value fields "composite"
      let mean := meanScore (judgeDimensions.map v.score)
      Composes mean given v.composite ∧
        (Numberless given → (v.composite = mean ↔ Ungiven given ∨ mean = .finite 0)) := by
  obtain ⟨fields, decoded, legible, rfl⟩ := ofReply_eq_ok read
  have composes := compositeFor_composes (legible.scores _ (.head _))
    (scoresFor (givenScores fields))
  exact ⟨fields, decoded, composes, composes.of_numberless⟩

def switchedReply : Json :=
  .obj [("dimensions", .obj [("taskQuality", .int 9),
      ("toneAudience", .obj [("score", .str "7.5"), ("feedback", .str "Warm")])]),
    ("composite", .bool false)]

theorem ofReply_composes_switched : ∃ v, ofReply switchedReply = .ok v ∧
    Ungiven (switchedReply.field "composite") ∧
    v.composite = meanScore (judgeDimensions.map v.score) ∧ v.composite = .ofRat (41 / 10) := by
  have mean : (ofReply switchedReply).toOption.map (fun v =>
      meanScore (judgeDimensions.map v.score)) = some (.ofRat (41 / 10)) := by decide +kernel
  cases read : ofReply switchedReply with
  | error f =>
    rw [read] at mean
    cases mean
  | ok v =>
    obtain ⟨fields, decoded, -, composite⟩ := ofReply_composes read
    cases decoded
    have ungiven : Ungiven (switchedReply.field "composite") := .inr ⟨false, rfl⟩
    have composite := (composite ⟨nofun, nofun, nofun⟩).mpr (.inl ungiven)
    rw [read] at mean
    exact ⟨v, rfl, ungiven, composite, composite.trans (Option.some.inj mean)⟩

def wordyReply : Json :=
  .obj [("dimensions", .obj (judgeDimensions.map fun d => (d, .int 8))), ("composite", .str "n/a")]

theorem ofReply_wordyComposite : ∃ v, ofReply wordyReply = .ok v ∧
    Numberless (wordyReply.field "composite") ∧ v.composite = .finite 0 ∧
    meanScore (judgeDimensions.map v.score) = .finite 8 := by
  have both : (ofReply wordyReply).toOption.map (fun v =>
      (v.composite, meanScore (judgeDimensions.map v.score))) = some (.finite 0, .finite 8) := by
    decide +kernel
  have numberless : Numberless (wordyReply.field "composite") :=
    numberless_iff.mpr (by decide +kernel)
  cases read : ofReply wordyReply with
  | error f =>
    rw [read] at both
    cases both
  | ok v =>
    rw [read] at both
    obtain ⟨composite, mean⟩ := Prod.mk.inj (Option.some.inj both)
    exact ⟨v, rfl, numberless, composite, mean⟩

end Verdict

end PromptStudio
