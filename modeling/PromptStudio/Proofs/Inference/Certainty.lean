import PromptStudio.Inference.Choices
import PromptStudio.Proofs.Entries
import PromptStudio.Proofs.Number.Range

set_option autoImplicit false

namespace PromptStudio

namespace Binary64

variable {x y : Binary64}

def Positive (x : Binary64) : Prop := (finite 0).below x = true

def Share (x : Binary64) : Prop := ∃ q, x = .finite q ∧ 0 < q ∧ q ≤ 1

theorem below_finite_iff {p q : Rat} : (finite p).below (finite q) = true ↔ p < q :=
  decide_eq_true_iff

theorem below_negativeZero_iff {p : Rat} : (finite p).below negativeZero = true ↔ p < 0 :=
  decide_eq_true_iff

theorem positive_iff : x.Positive ↔ x = .infinity false ∨ ∃ q, x = .finite q ∧ 0 < q := by
  cases x with
  | nan => simp [Positive, Binary64.below]
  | infinity negative => cases negative <;> simp [Positive, Binary64.below]
  | negativeZero => simp [Positive, below_negativeZero_iff]
  | finite q => simp [Positive, below_finite_iff]

theorem Positive.below (positive : x.Positive) (less : x.below y = true) : y.Positive := by
  rcases positive_iff.mp positive with rfl | ⟨p, rfl, above⟩
  · cases y with
    | infinity negative => cases negative <;> exact nomatch less
    | _ => exact nomatch less
  · cases y with
    | nan => exact nomatch less
    | infinity negative => exact less
    | negativeZero => exact absurd (below_negativeZero_iff.mp less) (not_lt_of_gt above)
    | finite q => exact below_finite_iff.mpr (above.trans (below_finite_iff.mp less))

theorem Share.scaled (share : x.Share) : ∃ p, x.mul (.finite 100) = .finite p := by
  obtain ⟨q, rfl, positive, most⟩ := share
  have product : 0 < q * 100 := mul_pos positive (by norm_num)
  have small : q * 100 ≤ 2 ^ 1022 :=
    calc q * 100 ≤ 1 * 100 := mul_le_mul_of_nonneg_right most (by norm_num)
      _ ≤ 2 ^ 7 := by norm_num
      _ ≤ 2 ^ 1022 := pow_le_pow_right₀ (by norm_num) (by norm_num)
  obtain ⟨p, rounded⟩ := ofRat_finite product small
  refine ⟨p, ?_⟩
  simp only [mul, toRat?, Option.getD_some, if_neg product.ne', rounded]

end Binary64

theorem percentOf_ok {x : Binary64} (share : x.Share) : ∃ n, percentOf (.float x) = .ok n := by
  obtain ⟨p, scaled⟩ := share.scaled
  simp only [percentOf, scaled]
  exact ⟨_, rfl⟩

namespace Finding

theorem confidence_share {f : Finding} (positive : f.score.Positive) : f.confidence.Share := by
  unfold confidence
  split
  next less =>
    rcases Binary64.positive_iff.mp positive with endless | ⟨q, score, above⟩
    · rw [endless] at less
      exact nomatch less
    · rw [score] at less ⊢
      exact ⟨q, rfl, above, (Binary64.below_finite_iff.mp less).le⟩
  next => exact ⟨1, rfl, by norm_num, le_refl 1⟩

end Finding

namespace Signal

def Beats (best : Option Finding) : Prop := ∀ f, best = some f → f.score.Positive

theorem Beats.improve {best : Option Finding} (beats : Beats best) (text : List Char) (row : Row) :
    Beats (improve text best row) := by
  unfold Signal.improve
  split
  next => exact beats
  next score _ =>
    dsimp only
    split
    next better =>
      rintro f ⟨⟩
      cases best with
      | none => exact better
      | some f => exact (beats f rfl).below better
    next => exact beats

-- What holds before the first row, and after each one if it held before, holds at the end.
theorem best?_of_improve (s : Signal) (text : List Char) {P : List Row → Option Finding → Prop}
    (initial : P [] none)
    (step : ∀ seen row later best, s.rows = seen ++ row :: later → P seen best →
      P (seen ++ [row]) (improve text best row)) : P s.rows (s.best? text) := by
  have rows (seen rest : List Row) (best : Option Finding) (split : s.rows = seen ++ rest)
      (held : P seen best) : P s.rows (rest.foldl (improve text) best) := by
    induction rest generalizing seen best with
    | nil =>
      rw [List.append_nil] at split
      exact split ▸ held
    | cons row rest ih =>
      apply ih (seen ++ [row])
      · rw [split, List.append_cons]
      · exact step seen row rest best split held
  exact rows [] s.rows none rfl initial

theorem best?_beats (s : Signal) (text : List Char) : Beats (s.best? text) := by
  apply s.best?_of_improve text (P := fun _ best => Beats best)
  · exact nofun
  · intro seen row later best split beats
    exact beats.improve text row

end Signal

theorem score_of_findings {brief key : String} {f : Finding} (found : (key, f) ∈ findings brief) :
    f.score.Positive := by
  obtain ⟨s, -, taken⟩ := List.mem_filterMap.mp found
  obtain ⟨g, best, same⟩ := Option.map_eq_some_iff.mp taken
  obtain ⟨rfl, rfl⟩ := Prod.mk.inj same
  exact s.best?_beats _ g best

theorem findings_sublist (brief : String) :
    (Entries.keys (findings brief)).Sublist (signals.map Signal.name) := by
  have sublist (rows : List Signal) :
      (Entries.keys (rows.filterMap fun s => (s.best? (lowerChars brief.toList)).map
        fun found => (s.name, found))).Sublist (rows.map Signal.name) := by
    induction rows with
    | nil => exact .slnil
    | cons s rest ih =>
      rw [List.filterMap_cons]
      cases s.best? (lowerChars brief.toList) with
      | none => exact ih.cons _
      | some f => exact ih.cons_cons _
  exact sublist signals

theorem signals_names : (signals.map Signal.name).Nodup := by decide

theorem findings_names (brief : String) : (Entries.keys (findings brief)).Nodup :=
  signals_names.sublist (findings_sublist brief)

end PromptStudio
