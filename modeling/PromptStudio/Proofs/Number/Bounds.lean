import PromptStudio.Proofs.Number.Range

set_option autoImplicit false

/-!
# Numbers between zero and a whole number

A whole number below 2^53 has a place among the numbers that its neighbours are rounded to, so no
rounding crosses it. Sums, quotients and roundings to decimal places thus keep the bounds that
exact arithmetic has.
-/

namespace PromptStudio

theorem floor_le_roundHalfEven (q : Rat) : q.floor ≤ roundHalfEven q := by
  unfold roundHalfEven
  dsimp only
  repeat' split
  all_goals omega

theorem roundHalfEven_le_floor (q : Rat) : roundHalfEven q ≤ q.floor + 1 := by
  unfold roundHalfEven
  dsimp only
  repeat' split
  all_goals omega

-- Of two fractions over the same whole number the larger is not rounded down where the smaller
-- is rounded up.
theorem roundHalfEven_mono {p q : Rat} (le : p ≤ q) : roundHalfEven p ≤ roundHalfEven q := by
  rcases (Rat.floor_monotone le).lt_or_eq with apart | same
  · calc roundHalfEven p ≤ p.floor + 1 := roundHalfEven_le_floor p
      _ ≤ q.floor := apart
      _ ≤ roundHalfEven q := floor_le_roundHalfEven q
  · have fraction : p - p.floor ≤ q - p.floor := by linarith
    simp only [roundHalfEven, ← same]
    split_ifs <;> first | omega | (exfalso; linarith)

namespace Binary64

variable {q : Rat} {m n : Nat} {x y : Binary64}

theorem unitExponent_nonpos (positive : 0 < q) (small : q < 2 ^ 53) : unitExponent q ≤ 0 := by
  have guess := log2_num_le positive small.le
  unfold unitExponent
  dsimp only
  by_cases reached : (2 : Rat) ^ ((q.num.natAbs.log2 : Int) - (q.den.log2 : Int)) ≤ q
  case pos =>
    have power : (2 : Rat) ^ ((q.num.natAbs.log2 : Int) - (q.den.log2 : Int)) < 2 ^ (53 : Int) :=
      lt_of_le_of_lt reached (by exact_mod_cast small)
    have exponent := (zpow_lt_zpow_iff_right₀ (by norm_num)).mp power
    rw [if_pos reached]
    split <;> omega
  case neg =>
    rw [if_neg reached]
    split <;> omega

theorem roundMagnitude_nonneg (nonneg : 0 ≤ q) : 0 ≤ roundMagnitude q := by
  have unit : (0 : Rat) < 2 ^ unitExponent q := zpow_pos (by norm_num) _
  have rounded : roundHalfEven (0 : Int) ≤ roundHalfEven (q / 2 ^ unitExponent q) :=
    roundHalfEven_mono (by exact_mod_cast div_nonneg nonneg unit.le)
  rw [roundHalfEven_intCast] at rounded
  exact mul_nonneg (by exact_mod_cast rounded) unit.le

theorem roundMagnitude_le_nat (positive : 0 < q) (le : q ≤ n) (small : n < 2 ^ 53) :
    roundMagnitude q ≤ n := by
  have below : q < 2 ^ 53 := lt_of_le_of_lt le (by exact_mod_cast small)
  obtain ⟨k, exponent⟩ := Int.eq_ofNat_of_zero_le
    (neg_nonneg.mpr (unitExponent_nonpos positive below))
  have unit : (2 : Rat) ^ unitExponent q * 2 ^ k = 1 := by
    rw [← zpow_natCast, ← zpow_add₀ (by norm_num), show unitExponent q + (k : Int) = 0 by omega,
      zpow_zero]
  have nonneg : (0 : Rat) < 2 ^ unitExponent q := zpow_pos (by norm_num) _
  -- In units of the last place the bound is a whole number.
  have steps : q / 2 ^ unitExponent q ≤ ((n * 2 ^ k : Nat) : Int) := by
    rw [div_le_iff₀ nonneg]
    push_cast
    rw [mul_assoc, mul_comm (2 ^ k : Rat), unit, mul_one]
    exact le
  have rounded := roundHalfEven_mono steps
  rw [roundHalfEven_intCast] at rounded
  calc roundMagnitude q
      ≤ ((n * 2 ^ k : Nat) : Int) * 2 ^ unitExponent q :=
        mul_le_mul_of_nonneg_right (by exact_mod_cast rounded) nonneg.le
    _ = n := by push_cast; rw [mul_assoc, mul_comm (2 ^ k : Rat), unit, mul_one]

def Within (n : Nat) (x : Binary64) : Prop := ∃ q, x = .finite q ∧ 0 ≤ q ∧ q ≤ n

theorem within_zero : Within n (.finite 0) := ⟨0, rfl, le_rfl, n.cast_nonneg⟩

theorem ofRat_within (nonneg : 0 ≤ q) (le : q ≤ n) (small : n < 2 ^ 53) : Within n (ofRat q) := by
  rcases nonneg.eq_or_lt with rfl | positive
  · rw [ofRat_zero]
    exact within_zero
  · have bounded := roundMagnitude_le_nat positive le small
    have finite : roundMagnitude q < 2 ^ (1024 : Nat) :=
      calc roundMagnitude q ≤ n := bounded
        _ < 2 ^ 53 := by exact_mod_cast small
        _ < 2 ^ 1024 := pow_lt_pow_right₀ (by norm_num) (by norm_num)
    simp only [ofRat, if_neg positive.ne', if_neg nonneg.not_gt, if_neg finite.not_ge]
    split
    · exact within_zero
    · exact ⟨_, rfl, roundMagnitude_nonneg nonneg, bounded⟩

theorem Within.add (first : Within m x) (second : Within n y) (small : m + n < 2 ^ 53) :
    Within (m + n) (x.add y) := by
  obtain ⟨p, rfl, nonnegP, leP⟩ := first
  obtain ⟨q, rfl, nonnegQ, leQ⟩ := second
  exact ofRat_within (add_nonneg nonnegP nonnegQ) (by push_cast; exact add_le_add leP leQ) small

theorem Within.complement (within : Within 1 x) : Within 1 ((finite 1).add x.neg) := by
  obtain ⟨q, rfl, nonneg, le⟩ := within
  rw [Nat.cast_one] at le
  by_cases nothing : q = 0
  next =>
    subst nothing
    exact ⟨1, rfl, zero_le_one, by rw [Nat.cast_one]⟩
  next =>
    have negated : (finite q).neg = finite (-q) := if_neg nothing
    rw [negated]
    exact ofRat_within (by linarith) (by rw [Nat.cast_one]; linarith) (by norm_num)

theorem Within.divideBy {count : Nat} (within : Within (n * count) x) (counted : 0 < count)
    (small : n < 2 ^ 53) : Within n (x.divideBy count) := by
  obtain ⟨q, rfl, nonneg, le⟩ := within
  have positive : (0 : Rat) < count := by exact_mod_cast counted
  refine ofRat_within (div_nonneg nonneg positive.le) ?_ small
  rw [div_le_iff₀ positive]
  exact_mod_cast le

theorem Within.roundPlaces (within : Within n x) (places : Nat) (small : n < 2 ^ 53) :
    Within n (x.roundPlaces places) := by
  obtain ⟨q, rfl, nonneg, le⟩ := within
  have unit : (0 : Rat) < 10 ^ places := by positivity
  have lower : roundHalfEven (0 : Int) ≤ roundHalfEven (q * 10 ^ places) :=
    roundHalfEven_mono (by exact_mod_cast mul_nonneg nonneg unit.le)
  have upper : roundHalfEven (q * 10 ^ places) ≤ roundHalfEven ((n * 10 ^ places : Nat) : Int) :=
    roundHalfEven_mono (by push_cast; exact mul_le_mul_of_nonneg_right le unit.le)
  rw [roundHalfEven_intCast] at lower upper
  have rounded : Within n (ofRat (roundHalfEven (q * 10 ^ places) / 10 ^ places)) := by
    refine ofRat_within (div_nonneg (by exact_mod_cast lower) unit.le) ?_ small
    rw [div_le_iff₀ unit]
    exact_mod_cast upper
  simpa only [Binary64.roundPlaces, decide_eq_false nonneg.not_gt, Bool.false_and,
    Bool.false_eq_true, if_false] using rounded

end Binary64

end PromptStudio
