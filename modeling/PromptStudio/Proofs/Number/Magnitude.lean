import PromptStudio.Proofs.Number.Bounds

set_option autoImplicit false

namespace PromptStudio

theorem le_roundHalfEven_add_half (q : Rat) : q ≤ roundHalfEven q + 1 / 2 := by
  have fraction : q < q.floor + 1 := by exact_mod_cast Rat.lt_floor_add_one q
  unfold roundHalfEven
  dsimp only
  split_ifs <;> push_cast <;> linarith

namespace Binary64

variable {b q : Rat} {x y : Binary64} {n : Nat}

def leastUnit : Rat := 2 ^ (-1074 : Int)

theorem leastUnit_le_pow {exponent : Int} (le : -1074 ≤ exponent) :
    leastUnit ≤ 2 ^ exponent :=
  zpow_le_zpow_right₀ (by norm_num) le

-- One less than the difference of the logarithms is low enough whatever their fractions are.
theorem pow_guess_le (positive : 0 < q) :
    (2 : Rat) ^ ((q.num.natAbs.log2 : Int) - (q.den.log2 : Int) - 1) ≤ q := by
  have filled : q.num.natAbs ≠ 0 := Int.natAbs_ne_zero.mpr (Rat.num_pos.mpr positive).ne'
  have whole : (q.num.natAbs : Int) = q.num := Int.natAbs_of_nonneg (Rat.num_nonneg.mpr positive.le)
  have num : (2 : Rat) ^ q.num.natAbs.log2 ≤ q.num :=
    calc (2 : Rat) ^ q.num.natAbs.log2 ≤ q.num.natAbs := by exact_mod_cast Nat.log2_self_le filled
      _ = q.num := by rw [← Int.cast_natCast, whole]
  have den : (q.den : Rat) ≤ 2 ^ (q.den.log2 + 1) := by
    exact_mod_cast (Nat.lt_log2_self (n := q.den)).le
  have divisor : (0 : Rat) < q.den := by exact_mod_cast q.den_pos
  calc (2 : Rat) ^ ((q.num.natAbs.log2 : Int) - (q.den.log2 : Int) - 1)
      = 2 ^ q.num.natAbs.log2 / 2 ^ (q.den.log2 + 1) := by
        rw [sub_sub, zpow_sub₀ (by norm_num), zpow_natCast]
        norm_cast
    _ ≤ q.num / q.den := div_le_div₀ (by exact_mod_cast Rat.num_nonneg.mpr positive.le) num divisor den
    _ = q := Rat.num_div_den q

theorem unit_le_self (large : leastUnit ≤ q) : 2 ^ unitExponent q ≤ q := by
  have positive : 0 < q := lt_of_lt_of_le (zpow_pos (by norm_num) _) large
  have lower := pow_guess_le positive
  have smaller {top : Int} (le : (2 : Rat) ^ top ≤ q) : (2 : Rat) ^ (top - 52) ≤ q :=
    (zpow_le_zpow_right₀ (by norm_num) (by omega)).trans le
  unfold unitExponent
  dsimp only
  split_ifs with reached
  case pos => exact large
  case neg => exact smaller reached
  case pos => exact large
  case neg => exact smaller lower

theorem half_le_roundMagnitude (large : leastUnit ≤ q) : q / 2 ≤ roundMagnitude q := by
  have unit : (0 : Rat) < 2 ^ unitExponent q := zpow_pos (by norm_num) _
  have units : 1 ≤ q / 2 ^ unitExponent q := (one_le_div unit).mpr (unit_le_self large)
  have rounded := le_roundHalfEven_add_half (q / 2 ^ unitExponent q)
  calc q / 2 = q / 2 ^ unitExponent q / 2 * 2 ^ unitExponent q := by
        rw [div_right_comm, div_mul_cancel₀ _ unit.ne']
    _ ≤ roundMagnitude q := mul_le_mul_of_nonneg_right (by linarith) unit.le

def AtLeast (b : Rat) (x : Binary64) : Prop := x = .infinity false ∨ ∃ q, x = .finite q ∧ b ≤ q

theorem ofRat_atLeast (large : leastUnit ≤ q) (le : b ≤ q) : AtLeast (b / 2) (ofRat q) := by
  have positive : 0 < q := lt_of_lt_of_le (zpow_pos (by norm_num) _) large
  have half := half_le_roundMagnitude large
  simp only [ofRat, if_neg positive.ne', if_neg positive.not_gt, decide_eq_false positive.not_gt]
  split_ifs with endless vanishes
  · exact .inl rfl
  · linarith
  · exact .inr ⟨_, rfl, by linarith⟩

theorem AtLeast.add (within : Within n x) (most : AtLeast b y) (large : leastUnit ≤ b) :
    AtLeast (b / 2) (x.add y) := by
  obtain ⟨p, rfl, nonneg, -⟩ := within
  rcases most with rfl | ⟨q, rfl, le⟩
  · exact .inl rfl
  · have sum : b ≤ p + q := by linarith
    exact ofRat_atLeast (large.trans sum) sum

theorem AtLeast.scaled {p : Rat} (least : AtLeast b x) (positive : 0 < p)
    (large : leastUnit ≤ p * b) : AtLeast (p * b / 2) ((finite p).mul x) := by
  have above : 0 < p * b := lt_of_lt_of_le (zpow_pos (by norm_num) _) large
  rcases least with rfl | ⟨q, rfl, le⟩
  · refine .inl ?_
    simp [mul, isZero, toRat?, isNegative, positive.ne', positive.le]
  · have product : p * b ≤ p * q := mul_le_mul_of_nonneg_left le positive.le
    have nonzero : p * q ≠ 0 := (above.trans_le product).ne'
    have rounded : (finite p).mul (finite q) = ofRat (p * q) := if_neg nonzero
    rw [rounded]
    exact ofRat_atLeast (large.trans product) product

end Binary64

end PromptStudio
