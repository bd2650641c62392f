import Mathlib.Algebra.Order.Ring.Unbundled.Rat
import Mathlib.Tactic.Linarith
import Mathlib.Tactic.Positivity
import PromptStudio.Number.Binary64

set_option autoImplicit false

namespace PromptStudio

theorem roundHalfEven_le (q : Rat) : (roundHalfEven q : Rat) ≤ q + 1 := by
  have floor : ((q.floor : Int) : Rat) ≤ q := Rat.floor_le q
  unfold roundHalfEven
  dsimp only
  split
  next => linarith
  next =>
    split
    next => push_cast; linarith
    next =>
      split
      next => linarith
      next => push_cast; linarith

namespace Binary64

variable {q : Rat} {n : Nat}

theorem log2_num_le (positive : 0 < q) (small : q ≤ 2 ^ n) :
    q.num.natAbs.log2 ≤ q.den.log2 + n := by
  have whole : (q.num.natAbs : Int) = q.num := Int.natAbs_of_nonneg (Rat.num_nonneg.mpr positive.le)
  have bounded : q.num.natAbs ≤ 2 ^ n * q.den := by
    have den : (0 : Rat) < q.den := by exact_mod_cast q.den_pos
    have quotient : (q.num : Rat) / q.den ≤ 2 ^ n := by rwa [Rat.num_div_den]
    have product : (q.num : Rat) ≤ 2 ^ n * q.den := (div_le_iff₀ den).mp quotient
    rw [← whole] at product
    exact_mod_cast product
  have filled : q.num.natAbs ≠ 0 := Int.natAbs_ne_zero.mpr (Rat.num_pos.mpr positive).ne'
  have next : q.num.natAbs < 2 ^ (q.den.log2 + n + 1) := by
    calc q.num.natAbs ≤ 2 ^ n * q.den := bounded
      _ < 2 ^ n * 2 ^ (q.den.log2 + 1) :=
        Nat.mul_lt_mul_of_pos_left Nat.lt_log2_self (by positivity)
      _ = 2 ^ (q.den.log2 + n + 1) := by rw [← Nat.pow_add]; congr 1; omega
  exact Nat.lt_succ_iff.mp ((Nat.log2_lt filled).mpr next)

theorem unit_le (positive : 0 < q) (small : q ≤ 2 ^ n) :
    (2 : Rat) ^ unitExponent q ≤ 2 ^ n := by
  have guess := log2_num_le positive small
  have exponent : unitExponent q ≤ n := by
    unfold unitExponent
    dsimp only
    split <;> split <;> omega
  calc (2 : Rat) ^ unitExponent q ≤ 2 ^ (n : Int) := zpow_le_zpow_right₀ (by norm_num) exponent
    _ = 2 ^ n := zpow_natCast 2 n

theorem roundMagnitude_le (positive : 0 < q) (small : q ≤ 2 ^ n) :
    roundMagnitude q ≤ 2 ^ (n + 1) := by
  have unit : (0 : Rat) < 2 ^ unitExponent q := zpow_pos (by norm_num) _
  calc roundMagnitude q
      ≤ (q / 2 ^ unitExponent q + 1) * 2 ^ unitExponent q :=
        mul_le_mul_of_nonneg_right (roundHalfEven_le _) unit.le
    _ = q + 2 ^ unitExponent q := by rw [add_mul, div_mul_cancel₀ _ unit.ne', one_mul]
    _ ≤ 2 ^ n + 2 ^ n := add_le_add small (unit_le positive small)
    _ = 2 ^ (n + 1) := by rw [pow_succ, mul_two]

theorem ofRat_finite (positive : 0 < q) (small : q ≤ 2 ^ 1022) : ∃ p, ofRat q = .finite p := by
  have magnitude : roundMagnitude q < 2 ^ (1024 : Nat) :=
    lt_of_le_of_lt (roundMagnitude_le positive small)
      (pow_lt_pow_right₀ (by norm_num) (by norm_num))
  unfold ofRat
  rw [if_neg positive.ne']
  simp only [if_neg (not_lt_of_gt positive), if_neg (not_le_of_gt magnitude)]
  split <;> exact ⟨_, rfl⟩

end Binary64

end PromptStudio
