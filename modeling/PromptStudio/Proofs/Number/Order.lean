import Mathlib.Order.WithBot
import PromptStudio.Proofs.Json.Equality

set_option autoImplicit false

namespace PromptStudio

def Amount.place : Amount → WithBot (WithTop Rat)
  | .finite q => ((q : WithTop Rat) : WithBot (WithTop Rat))
  | .infinite true => ⊥
  | .infinite false => ((⊤ : WithTop Rat) : WithBot (WithTop Rat))

theorem Amount.place_injective : Function.Injective Amount.place := by
  intro a b same
  rcases a with p | (_ | _) <;> rcases b with q | (_ | _) <;> simp_all [place]

namespace Binary64

variable {x y z : Binary64} {a b : Amount}

theorem exists_amount (number : x ≠ .nan) : ∃ a, x.amount? = some a := by
  cases x with
  | nan => exact absurd rfl number
  | _ => exact ⟨_, rfl⟩

theorem below_iff_place (own : x.amount? = some a) (other : y.amount? = some b) :
    x.below y = true ↔ a.place < b.place := by
  have last (q : Rat) : ((q : WithTop Rat) : WithBot (WithTop Rat)) < ((⊤ : WithTop Rat)) :=
    WithBot.coe_lt_coe.mpr (WithTop.coe_lt_top q)
  rcases x with _ | (_ | _) | _ | p <;> cases own <;>
    rcases y with _ | (_ | _) | _ | q <;> cases other <;>
      simp [below, Amount.place, toRat?, -WithBot.coe_top, last]
  all_goals exact decide_eq_true_iff

theorem below_eq_false_iff_place (own : x.amount? = some a) (other : y.amount? = some b) :
    x.below y = false ↔ b.place ≤ a.place := by
  rw [← Bool.not_eq_true, below_iff_place own other, not_lt]

theorem equals_iff_place (own : x.amount? = some a) (other : y.amount? = some b) :
    x.equals y = true ↔ a.place = b.place := by
  rw [equals_iff, Amount.place_injective.eq_iff, own, other]
  simp [eq_comm]

theorem equals_comm (x y : Binary64) : x.equals y = y.equals x := by
  rw [Bool.eq_iff_iff, equals_iff, equals_iff]
  exact exists_congr fun a => and_comm

theorem below_nan (x : Binary64) : x.below .nan = false := by
  cases x <;> rfl

theorem numbers_of_below (less : x.below y = true) : x ≠ .nan ∧ y ≠ .nan := by
  constructor
  · rintro rfl
    cases less
  · rintro rfl
    cases (below_nan x).symm.trans less

theorem below_asymm (less : x.below y = true) : y.below x = false := by
  obtain ⟨own, other⟩ := numbers_of_below less
  obtain ⟨a, own⟩ := exists_amount own
  obtain ⟨b, other⟩ := exists_amount other
  exact (below_eq_false_iff_place other own).mpr ((below_iff_place own other).mp less).le

theorem below_irrefl (x : Binary64) : x.below x = false := by
  cases less : x.below x with
  | true => exact less.symm.trans (below_asymm less)
  | false => rfl

-- With a number between them, `x` comes no later than `z`; and earlier if one step is strict.
theorem not_below_trans (number : y ≠ .nan) (first : y.below x = false)
    (second : z.below y = false) : z.below x = false := by
  by_cases own : x = .nan
  next => rw [own, below_nan]
  by_cases other : z = .nan
  next => rw [other]; rfl
  obtain ⟨a, own⟩ := exists_amount own
  obtain ⟨b, between⟩ := exists_amount number
  obtain ⟨c, other⟩ := exists_amount other
  rw [below_eq_false_iff_place between own] at first
  rw [below_eq_false_iff_place other between] at second
  exact (below_eq_false_iff_place other own).mpr (first.trans second)

theorem below_of_not_below_of_below (number : x ≠ .nan) (before : y.below x = false)
    (less : y.below z = true) : x.below z = true := by
  cases rises : x.below z with
  | true => rfl
  | false => exact (not_below_trans number rises before).symm.trans less

theorem equals_of_not_below (own : x ≠ .nan) (other : y ≠ .nan) (first : y.below x = false)
    (second : x.below y = false) : x.equals y = true := by
  obtain ⟨a, own⟩ := exists_amount own
  obtain ⟨b, other⟩ := exists_amount other
  rw [below_eq_false_iff_place other own] at first
  rw [below_eq_false_iff_place own other] at second
  exact (equals_iff_place own other).mpr (first.antisymm second)

theorem not_below_of_equals (own : x.equals z = true) (other : y.equals z = true) :
    x.below y = false := by
  obtain ⟨c, own, third⟩ := equals_iff.mp own
  obtain ⟨c', other, third'⟩ := equals_iff.mp other
  obtain rfl : c = c' := Option.some.inj (third.symm.trans third')
  exact (below_eq_false_iff_place own other).mpr le_rfl

end Binary64

end PromptStudio
