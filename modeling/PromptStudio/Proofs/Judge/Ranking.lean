import Mathlib.Data.List.Pairwise
import PromptStudio.Judge.Prompt
import PromptStudio.Proofs.Number.Order

set_option autoImplicit false

namespace PromptStudio

theorem Binary64.Between.number {least most : Nat} {x : Binary64} (between : x.Between least most) :
    x ≠ .nan := by
  rintro rfl
  cases between.most

namespace Baseline

variable {given other shown : List Baseline}

def Rising (shown : List Baseline) : Prop :=
  shown.Pairwise fun a b => b.score.below a.score = false

/-- The given examples, lowest score first, those of equal score in the order in which they are
given. -/
structure Ranks (shown given : List Baseline) : Prop where
  perm : shown.Perm given
  rising : Rising shown
  stable : ∀ x, (shown.filter fun b => b.score.equals x) = given.filter fun b => b.score.equals x

theorem rises_trans (a b c : Baseline) (first : (!b.score.below a.score) = true)
    (second : (!c.score.below b.score) = true) : (!c.score.below a.score) = true := by
  rw [Bool.not_eq_true'] at first second ⊢
  exact Binary64.not_below_trans b.measured.number first second

theorem rises_total (a b : Baseline) :
    (!b.score.below a.score || !a.score.below b.score) = true := by
  cases less : b.score.below a.score with
  | false => rfl
  | true => simp [Binary64.below_asymm less]

theorem ranked_perm (given : List Baseline) : (ranked given).Perm given :=
  List.mergeSort_perm given _

theorem ranked_rising (given : List Baseline) : Rising (ranked given) := by
  have sorted := List.pairwise_mergeSort rises_trans rises_total given
  apply sorted.imp
  intro a b rises
  rwa [Bool.not_eq_true'] at rises

-- Examples of one score are in order as they stand, and a sort keeps what is in order.
theorem ranked_stable (given : List Baseline) (x : Binary64) :
    ((ranked given).filter fun b => b.score.equals x) = given.filter fun b => b.score.equals x := by
  let equal : Baseline → Bool := fun b => b.score.equals x
  have ordered : (given.filter equal).Pairwise fun a b => (!b.score.below a.score) = true := by
    apply List.pairwise_of_forall_mem_list
    intro a own b other
    have same := Binary64.not_below_of_equals (List.mem_filter.mp other).2 (List.mem_filter.mp own).2
    rw [same]
    rfl
  have kept : (given.filter equal).Sublist (ranked given) :=
    List.sublist_mergeSort rises_trans rises_total ordered List.filter_sublist
  have inside : (given.filter equal).Sublist ((ranked given).filter equal) := by
    have filtered := kept.filter equal
    rwa [List.filter_filter, funext fun b => Bool.and_self (equal b)] at filtered
  have length := ((ranked_perm given).filter equal).length_eq
  exact (inside.eq_of_length length.symm).symm

theorem ranked_ranks (given : List Baseline) : Ranks (ranked given) given :=
  ⟨ranked_perm given, ranked_rising given, ranked_stable given⟩

theorem ranked_of_rising (rising : Rising given) : ranked given = given := by
  apply List.mergeSort_of_pairwise
  apply rising.imp
  intro a b rises
  rw [rises]
  rfl

def Distinguished (given : List Baseline) : Prop :=
  given.Pairwise fun a b => a.score.equals b.score = false

-- Where no two scores are equal there is one rising order only.
theorem ranked_of_perm (distinguished : Distinguished given) (perm : other.Perm given) :
    ranked other = ranked given := by
  have ranks := ranked_ranks given
  have ranks' := ranked_ranks other
  have symm : Std.Symm fun a b : Baseline => a.score.equals b.score = false :=
    ⟨fun a b unequal => (Binary64.equals_comm _ _).trans unequal⟩
  apply List.Perm.eq_of_pairwise _ ranks'.rising ranks.rising
  · exact (ranks'.perm.trans perm).trans ranks.perm.symm
  · intro a b own other first second
    by_contra unequal
    have own : a ∈ given := perm.mem_iff.mp (ranks'.perm.mem_iff.mp own)
    have other : b ∈ given := ranks.perm.mem_iff.mp other
    have same := Binary64.equals_of_not_below a.measured.number b.measured.number first second
    cases same.symm.trans (distinguished.forall own other unequal)

end Baseline

end PromptStudio
