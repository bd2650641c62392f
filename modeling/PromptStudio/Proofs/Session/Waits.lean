import Mathlib.Algebra.Order.Ring.Unbundled.Rat
import PromptStudio.Session.Cancellation

set_option autoImplicit false

namespace PromptStudio

/-- Rests one after the other: number `i` lasts from `opens i` to `closes i`. -/
structure Rests where
  opens : Nat → Rat
  closes : Nat → Rat

structure Rests.Ordered (w : Rests) : Prop where
  lasting : ∀ i, w.opens i ≤ w.closes i
  apart : ∀ j i, j < i → w.closes j ≤ w.opens i

structure Session.Notices (s s' : Session) : Prop where
  clock : s'.clock = s.clock
  questions : s'.questions = s.questions
  providers : s'.providers = s.providers
  cancelled : s'.cancelledFrom = s.cancelledFrom ∨ s'.cancelledFrom = some s.clock

namespace Session

variable {s between s' : Session}

theorem Notices.trans (first : s.Notices between) (second : between.Notices s') : s.Notices s' where
  clock := second.clock.trans first.clock
  questions := second.questions.trans first.questions
  providers := second.providers.trans first.providers
  cancelled := by
    rcases second.cancelled with same | set
    · rw [same]
      exact first.cancelled
    · rw [set, first.clock]
      exact .inr rfl

theorem cancel_notices (s : Session) : s.Notices s.cancel := by
  unfold cancel cancelFrom
  split
  next => exact ⟨rfl, rfl, rfl, .inr rfl⟩
  next =>
    split
    next => exact ⟨rfl, rfl, rfl, .inl rfl⟩
    next => exact ⟨rfl, rfl, rfl, .inr rfl⟩

theorem interrupt_notices (s : Session) : s.Notices s.interrupt := by
  have told (line : Shown) : s.Notices (s.tell line) := ⟨rfl, rfl, rfl, .inl rfl⟩
  unfold interrupt
  split
  next => exact ⟨rfl, rfl, rfl, .inl rfl⟩
  next => exact (told _).trans (cancel_notices _)

theorem settle_notices (s : Session) : s.Notices s.settle := by
  have noted : s.Notices { s with interrupted := false } := ⟨rfl, rfl, rfl, .inl rfl⟩
  unfold settle
  split
  next => exact noted.trans (interrupt_notices _)
  next => exact ⟨rfl, rfl, rfl, .inl rfl⟩

theorem settle_of_calm (calm : s.interrupted = false) : s.settle = s := by
  simp [settle, calm]

end Session

namespace Cancellation

variable {k : Cancellation} {w : Rests} {asked i : Nat} {s s' : Session}

/-- The rests before number `i` were not cut; `asked` questions were asked before the first. -/
def Spared (k : Cancellation) (w : Rests) (asked i : Nat) (s : Session) : Prop :=
  match k with
  | .never => True
  | .token => ∀ time, s.cancelledFrom = some time → ∀ j < i, w.closes j ≤ time
  | .answers values => ∀ j < i,
    answer values (asked + 2 * j) = false ∧ answer values (asked + 2 * j + 1) = false

def Entered (k : Cancellation) (w : Rests) (asked i : Nat) (s : Session) : Prop :=
  k.Spared w asked i s ∧
    match k with
    | .never => True
    | .token => ∀ time, s.cancelledFrom = some time → w.opens i ≤ time
    | .answers values => answer values (asked + 2 * i) = false

def Cut (k : Cancellation) (w : Rests) (asked i : Nat) (s : Session) : Prop :=
  match k with
  | .never => False
  | .token => ∃ time, s.cancelledFrom = some time ∧ time ≤ w.closes i ∧
    s.clock = max time (w.opens i)
  | .answers values =>
    (answer values (asked + 2 * i) = true ∧ s.clock = w.opens i) ∨
      (answer values (asked + 2 * i) = false ∧ answer values (asked + 2 * i + 1) = true ∧
        s.clock = w.closes i)

def Asked (k : Cancellation) (s : Session) (n : Nat) : Prop :=
  match k with
  | .answers _ => s.questions = n
  | _ => True

theorem Spared.zero (k : Cancellation) (w : Rests) (asked : Nat) (s : Session) :
    k.Spared w asked 0 s := by
  cases k <;> simp [Spared]

theorem Spared.same (spared : k.Spared w asked i s) (same : s'.cancelledFrom = s.cancelledFrom) :
    k.Spared w asked i s' := by
  cases k with
  | token => simpa only [Spared, same] using spared
  | _ => exact spared

theorem Asked.same {n : Nat} (put : k.Asked s n) (same : s'.questions = s.questions) :
    k.Asked s' n := by
  cases k with
  | answers values => exact same.trans put
  | _ => trivial

-- A token that is set now was not set in a rest that is over.
theorem Spared.notices (spared : k.Spared w asked i s) (notices : s.Notices s')
    (past : ∀ j < i, w.closes j ≤ s.clock) : k.Spared w asked i s' := by
  rcases notices.cancelled with same | set
  · exact spared.same same
  · cases k with
    | token =>
      intro time found
      obtain rfl : s.clock = time := by simpa [set] using found
      exact past
    | _ => exact spared

theorem Entered.notices (ordered : w.Ordered) (entered : k.Entered w asked i s)
    (notices : s.Notices s') (now : s.clock = w.opens i) : k.Entered w asked i s' := by
  have past : ∀ j < i, w.closes j ≤ s.clock := fun j before => now ▸ ordered.apart j i before
  refine ⟨entered.1.notices notices past, ?_⟩
  cases k with
  | token =>
    intro time found
    rcases notices.cancelled with same | set
    · exact entered.2 time (same ▸ found)
    · obtain rfl : s.clock = time := by simpa [set] using found
      exact le_of_eq now.symm
  | _ => exact entered.2

theorem check_opens (ordered : w.Ordered) (spared : k.Spared w asked i s)
    (put : k.Asked s (asked + 2 * i)) (now : s.clock = w.opens i) :
    ∃ n,
      (k.check s = (true, { s with questions := n }) ∧
        k.Cut w asked i { s with questions := n }) ∨
      (k.check s = (false, { s with questions := n }) ∧
        k.Entered w asked i { s with questions := n } ∧
        k.Asked { s with questions := n } (asked + 2 * i + 1)) := by
  cases k with
  | never => exact ⟨s.questions, .inr ⟨rfl, ⟨trivial, trivial⟩, trivial⟩⟩
  | token =>
    refine ⟨s.questions, ?_⟩
    cases stopped : s.isCancelled with
    | true =>
      refine .inl ⟨by simp [check, stopped], ?_⟩
      rcases Option.eq_none_or_eq_some s.cancelledFrom with unset | ⟨time, set⟩
      · simp [Session.isCancelled, unset] at stopped
      · have early : time ≤ w.opens i := by
          simpa [Session.isCancelled, set, now] using stopped
        exact ⟨time, set, early.trans (ordered.lasting i), now.trans (max_eq_right early).symm⟩
    | false =>
      refine .inr ⟨by simp [check, stopped], ⟨spared, fun time set => ?_⟩, trivial⟩
      have found : s.cancelledFrom = some time := set
      have later : s.clock < time := by simpa [Session.isCancelled, found] using stopped
      exact now ▸ later.le
  | answers values =>
    have number : s.questions = asked + 2 * i := put
    refine ⟨s.questions + 1, ?_⟩
    cases said : answer values (asked + 2 * i) with
    | true => exact .inl ⟨by simp [check, number, said], .inl ⟨said, now⟩⟩
    | false =>
      exact .inr ⟨by simp [check, number, said], ⟨spared, said⟩, congrArg (· + 1) number⟩

theorem check_closes (entered : k.Entered w asked i s) (put : k.Asked s (asked + 2 * i + 1)) :
    ∃ n time,
      (k.check (s.advance (k.wakeTime (w.closes i) s)) =
          (true, { s with clock := time, questions := n }) ∧
        k.Cut w asked i { s with clock := time, questions := n }) ∨
      (k.check (s.advance (k.wakeTime (w.closes i) s)) =
          (false, { s with clock := time, questions := n }) ∧
        time = w.closes i ∧ k.Spared w asked (i + 1) { s with clock := time, questions := n } ∧
        k.Asked { s with clock := time, questions := n } (asked + 2 * (i + 1))) := by
  obtain ⟨spared, begun⟩ := entered
  cases k with
  | never => exact ⟨s.questions, w.closes i, .inr ⟨rfl, rfl, trivial, trivial⟩⟩
  | token =>
    rcases Option.eq_none_or_eq_some s.cancelledFrom with unset | ⟨time, set⟩
    · refine ⟨s.questions, w.closes i, .inr ⟨?_, rfl, ?_, trivial⟩⟩
      · simp [check, wakeTime, unset, Session.advance, Session.isCancelled]
      · intro time found
        exact absurd (unset.symm.trans found) (by simp)
    · have opened : w.opens i ≤ time := begun time set
      rcases lt_trichotomy time (w.closes i) with early | rfl | late
      · refine ⟨s.questions, time, .inl ⟨?_, time, set, early.le, (max_eq_left opened).symm⟩⟩
        simp [check, wakeTime, set, early, Session.advance, Session.isCancelled]
      · refine ⟨s.questions, w.closes i, .inl ⟨?_, w.closes i, set, le_refl _,
          (max_eq_left opened).symm⟩⟩
        simp [check, wakeTime, set, Session.advance, Session.isCancelled]
      · refine ⟨s.questions, w.closes i, .inr ⟨?_, rfl, ?_, trivial⟩⟩
        · simp [check, wakeTime, set, not_lt_of_gt late, Session.advance, Session.isCancelled, late]
        · intro other found j within
          obtain rfl : time = other := by simpa [set] using found
          rcases Nat.lt_succ_iff_lt_or_eq.mp within with before | rfl
          · exact spared time set j before
          · exact late.le
  | answers values =>
    have number : s.questions = asked + 2 * i + 1 := put
    refine ⟨s.questions + 1, w.closes i, ?_⟩
    cases said : answer values (asked + 2 * i + 1) with
    | true =>
      refine .inl ⟨?_, .inr ⟨begun, said, rfl⟩⟩
      simp [check, wakeTime, Session.advance, number, said]
    | false =>
      refine .inr ⟨by simp [check, wakeTime, Session.advance, number, said], rfl, ?_,
        congrArg (· + 1) number⟩
      intro j within
      rcases Nat.lt_succ_iff_lt_or_eq.mp within with before | rfl
      · exact spared j before
      · exact ⟨begun, said⟩

end Cancellation

end PromptStudio
