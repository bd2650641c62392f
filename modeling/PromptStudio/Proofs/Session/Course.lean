import PromptStudio.Proofs.Session.Landings

set_option autoImplicit false

/-!
# The course of an exchange

An exchange makes at most six attempts. What each but the last comes to is tried again, and the last
one says how the exchange ends, unless the rest after it is cut. Every step takes an exchange that is
not over closer to its end, whatever happens in the session between two steps.
-/

namespace PromptStudio

variable {α : Type} {l : Line α} {x : Exchange α} {s : Session} {o : Outcome α}
  {tries earlier : List (Outcome α)}

theorem retryLimit_le (f : Failure) : retryLimit f ≤ 5 := by
  unfold retryLimit
  split
  next => split <;> decide
  next => exact Nat.le_refl 5

namespace Line

def Again (l : Line α) (n : Nat) (o : Outcome α) : Prop :=
  ∃ f, o = .error f ∧ l.retries = true ∧ f.isRetryable = true ∧ n ≤ retryLimit f

def Repeated (l : Line α) (tries : List (Outcome α)) : Prop :=
  ∀ i o, tries[i]? = some o → l.Again (i + 1) o

/-- The last attempt is how an exchange ends, or the rest after it is cut. -/
inductive CameTo (l : Line α) : List (Outcome α) → Outcome α → Prop where
  | ended (earlier : List (Outcome α)) (o : Outcome α) (repeated : l.Repeated earlier)
      (final : ¬l.Again (earlier.length + 1) o) : CameTo l (earlier ++ [o]) o
  | cut (earlier : List (Outcome α)) (last o : Outcome α)
      (repeated : l.Repeated (earlier ++ [last])) (cut : Exchange.IsCut o) :
      CameTo l (earlier ++ [last]) o

theorem Repeated.nil (l : Line α) : l.Repeated [] := by
  intro i o found
  simp at found

theorem Repeated.snoc (repeated : l.Repeated earlier) (again : l.Again (earlier.length + 1) o) :
    l.Repeated (earlier ++ [o]) := by
  intro i held found
  rcases Nat.lt_trichotomy i earlier.length with before | rfl | after
  · rw [List.getElem?_append_left before] at found
    exact repeated i held found
  · obtain rfl : o = held := by simpa using found
    exact again
  · rw [List.getElem?_eq_none (by simp; omega)] at found
    cases found

-- No failure is tried again after the sixth attempt.
theorem Repeated.length_le (repeated : l.Repeated tries) : tries.length ≤ 5 := by
  refine Nat.le_of_not_lt fun more => ?_
  obtain ⟨f, -, -, -, within⟩ := repeated 5 tries[5] (List.getElem?_eq_getElem more)
  have most := retryLimit_le f
  omega

theorem CameTo.length_pos (came : l.CameTo tries o) : 1 ≤ tries.length := by
  cases came <;> simp

theorem CameTo.length_le (came : l.CameTo tries o) : tries.length ≤ 6 := by
  cases came with
  | ended earlier o repeated final =>
    have most := repeated.length_le
    simp only [List.length_append, List.length_singleton]
    omega
  | cut earlier last o repeated cut =>
    have most := repeated.length_le
    omega

theorem CameTo.of_first {first : Outcome α} {rest : List (Outcome α)}
    (came : l.CameTo (first :: rest) o) (final : ¬l.Again 1 first) : rest = [] ∧ o = first := by
  generalize held : first :: rest = tries at came
  cases came with
  | ended earlier o repeated decisive =>
    cases earlier with
    | nil =>
      obtain ⟨rfl, rfl⟩ : first = o ∧ rest = [] := by simpa using held
      exact ⟨rfl, rfl⟩
    | cons attempt others =>
      obtain ⟨rfl, -⟩ := List.cons.inj held
      exact absurd (repeated 0 first rfl) final
  | cut earlier last o repeated cut =>
    exact absurd (repeated 0 first (by rw [← held]; rfl)) final

end Line

namespace Exchange

/-- What is so in each phase after these attempts. A flight has its outcome from the start. -/
inductive Stage (l : Line α) : List (Outcome α) → Phase α → Prop where
  | ready {tries : List (Outcome α)} (repeated : l.Repeated tries) : Stage l tries .ready
  | flying {earlier : List (Outcome α)} {o : Outcome α} {land : Run α}
      (repeated : l.Repeated earlier) (lands : ∀ s, (land s).1 = o) :
      Stage l (earlier ++ [o]) (.flying land)
  | resting {earlier : List (Outcome α)} {last : Outcome α}
      (repeated : l.Repeated (earlier ++ [last])) : Stage l (earlier ++ [last]) .resting
  | ended {tries : List (Outcome α)} {o : Outcome α} (came : l.CameTo tries o) :
      Stage l tries (.ended o)

structure Course (l : Line α) (tries : List (Outcome α)) (x : Exchange α) : Prop where
  line : x.line = l
  sent : x.sent = tries.length
  stage : Stage l tries x.phase

theorem Course.start (l : Line α) (s : Session) : (l.start s).Course l [] :=
  ⟨rfl, rfl, .ready (.nil l)⟩

theorem triesAgain_iff_again (line : x.line = l) (f : Failure) :
    x.triesAgain f = true ↔ l.Again x.sent (.error f) := by
  subst line
  simp [triesAgain, Line.Again, and_assoc]

section Steps

theorem Course.depart (course : x.Course l tries) (phase : x.phase = .ready)
    (lands : ∀ t, ((l.send s).1.land t).1 = o) : (x.depart s).1.Course l (tries ++ [o]) := by
  obtain ⟨line, sent, stage⟩ := course
  rw [phase] at stage
  cases stage with
  | ready repeated =>
    constructor
    case line => exact line
    case sent => simp only [Exchange.depart, sent, List.length_append, List.length_singleton]
    case stage =>
      subst line
      exact .flying repeated lands

theorem Course.lieDown {last : Outcome α} (line : x.line = l)
    (sent : x.sent = (earlier ++ [last]).length) (repeated : l.Repeated (earlier ++ [last]))
    (s : Session) : (x.lieDown s).1.Course l (earlier ++ [last]) := by
  unfold Exchange.lieDown
  split
  next => exact ⟨line, sent, .ended (.cut earlier last _ repeated ⟨_, rfl⟩)⟩
  next => exact ⟨line, sent, .resting repeated⟩

theorem Course.arrive {land : Run α} (course : x.Course l tries) (phase : x.phase = .flying land)
    (s : Session) : (x.arrive land s).1.Course l tries := by
  obtain ⟨line, sent, stage⟩ := course
  rw [phase] at stage
  cases stage with
  | @flying earlier o land repeated lands =>
    have outcome := lands s
    have number : x.sent = earlier.length + 1 := by simpa using sent
    unfold Exchange.arrive
    split
    next a after landed =>
      rw [landed] at outcome
      subst outcome
      have final : ¬l.Again (earlier.length + 1) (.ok a) := by
        rintro ⟨f, failed, -⟩
        cases failed
      exact ⟨line, sent, .ended (.ended earlier _ repeated final)⟩
    next f after landed =>
      rw [landed] at outcome
      subst outcome
      have again := triesAgain_iff_again line f
      rw [number] at again
      split
      next tries => exact Course.lieDown line sent (repeated.snoc (again.mp tries)) after
      next tries =>
        have final : ¬l.Again (earlier.length + 1) (.error f) := fun held => tries (again.mpr held)
        exact ⟨line, sent, .ended (.ended earlier _ repeated final)⟩

theorem Course.getUp (course : x.Course l tries) (phase : x.phase = .resting) (s : Session) :
    (x.getUp s).1.Course l tries := by
  obtain ⟨line, sent, stage⟩ := course
  rw [phase] at stage
  cases stage with
  | @resting earlier last repeated =>
    unfold Exchange.getUp
    split
    next => exact ⟨line, sent, .ended (.cut earlier last _ repeated ⟨_, rfl⟩)⟩
    next => exact ⟨line, sent, .ready repeated⟩

-- Only a departure is another attempt.
theorem Course.step (course : x.Course l tries) (going : x.isOver = false) (s : Session) :
    (x.phase = .ready ∧ x.step s = x.depart (s.advance (x.wake s))) ∨
      (x.phase ≠ .ready ∧ (x.step s).1.Course l tries) := by
  cases phase : x.phase with
  | ready => exact .inl ⟨rfl, by simp only [Exchange.step, phase]⟩
  | flying land =>
    refine .inr ⟨nofun, ?_⟩
    simp only [Exchange.step, phase]
    exact course.arrive phase _
  | resting =>
    refine .inr ⟨nofun, ?_⟩
    simp only [Exchange.step, phase]
    exact course.getUp phase _
  | ended o => simp [isOver, phase] at going

end Steps

section Ending

def left (x : Exchange α) : Nat :=
  match x.phase with
  | .ready => 3 * (6 - x.sent)
  | .flying _ => 3 * (6 - x.sent) + 2
  | .resting => 3 * (6 - x.sent) + 1
  | .ended _ => 0

theorem left_start (l : Line α) (s : Session) : (l.start s).left = stepLimit := rfl

theorem left_lieDown (x : Exchange α) (s : Session) : (x.lieDown s).1.left ≤ 3 * (6 - x.sent) + 1 := by
  unfold Exchange.lieDown
  split
  next => exact Nat.zero_le _
  next => exact Nat.le_refl _

theorem left_arrive (x : Exchange α) (land : Run α) (s : Session) :
    (x.arrive land s).1.left ≤ 3 * (6 - x.sent) + 1 := by
  unfold Exchange.arrive
  split
  next => exact Nat.zero_le _
  next =>
    split
    next => exact left_lieDown x _
    next => exact Nat.zero_le _

theorem left_getUp (x : Exchange α) (s : Session) : (x.getUp s).1.left ≤ 3 * (6 - x.sent) := by
  unfold Exchange.getUp
  split
  next => exact Nat.zero_le _
  next => exact Nat.le_refl _

-- An exchange that is ready has made five attempts at most, so there is one left to make.
theorem Course.left_step (course : x.Course l tries) (going : x.isOver = false) (s : Session) :
    (x.step s).1.left < x.left := by
  obtain ⟨-, sent, stage⟩ := course
  unfold Exchange.step
  cases phase : x.phase with
  | ready =>
    rw [phase] at stage
    cases stage with
    | ready repeated =>
      have few := repeated.length_le
      have more : (x.depart (s.advance (x.wake s))).1.left = 3 * (6 - (x.sent + 1)) + 2 := rfl
      have now : x.left = 3 * (6 - x.sent) := by simp only [left, phase]
      dsimp only
      omega
  | flying land =>
    have now : x.left = 3 * (6 - x.sent) + 2 := by simp only [left, phase]
    have after := left_arrive x land (s.advance (x.wake s))
    dsimp only
    omega
  | resting =>
    have now : x.left = 3 * (6 - x.sent) + 1 := by simp only [left, phase]
    have after := left_getUp x (s.advance (x.wake s))
    dsimp only
    omega
  | ended o => simp [isOver, phase] at going

theorem Course.isOver (course : x.Course l tries) (done : x.left = 0) : x.isOver = true := by
  obtain ⟨-, sent, stage⟩ := course
  cases phase : x.phase with
  | ready =>
    rw [phase] at stage
    cases stage with
    | ready repeated =>
      have few := repeated.length_le
      simp only [left, phase] at done
      omega
  | flying land => simp [left, phase] at done
  | resting => simp [left, phase] at done
  | ended o => simp only [Exchange.isOver, phase]

theorem Course.result (course : x.Course l tries) (done : x.isOver = true) :
    l.CameTo tries x.result := by
  obtain ⟨-, -, stage⟩ := course
  unfold Exchange.isOver at done
  unfold Exchange.result
  cases phase : x.phase with
  | ended o =>
    rw [phase] at stage
    cases stage with
    | ended came => exact came
  | ready => simp [phase] at done
  | flying land => simp [phase] at done
  | resting => simp [phase] at done

end Ending

end Exchange

end PromptStudio
