import PromptStudio.Session.Run

set_option autoImplicit false

namespace PromptStudio.Run

variable {α β : Type}

theorem bind_eq_ok {x : Run α} {f : α → Run β} {s s' : Session} {b : β} :
    (x >>= f) s = (.ok b, s') ↔ ∃ a between, x s = (.ok a, between) ∧ f a between = (.ok b, s') := by
  rw [bind_apply]
  constructor
  · intro done
    cases first : x s with
    | mk o between =>
      cases o with
      | error f => simp [first] at done
      | ok a => exact ⟨a, between, rfl, by simpa [first] using done⟩
  · rintro ⟨a, between, first, second⟩
    rw [first]
    exact second

theorem pure_eq_ok {a b : α} {s s' : Session} :
    (pure a : Run α) s = (.ok b, s') ↔ a = b ∧ s = s' := by
  simp [pure_apply]

theorem of_eq_ok {o : Outcome α} {a : α} {s s' : Session} :
    of o s = (.ok a, s') ↔ o = .ok a ∧ s = s' := by
  simp [of_apply]

theorem bind_of_ok {x : Run α} {f : α → Run β} {s between : Session} {a : α}
    (first : x s = (.ok a, between)) : (x >>= f) s = f a between := by
  rw [bind_apply, first]

theorem outcome_apply (x : Run α) (s : Session) : x.outcome s = (.ok (x s).1, (x s).2) := rfl

theorem mapFailure_session (f : Failure → Failure) (x : Run α) (s : Session) :
    (x.mapFailure f s).2 = (x s).2 := by
  unfold mapFailure
  split
  next done => rw [done]
  next done => rw [done]

def SendsNothing (x : Run α) : Prop := ∀ s, (x s).2.requests = s.requests

theorem of_sendsNothing (o : Outcome α) : (of o).SendsNothing := fun _ => rfl

theorem SendsNothing.bind {x : Run α} {f : α → Run β} (first : x.SendsNothing)
    (later : ∀ a, (f a).SendsNothing) : (x >>= f).SendsNothing := by
  intro s
  rw [bind_apply]
  cases done : x s with
  | mk o between =>
    have same : between.requests = s.requests := by
      have kept := first s
      rwa [done] at kept
    cases o with
    | error f => exact same
    | ok a => exact (later a between).trans same

end PromptStudio.Run
