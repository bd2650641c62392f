import PromptStudio.Proofs.Gateway.Phases

set_option autoImplicit false

namespace PromptStudio

variable {s : Session}

theorem Exchange.arrive_once {x : Exchange String} (once : x.line.retries = false)
    (land : Run String) : x.arrive land s = (x.finished (land s).1, (land s).2) := by
  rw [Exchange.arrive]
  cases landed : land s with
  | mk o later =>
    cases o with
    | ok text => rfl
    | error f =>
      have final : x.triesAgain f = false := by simp [Exchange.triesAgain, once]
      simp only [final]
      rfl

theorem Line.run_once {l : Line String} (once : l.retries = false) (s : Session) :
    l.run s =
      (l.send s).1.land ((l.send s).2.advance ((l.send s).2.clock + (l.send s).1.seconds)) := by
  obtain ⟨x, departed, line, due, phase⟩ : ∃ x, (l.start s).step s = (x, (l.send s).2) ∧
      x.line = l ∧ x.due = (l.send s).2.clock + (l.send s).1.seconds ∧
      x.phase = .flying (l.send s).1.land := ⟨_, rfl, rfl, rfl, rfl⟩
  have flying : x.isOver = false := by simp [Exchange.isOver, phase]
  have landed : x.step (l.send s).2 =
      x.arrive (l.send s).1.land ((l.send s).2.advance x.due) := by
    simp only [Exchange.step, Exchange.wake, phase]
  rw [x.arrive_once (line ▸ once)] at landed
  have ended (o : Outcome String) : (x.finished o).isOver = true := rfl
  unfold Line.run
  rw [show Exchange.stepLimit = 16 + 1 + 1 from rfl, Call.steps_succ rfl, departed,
    Call.steps_succ flying, landed, Call.steps_over (ended _), due]
  rfl

namespace Call

open Attempt

variable {c : Call} {settings : Settings} {reply : ProviderReply}

theorem run_answered (openai : c.provider = .openai) (k : Cancellation)
    (time : timed settings.requestSeconds = true)
    (answer : (s.settle.providers.entry {} s.settle.requests.length).answer = .ok reply)
    (early : settings.requestSeconds.below
      (.ofRat (s.settle.providers.entry {} s.settle.requests.length).delay) = false) :
    (c.run settings k s).1 = .ok (reply.text.getD "") := by
  have once : (c.line settings k).retries = false := by simp [line, openai]
  have lands (s : Session) : (c.accept reply s).1 = .ok (reply.text.getD "") := by
    rw [accept_outcome, textOf, openai]
  have flight : (c.send settings.requestSeconds s).1.land = c.accept reply := by
    rw [send_timed c time, Call.flight, early]
    simp [settled, answer]
  have landed : ((c.line settings k).run s).1 = .ok (reply.text.getD "") := by
    rw [Line.run_once once]
    change ((c.send settings.requestSeconds s).1.land _).1 = _
    rw [flight]
    exact lands _
  rw [run, Run.mapFailure]
  cases ran : (c.line settings k).run s with
  | mk o later =>
    rw [ran] at landed
    obtain rfl : o = .ok (reply.text.getD "") := landed
    rfl

end Call

end PromptStudio
