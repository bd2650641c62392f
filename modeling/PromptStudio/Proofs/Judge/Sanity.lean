import PromptStudio.Proofs.Entries
import PromptStudio.Proofs.Matrix.Consistency
import PromptStudio.Proofs.Number.Bounds

set_option autoImplicit false

namespace PromptStudio

open Binary64

variable {x : Binary64} {xs : List Binary64} {v : Json} {n : Nat}

-- What compares with nothing fails the first comparison, and becomes 0 like a negative score.
theorem clampScore_within (x : Binary64) : (clampScore x).Within 10 := by
  unfold clampScore
  split
  case isFalse => exact within_zero
  case isTrue positive =>
    split
    case isFalse => exact ⟨10, rfl, by norm_num, by norm_num⟩
    case isTrue small =>
      cases x with
      | nan => simp [below] at positive
      | negativeZero => simp [below, toRat?] at positive
      | infinity negative => cases negative <;> simp [below] at positive small
      | finite q =>
        have positive : 0 < q := of_decide_eq_true positive
        have small : q < 10 := of_decide_eq_true small
        exact ⟨q, rfl, positive.le, by exact_mod_cast small.le⟩

theorem scoreOf_within (scored : scoreOf v = .ok x) : x.Within 10 := by
  obtain ⟨number, -, clamped⟩ := Outcome.bind_eq_ok.mp scored
  cases clamped
  exact clampScore_within _

-- Induction on the summands, with what was summed before them.
theorem foldl_add_within (each : ∀ x ∈ xs, x.Within n) {m : Nat} {sum : Binary64}
    (before : sum.Within m) (small : m + n * xs.length < 2 ^ 53) :
    (xs.foldl add sum).Within (m + n * xs.length) := by
  induction xs generalizing m sum with
  | nil => exact before
  | cons x rest ih =>
    rw [List.length_cons, Nat.mul_succ, Nat.add_comm _ n, ← Nat.add_assoc] at small ⊢
    have next : (sum.add x).Within (m + n) :=
      before.add (each x (List.mem_cons_self ..)) (by omega)
    exact ih (fun y listed => each y (List.mem_cons_of_mem x listed)) next small

theorem total_within (each : ∀ x ∈ xs, x.Within n) (small : n * xs.length < 2 ^ 53) :
    (total xs).Within (n * xs.length) := by
  have summed := foldl_add_within each (within_zero (n := 0)) (by omega)
  rwa [Nat.zero_add] at summed

theorem mean_within (each : ∀ x ∈ xs, x.Within n) (filled : xs ≠ [])
    (small : n * xs.length < 2 ^ 53) : ((total xs).divideBy xs.length).Within n := by
  have positive := List.length_pos_iff.mpr filled
  exact (total_within each small).divideBy positive
    (lt_of_le_of_lt (Nat.le_mul_of_pos_right n positive) small)

theorem meanScore_within (each : ∀ x ∈ xs, x.Within 10) (small : 10 * xs.length < 2 ^ 53) :
    (meanScore xs).Within 10 := by
  unfold meanScore
  split
  case isTrue => exact within_zero
  case isFalse filled =>
    exact (mean_within each (by simpa using filled) small).roundPlaces 1 (by norm_num)

namespace Verdict

variable {v : Verdict} {fields given : Entries Json} {dimensions : Entries Binary64}

/-- A score from 0 to 10 and a reason for each of the four dimensions and for nothing else, and
such a score for all of them. -/
structure Sane (v : Verdict) : Prop where
  dimensions : Entries.keys v.dimensions = judgeDimensions
  scores : ∀ entry ∈ v.dimensions, entry.2.Within 10
  justifications : Entries.keys v.justifications = judgeDimensions
  composite : v.composite.Within 10

theorem keys_forDimensions {α : Type} (value : String → α) :
    Entries.keys (judgeDimensions.map fun d => (d, value d)) = judgeDimensions := by
  rw [Entries.keys, List.map_map]
  exact List.map_id _

theorem scores_within {ds : List String}
    (scored : (ds.mapM fun d => do
      return (d, ← scoreOf ((Entries.get? given d).getD .null))) = .ok dimensions) :
    Entries.keys dimensions = ds ∧ ∀ entry ∈ dimensions, entry.2.Within 10 := by
  induction ds generalizing dimensions with
  | nil =>
    cases scored
    exact ⟨rfl, by simp⟩
  | cons d rest ih =>
    rw [List.mapM_cons] at scored
    obtain ⟨first, one, scored⟩ := Outcome.bind_eq_ok.mp scored
    obtain ⟨x, score, one⟩ := Outcome.bind_eq_ok.mp one
    obtain ⟨others, later, all⟩ := Outcome.bind_eq_ok.mp scored
    cases one
    cases all
    obtain ⟨keys, within⟩ := ih later
    exact ⟨congrArg (d :: ·) keys,
      List.forall_mem_cons.mpr ⟨scoreOf_within score, within⟩⟩

theorem meanOf_within (keys : Entries.keys dimensions = judgeDimensions)
    (scores : ∀ entry ∈ dimensions, entry.2.Within 10) :
    (meanScore (dimensions.map (·.2))).Within 10 := by
  have four : dimensions.length = 4 := by
    simpa [Entries.keys, judgeDimensions] using congrArg List.length keys
  refine meanScore_within ?_ (by rw [List.length_map, four]; norm_num)
  simpa only [List.forall_mem_map] using scores

theorem compositeIn_within {held : Json} (keys : Entries.keys dimensions = judgeDimensions)
    (scores : ∀ entry ∈ dimensions, entry.2.Within 10)
    (summed : compositeIn held dimensions = .ok x) : x.Within 10 := by
  have mean := meanOf_within keys scores
  unfold compositeIn at summed
  split at summed
  case h_1 => cases summed; exact mean
  case h_2 => cases summed; exact mean
  case h_3 =>
    obtain ⟨score, scored, rounded⟩ := Outcome.bind_eq_ok.mp summed
    cases rounded
    exact (scoreOf_within scored).roundPlaces 1 (by norm_num)

theorem ofFields_sane (made : ofFields fields = .ok v) : v.Sane := by
  obtain ⟨given, -, made⟩ := Outcome.bind_eq_ok.mp made
  obtain ⟨dimensions, scored, made⟩ := Outcome.bind_eq_ok.mp made
  obtain ⟨notes, -, made⟩ := Outcome.bind_eq_ok.mp made
  obtain ⟨composite, summed, made⟩ := Outcome.bind_eq_ok.mp made
  cases made
  obtain ⟨keys, scores⟩ := scores_within scored
  constructor
  case dimensions => exact keys
  case scores => exact scores
  case justifications => exact keys_forDimensions _
  case composite => exact compositeIn_within keys scores summed

theorem ofReply_sane {reply : Json} (made : ofReply reply = .ok v) : v.Sane := by
  obtain ⟨decoded, -, made⟩ := Outcome.bind_eq_ok.mp made
  cases decoded with
  | obj fields => exact ofFields_sane made
  | _ => exact nomatch made

theorem Sane.score (sane : v.Sane) (d : String) : (v.score d).Within 10 := by
  unfold Verdict.score
  cases found : Entries.get? v.dimensions d with
  | none => exact within_zero
  | some x => exact sane.scores (d, x) (Entries.mem_of_get? found)

theorem average_sane {panel : List (String × Verdict)} (sane : ∀ entry ∈ panel, entry.2.Sane)
    (filled : panel ≠ []) (small : 10 * panel.length < 2 ^ 53) :
    ∃ v, average panel = .ok v ∧ v.Sane := by
  have scores : ∀ entry ∈ judgeDimensions.map (fun d =>
      (d, ((total (panel.map (·.2.score d))).divideBy panel.length).roundPlaces 2)),
      entry.2.Within 10 := by
    simp only [List.forall_mem_map]
    intro d _
    have each : ∀ x ∈ panel.map (·.2.score d), x.Within 10 := by
      simpa only [List.forall_mem_map] using fun entry listed => (sane entry listed).score d
    have mean := mean_within each (by simpa using filled) (by rwa [List.length_map])
    rw [List.length_map] at mean
    exact mean.roundPlaces 2 (by norm_num)
  refine ⟨_, by rw [average, if_neg (by simpa using filled)], ?_⟩
  constructor
  case dimensions => exact keys_forDimensions _
  case scores => exact scores
  case justifications => exact keys_forDimensions _
  case composite => exact meanOf_within (keys_forDimensions _) scores

theorem zero_sane (reason : String) : (zero reason).Sane := by
  constructor
  case dimensions => exact keys_forDimensions _
  case scores =>
    simp only [zero, List.forall_mem_map]
    exact fun _ _ => within_zero
  case justifications => exact keys_forDimensions _
  case composite => exact within_zero

end Verdict

namespace Hearing

variable {strict style : Outcome Verdict} {v : Verdict} {call : Call}

theorem verdict_sane {text : Outcome String} (given : verdict call text = .ok v) : v.Sane := by
  cases text with
  | error f => exact nomatch given
  | ok text => exact Verdict.ofReply_sane given

theorem joined_sane (first : ∀ v, strict = .ok v → v.Sane) (second : ∀ v, style = .ok v → v.Sane)
    (both : joined strict style = .ok v) : v.Sane := by
  obtain ⟨a, strict, both⟩ := Outcome.bind_eq_ok.mp both
  obtain ⟨b, style, both⟩ := Outcome.bind_eq_ok.mp both
  have panel : ∀ entry ∈ [("Strict", a), ("Style", b)], entry.2.Sane := by
    simpa using ⟨first a strict, second b style⟩
  obtain ⟨mean, averaged, sane⟩ := Verdict.average_sane panel (by simp) (by simp)
  rw [averaged] at both
  cases both
  exact sane

theorem single_sane {h : Hearing} {settings : Settings} {s s' : Session}
    (heard : h.single settings s = (.ok v, s')) : v.Sane := by
  obtain ⟨call, _, -, heard⟩ := Run.bind_eq_ok.mp heard
  obtain ⟨text, _, -, heard⟩ := Run.bind_eq_ok.mp heard
  obtain ⟨given, -⟩ := Run.of_eq_ok.mp heard
  exact verdict_sane given

theorem dual_sane {h : Hearing} {settings : Settings} {s s' : Session}
    (heard : h.dual settings s = (.ok v, s')) : v.Sane := by
  obtain ⟨strict, _, -, heard⟩ := Run.bind_eq_ok.mp heard
  obtain ⟨style, _, -, heard⟩ := Run.bind_eq_ok.mp heard
  obtain ⟨⟨first, second⟩, _, -, heard⟩ := Run.bind_eq_ok.mp heard
  obtain ⟨both, -⟩ := Run.of_eq_ok.mp heard
  exact joined_sane (fun _ => verdict_sane) (fun _ => verdict_sane) both

theorem evaluate_sane {h : Hearing} {settings : Settings} {s s' : Session}
    {evaluation : Evaluation} (heard : h.evaluate settings s = (.ok evaluation, s')) :
    evaluation.verdict.Sane := by
  unfold evaluate at heard
  by_cases dual : h.options.dual = true
  case pos =>
    rw [if_pos dual] at heard
    obtain ⟨v, _, given, made⟩ := Run.bind_eq_ok.mp heard
    obtain ⟨rfl, -⟩ := Run.pure_eq_ok.mp made
    exact dual_sane given
  case neg =>
    rw [if_neg dual] at heard
    obtain ⟨v, _, given, made⟩ := Run.bind_eq_ok.mp heard
    obtain ⟨rfl, -⟩ := Run.pure_eq_ok.mp made
    exact single_sane given

end Hearing

def CellResult.Sane (r : CellResult) : Prop :=
  ∀ evaluation, r.evaluation = some evaluation → evaluation.verdict.Sane

namespace Experiment

variable {e : Experiment} {c : Combo} {r r' : CellResult} {s s' : Session}

theorem evaluation_sane (e : Experiment) (h : Hearing) (s : Session) :
    ∃ evaluation s', e.evaluation h s = (.ok evaluation, s') ∧ evaluation.verdict.Sane := by
  rw [evaluation, Run.bind_of_ok (Run.outcome_apply (h.evaluate e.settings) s)]
  cases heard : h.evaluate e.settings s with
  | mk outcome s' =>
    cases outcome with
    | ok evaluation => exact ⟨evaluation, s', rfl, Hearing.evaluate_sane heard⟩
    | error f => exact ⟨_, s', rfl, Verdict.zero_sane f.message⟩

theorem judged_sane {keys : Keys} {output : String} (sane : r.Sane)
    (done : e.judged keys r output s = (.ok r', s')) : r'.Sane := by
  unfold judged at done
  cases judge : e.judge? with
  | none =>
    rw [judge] at done
    obtain ⟨rfl, -⟩ := Run.pure_eq_ok.mp done
    exact sane
  | some model =>
    rw [judge] at done
    obtain ⟨exhibit, shown, -, done⟩ := Run.bind_eq_ok.mp done
    obtain ⟨given, _, heard, done⟩ := Run.bind_eq_ok.mp done
    obtain ⟨rfl, -⟩ := Run.pure_eq_ok.mp done
    obtain ⟨evaluation, _, same, fair⟩ := evaluation_sane e (e.hearing model keys exhibit) shown
    rw [same] at heard
    cases heard
    rintro _ ⟨rfl⟩
    exact fair

theorem executed_sane (sane : r.Sane) (done : e.executed r s = (.ok r', s')) : r'.Sane := by
  unfold executed at done
  cases executor : e.executor? with
  | none =>
    rw [executor] at done
    obtain ⟨rfl, -⟩ := Run.pure_eq_ok.mp done
    exact sane
  | some chosen =>
    obtain ⟨model, keys⟩ := chosen
    rw [executor] at done
    by_cases blank : (r.blueprint == "") = true
    case pos =>
      simp only [blank, if_true] at done
      obtain ⟨rfl, -⟩ := Run.pure_eq_ok.mp done
      exact sane
    case neg =>
      simp only [blank] at done
      obtain ⟨outcome, _, -, done⟩ := Run.bind_eq_ok.mp done
      cases outcome with
      | error f =>
        obtain ⟨rfl, -⟩ := Run.pure_eq_ok.mp done
        exact sane
      | ok output =>
        have before : CellResult.Sane
            { r with execution := some output, executionModel := some model } := sane
        exact judged_sane before done

theorem result_sane (e : Experiment) (c : Combo) (s : Session) : (e.result c s).Sane := by
  cases done : e.runCell c s with
  | mk outcome s' =>
    rw [result, done]
    cases outcome with
    | error f =>
      intro _ held
      cases held
    | ok r =>
      obtain ⟨_, _, -, done⟩ := Run.bind_eq_ok.mp done
      refine executed_sane ?_ done
      intro _ held
      cases held

end Experiment

theorem runMatrix_sane {e : Experiment} {m : MatrixRequest} {observe : Observer} {s s' : Session}
    {results : List CellResult} (ran : runMatrix e m observe s = (.ok results, s')) :
    ∀ r ∈ results, r.Sane := by
  intro r listed
  obtain ⟨cells, -, ⟨-, rfl, -⟩ | ⟨-, -, toggles, models, -, cellsRan⟩⟩ := runMatrix_cases ran
  · simp at listed
  · obtain ⟨c, start, rfl⟩ := Experiment.mem_runCells cellsRan r listed
    exact Experiment.result_sane _ c start

theorem evaluations_sane :
    (∀ (reply : Json) (v : Verdict), Verdict.ofReply reply = .ok v → v.Sane) ∧
    (∀ panel : List (String × Verdict), panel ≠ [] → panel.length ≤ 2 ^ 49 →
      (∀ entry ∈ panel, entry.2.Sane) → ∃ v, Verdict.average panel = .ok v ∧ v.Sane) ∧
    (∀ reason : String, (Verdict.zero reason).Sane) ∧
    (∀ (h : Hearing) (settings : Settings) (s s' : Session) (evaluation : Evaluation),
      h.evaluate settings s = (.ok evaluation, s') → evaluation.verdict.Sane) ∧
    (∀ (e : Experiment) (h : Hearing) (s : Session), ∃ evaluation s',
      e.evaluation h s = (.ok evaluation, s') ∧ evaluation.verdict.Sane) ∧
    (∀ (e : Experiment) (m : MatrixRequest) (observe : Observer) (s s' : Session)
      (results : List CellResult), runMatrix e m observe s = (.ok results, s') →
        ∀ r ∈ results, r.Sane) := by
  refine ⟨fun _ _ => Verdict.ofReply_sane, ?_, Verdict.zero_sane,
    fun _ _ _ _ _ => Hearing.evaluate_sane, Experiment.evaluation_sane,
    fun _ _ _ _ _ _ => runMatrix_sane⟩
  intro panel filled small sane
  exact Verdict.average_sane sane filled (by omega)

def wildReply : Json :=
  .obj [("dimensions", .obj
      [("instructionAdherence", .str " NaN "), ("toneAudience", .float (.finite (-3 / 2))),
        ("taskQuality", .obj [("score", .str "Infinity"), ("feedback", .str "bold")]),
        ("structureFormat", .bool true)]),
    ("composite", .obj [("score", .str "7.46")])]

def pairHearing : Hearing where
  model := "gpt-4o"
  credentials := .obj [("openai", .str "key")]
  prompt := "Judge this."
  options := { dual := true }

def pairSession : Session :=
  { providers :=
      [{ answer := .ok { text := some "\x7b\"dimensions\": \x7b\"taskQuality\": 1e3\x7d\x7d" } },
        { answer := .ok { text := some "\x7b\"dimensions\": \x7b\"taskQuality\": -1\x7d\x7d" } }] }

theorem evaluations_sane_wild :
    (∃ v, Verdict.ofReply wildReply = .ok v ∧
      v.dimensions = [("instructionAdherence", .finite 0), ("taskQuality", .finite 10),
        ("structureFormat", .finite 0), ("toneAudience", .finite 0)] ∧
      v.composite = .finite (15 / 2) ∧ v.Sane ∧
      ∃ mean, Verdict.average [("Strict", v), ("Style", .zero "late")] = .ok mean ∧ mean.Sane) ∧
    (∃ evaluation s', pairHearing.evaluate {} pairSession = (.ok evaluation, s') ∧
      evaluation.verdict.score "taskQuality" = .finite 5 ∧ evaluation.verdict.Sane) ∧
    ∃ first second s', runMatrix poemExperiment poemMatrix .silent poemSession =
        (.ok [first, second], s') ∧
      first.evaluation ≠ none ∧ ∀ r ∈ [first, second], r.Sane := by
  obtain ⟨replies, panels, zeros, hearings, -, matrices⟩ := evaluations_sane
  have read : ∃ v, Verdict.ofReply wildReply = .ok v ∧
      v.dimensions = [("instructionAdherence", .finite 0), ("taskQuality", .finite 10),
        ("structureFormat", .finite 0), ("toneAudience", .finite 0)] ∧
      v.composite = .finite (15 / 2) := ⟨_, rfl, by decide +kernel, by decide +kernel⟩
  have heard : ∃ evaluation s', pairHearing.evaluate {} pairSession = (.ok evaluation, s') ∧
      evaluation.verdict.score "taskQuality" = .finite 5 := by
    have scored : (pairHearing.evaluate {} pairSession).1.toOption.map
        (·.verdict.score "taskQuality") = some (.finite 5) := by decide +kernel
    rcases judged : pairHearing.evaluate {} pairSession with ⟨f | evaluation, s'⟩
    · rw [judged] at scored
      cases scored
    · rw [judged] at scored
      exact ⟨evaluation, s', rfl, Option.some.inj scored⟩
  have course : ∃ first second s', runMatrix poemExperiment poemMatrix .silent poemSession =
      (.ok [first, second], s') ∧ first.evaluation ≠ none := ⟨_, _, _, rfl, nofun⟩
  obtain ⟨v, made, dimensions, composite⟩ := read
  obtain ⟨evaluation, s', judged, score⟩ := heard
  obtain ⟨first, second, after, ran, there⟩ := course
  have sane : v.Sane := replies wildReply v made
  exact ⟨⟨v, made, dimensions, composite, sane,
      panels [("Strict", v), ("Style", .zero "late")] (by simp) (by simp)
        (by simpa using ⟨sane, zeros "late"⟩)⟩,
    ⟨evaluation, s', judged, score, hearings _ _ _ _ _ judged⟩,
    first, second, after, ran, there, matrices _ _ _ _ _ _ ran⟩

end PromptStudio
