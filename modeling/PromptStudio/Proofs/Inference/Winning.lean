import PromptStudio.Proofs.Inference.Certainty
import PromptStudio.Proofs.Inference.Occurrences
import PromptStudio.Proofs.Number.Magnitude
import PromptStudio.Proofs.Number.Order

set_option autoImplicit false

namespace PromptStudio

namespace Binary64

variable {b : Rat} {x : Binary64}

theorem AtLeast.positive (least : x.AtLeast b) (above : 0 < b) : x.Positive := by
  rcases least with rfl | ⟨q, rfl, le⟩
  · exact positive_iff.mpr (.inl rfl)
  · exact positive_iff.mpr (.inr ⟨q, rfl, above.trans_le le⟩)

theorem Positive.number (positive : x.Positive) : x ≠ .nan := (numbers_of_below positive).2

end Binary64

theorem earliness_within {position length : Nat} (inside : position < length) :
    (earliness position length).Within 1 := by
  have filled : (0 : Rat) < length := by exact_mod_cast Nat.zero_lt_of_lt inside
  have share : (position : Rat) / length ≤ (1 : Nat) := by
    rw [Nat.cast_one, div_le_one filled]
    exact_mod_cast inside.le
  have late : (Binary64.ofRat ((position : Rat) / length)).Within 1 :=
    Binary64.ofRat_within (div_nonneg position.cast_nonneg filled.le) share (by norm_num)
  exact late.complement

theorem occurrenceWorth_eq :
    occurrenceWorth = .finite (3602879701896397 / 18014398509481984) := by
  decide +kernel

namespace Row

variable {row : Row} {text : List Char} {score : Binary64}

def OccursIn (row : Row) (text : List Char) : Prop :=
  ∃ position, Phrase.OccursAt row.phrases text position

/-- What the row scores: for the first occurrence how early it is, and a worth for each one. -/
def Scores (row : Row) (text : List Char) (score : Binary64) : Prop :=
  ∃ first more, Phrase.Scan row.phrases [] text (first :: more) ∧
    score = (earliness first text.length).add
      (occurrenceWorth.mul (Binary64.ofRat ((more.length + 1 : Nat) : Rat)))

section Solid

variable (solid : ∀ phrase ∈ row.phrases, phrase.isSolid = true)
include solid

theorem score?_eq_some_iff : row.score? text = some score ↔ row.Scores text score := by
  simp only [Scores, Phrase.scan_iff solid]
  unfold score?
  split
  next silent => simp [silent]
  next first more found => simp [found, eq_comm]

theorem exists_scores_iff : (∃ score, row.Scores text score) ↔ row.OccursIn text := by
  constructor
  next =>
    rintro ⟨score, first, more, scan, -⟩
    exact ⟨first, scan.occursAt List.mem_cons_self⟩
  next =>
    rintro ⟨position, occurs⟩
    have scan := Phrase.scan_found solid [] text
    obtain ⟨first, head, -⟩ := scan.first_le solid occurs (Nat.zero_le position)
    obtain ⟨more, found⟩ := List.head?_eq_some_iff.mp head
    rw [found] at scan
    exact ⟨_, first, more, scan, rfl⟩

theorem score?_eq_none_iff : row.score? text = none ↔ ¬row.OccursIn text := by
  rw [← exists_scores_iff solid, ← not_iff_not, not_not, ← Ne, Option.ne_none_iff_exists']
  exact exists_congr fun score => score?_eq_some_iff solid

-- A fifth for the first occurrence alone, whatever the roundings take away.
theorem Scores.positive (scores : row.Scores text score) : score.Positive := by
  obtain ⟨first, more, scan, rfl⟩ := scores
  have inside : first < text.length := (scan.occursAt List.mem_cons_self).lt_length solid
  have one : (1 : Rat) ≤ ((more.length + 1 : Nat) : Rat) := by exact_mod_cast Nat.le_add_left 1 _
  have small : Binary64.leastUnit ≤ 1 / 64 :=
    (Binary64.leastUnit_le_pow (by norm_num : -1074 ≤ (-6 : Int))).trans (by norm_num)
  have count : (Binary64.ofRat ((more.length + 1 : Nat) : Rat)).AtLeast (1 / 2) :=
    Binary64.ofRat_atLeast (small.trans (by linarith)) one
  rw [occurrenceWorth_eq]
  have worth := count.scaled (p := 3602879701896397 / 18014398509481984) (by norm_num)
    (small.trans (by norm_num))
  have total := worth.add (earliness_within inside) (small.trans (by norm_num))
  exact total.positive (by norm_num)

end Solid

end Row

namespace Finding

variable {scores : Row → Binary64 → Prop} {rows : List Row} {f : Finding} {row : Row}

/-- The finding is of a row that scores, and of such rows those before it score less and those behind
it no more. -/
def Wins (scores : Row → Binary64 → Prop) (rows : List Row) (f : Finding) : Prop :=
  ∃ before row after, rows = before ++ row :: after ∧ row.value = f.value ∧ scores row f.score ∧
    (∀ r ∈ before, ∀ x, scores r x → x.below f.score = true) ∧
    ∀ r ∈ after, ∀ x, scores r x → f.score.below x = false

theorem Wins.keeps (wins : f.Wins scores rows)
    (lower : ∀ x, scores row x → f.score.below x = false) : f.Wins scores (rows ++ [row]) := by
  obtain ⟨before, winner, after, rfl, value, scored, less, noMore⟩ := wins
  refine ⟨before, winner, after ++ [row], by simp, value, scored, less, ?_⟩
  intro r behind
  rcases List.mem_append.mp behind with old | new
  · exact noMore r old
  · obtain rfl := List.mem_singleton.mp new
    exact lower

theorem Wins.no_more {score? : Row → Option Binary64}
    (wins : f.Wins (fun r x => score? r = some x) rows) :
    ∀ r ∈ rows, ∀ x, score? r = some x → f.score.below x = false := by
  obtain ⟨before, winner, after, rfl, value, scored, less, noMore⟩ := wins
  intro r inside x own
  rcases List.mem_append.mp inside with earlier | later
  · exact Binary64.below_asymm (less r earlier x own)
  rcases List.mem_cons.mp later with rfl | later
  · obtain rfl : f.score = x := Option.some.inj (scored.symm.trans own)
    exact Binary64.below_irrefl f.score
  · exact noMore r later x own

theorem Wins.scored (wins : f.Wins scores rows) : ∃ row ∈ rows, scores row f.score := by
  obtain ⟨before, winner, after, rfl, value, scored, less, noMore⟩ := wins
  exact ⟨winner, by simp, scored⟩

theorem Wins.congr {others : Row → Binary64 → Prop} (wins : f.Wins scores rows)
    (same : ∀ r ∈ rows, ∀ x, scores r x ↔ others r x) : f.Wins others rows := by
  obtain ⟨before, winner, after, rfl, value, scored, less, noMore⟩ := wins
  refine ⟨before, winner, after, rfl, value, (same winner (by simp) _).mp scored, ?_, ?_⟩
  next => exact fun r earlier x own => less r earlier x ((same r (by simp [earlier]) x).mpr own)
  next => exact fun r later x own => noMore r later x ((same r (by simp [later]) x).mpr own)

end Finding

namespace Signal

variable {text : List Char} {seen : List Row} {best : Option Finding} {row : Row}

def Settled (text : List Char) (seen : List Row) : Option Finding → Prop
  | none => ∀ row ∈ seen, row.score? text = none
  | some f => f.Wins (fun row x => row.score? text = some x) seen

theorem Settled.improve (settled : Settled text seen best)
    (positive : ∀ r ∈ seen ++ [row], ∀ x, r.score? text = some x → x.Positive) :
    Settled text (seen ++ [row]) (improve text best row) := by
  have newest {x : Binary64} (scored : row.score? text = some x)
      (higher : ∀ r ∈ seen, ∀ y, r.score? text = some y → y.below x = true) :
      Settled text (seen ++ [row]) (some ⟨row.value, x⟩) :=
    ⟨seen, row, [], rfl, rfl, scored, higher, List.forall_mem_nil _⟩
  unfold Signal.improve
  cases best with
  | none =>
    cases scored : row.score? text with
    | none => exact List.forall_mem_append.mpr ⟨settled, List.forall_mem_singleton.mpr scored⟩
    | some x =>
      have better : ((none.map Finding.score).getD (.finite 0)).below x = true :=
        positive row (List.mem_append_right seen List.mem_cons_self) x scored
      dsimp only
      rw [if_pos better]
      have silent : ∀ r ∈ seen, ∀ y, r.score? text = some y → y.below x = true := by
        intro r earlier y own
        cases (settled r earlier).symm.trans own
      exact newest scored silent
  | some f =>
    have wins : f.Wins (fun r x => r.score? text = some x) seen := settled
    cases scored : row.score? text with
    | none => exact wins.keeps fun x own => nomatch scored.symm.trans own
    | some x =>
      dsimp only [Option.map_some, Option.getD_some]
      cases better : f.score.below x with
      | false =>
        refine wins.keeps fun y own => ?_
        obtain rfl : x = y := Option.some.inj (scored.symm.trans own)
        exact better
      | true =>
        refine newest scored fun r earlier y own => ?_
        have number := (positive r (List.mem_append_left _ earlier) y own).number
        exact Binary64.below_of_not_below_of_below number (wins.no_more r earlier y own) better

theorem best?_settled (s : Signal) (text : List Char)
    (positive : ∀ row ∈ s.rows, ∀ x, row.score? text = some x → x.Positive) :
    Settled text s.rows (s.best? text) := by
  apply s.best?_of_improve text
  · exact List.forall_mem_nil _
  · intro seen row later best split settled
    apply settled.improve
    intro r inside
    apply positive
    rw [split, List.append_cons]
    exact List.mem_append_left later inside

end Signal

section Brief

variable {s : Signal} {text : List Char}

def revealedValues (brief : String) : Entries String :=
  (findings brief).map fun entry => (entry.1, entry.2.value)

def certainties (brief : String) : Entries Binary64 :=
  (findings brief).map fun entry => (entry.1, entry.2.confidence)

theorem signals_solid :
    ∀ s ∈ signals, ∀ row ∈ s.rows, ∀ phrase ∈ row.phrases, phrase.isSolid = true := by
  have checked : (signals.all fun s => s.rows.all fun row => row.phrases.all Phrase.isSolid) =
      true := by
    decide +kernel
  simpa only [List.all_eq_true] using checked

theorem best?_cases (known : s ∈ signals) (text : List Char) :
    (s.best? text = none ∧ ∀ row ∈ s.rows, ¬row.OccursIn text) ∨
      ∃ f, s.best? text = some f ∧ f.Wins (fun row x => row.Scores text x) s.rows ∧
        ∃ row ∈ s.rows, row.OccursIn text := by
  have solid := signals_solid s known
  have scores (row : Row) (listed : row ∈ s.rows) (x : Binary64) :
      row.score? text = some x ↔ row.Scores text x := Row.score?_eq_some_iff (solid row listed)
  have settled := s.best?_settled text fun row listed x own =>
    ((scores row listed x).mp own).positive (solid row listed)
  cases best : s.best? text with
  | none =>
    rw [best] at settled
    exact .inl ⟨rfl, fun row listed =>
      (Row.score?_eq_none_iff (solid row listed)).mp (settled row listed)⟩
  | some f =>
    rw [best] at settled
    have wins : f.Wins (fun row x => row.Scores text x) s.rows := Finding.Wins.congr
      (show f.Wins (fun row x => row.score? text = some x) s.rows from settled) scores
    obtain ⟨row, listed, scored⟩ := wins.scored
    exact .inr ⟨f, rfl, wins, row, listed,
      (Row.exists_scores_iff (solid row listed)).mp ⟨f.score, scored⟩⟩

theorem get?_findings (known : s ∈ signals) (brief : String) :
    Entries.get? (findings brief) s.name = s.best? (lowerChars brief.toList) := by
  cases best : s.best? (lowerChars brief.toList) with
  | some f =>
    rw [← Entries.mem_iff_get? (findings_names brief)]
    exact List.mem_filterMap.mpr ⟨s, known, by rw [best]; rfl⟩
  | none =>
    rw [Entries.get?_eq_none_iff]
    intro named
    obtain ⟨⟨key, f⟩, found, rfl⟩ := List.mem_map.mp named
    obtain ⟨other, known', taken⟩ := List.mem_filterMap.mp found
    obtain ⟨g, best', same⟩ := Option.map_eq_some_iff.mp taken
    obtain rfl : other = s :=
      List.inj_on_of_nodup_map signals_names known' known (Prod.mk.inj same).1
    cases best.symm.trans best'

theorem get?_map_findings {β : Type} (known : s ∈ signals) (brief : String) (part : Finding → β) :
    Entries.get? ((findings brief).map fun entry => (entry.1, part entry.2)) s.name =
      (s.best? (lowerChars brief.toList)).map part := by
  rw [← get?_findings known]
  exact Entries.get?_mapValues (findings brief) part s.name

theorem findings_winning (brief : String) :
    Entries.keys (revealedValues brief) = Entries.keys (certainties brief) ∧
      (Entries.keys (certainties brief)).Sublist (signals.map Signal.name) ∧
      ∀ s ∈ signals,
        (s.name ∈ Entries.keys (revealedValues brief) ↔
          ∃ row ∈ s.rows, row.OccursIn (lowerChars brief.toList)) ∧
        ∀ value, Entries.get? (revealedValues brief) s.name = some value →
          ∃ score confidence,
            Finding.Wins (fun row x => row.Scores (lowerChars brief.toList) x) s.rows ⟨value, score⟩ ∧
              Entries.get? (certainties brief) s.name = some confidence ∧ confidence.Share ∧
                (score.below (.finite 1) = true → confidence = score) := by
  have values : Entries.keys (revealedValues brief) = Entries.keys (findings brief) :=
    Entries.keys_mapValues (findings brief) Finding.value
  have confidences : Entries.keys (certainties brief) = Entries.keys (findings brief) :=
    Entries.keys_mapValues (findings brief) Finding.confidence
  refine ⟨values.trans confidences.symm, confidences ▸ findings_sublist brief, ?_⟩
  intro s known
  have value := get?_map_findings known brief Finding.value
  have confidence := get?_map_findings known brief Finding.confidence
  rw [← not_iff_not, ← Entries.get?_eq_none_iff, revealedValues, certainties, value, confidence]
  rcases best?_cases known (lowerChars brief.toList) with
    ⟨best, nowhere⟩ | ⟨f, best, wins, row, listed, occurs⟩
  next =>
    rw [best]
    exact ⟨iff_of_true rfl fun ⟨row, listed, occurs⟩ => nowhere row listed occurs, nofun⟩
  next =>
    have positive : f.score.Positive := s.best?_beats _ f best
    rw [best]
    refine ⟨iff_of_false nofun fun absent => absent ⟨row, listed, occurs⟩, ?_⟩
    rintro value ⟨⟩
    exact ⟨f.score, f.confidence, wins, rfl, Finding.confidence_share positive,
      fun less => if_pos less⟩

theorem findings_emailCampaign :
    (outputTypeRows.filterMap fun row =>
        (row.score? (lowerChars "Email campaign".toList)).map fun score => (row.value, score)) =
      [("copy", .finite (5404319552844595 / 4503599627370496)),
        ("comms", .finite (5404319552844595 / 4503599627370496))] ∧
    ⟨"output_type", outputTypeRows⟩ ∈ signals ∧
    Entries.get? (revealedValues "Email campaign") "output_type" = some "copy" ∧
    ∃ score confidence,
      Finding.Wins (fun row x => row.Scores (lowerChars "Email campaign".toList) x) outputTypeRows
        ⟨"copy", score⟩ ∧
      Entries.get? (certainties "Email campaign") "output_type" = some confidence ∧
      confidence.Share := by
  have known : ⟨"output_type", outputTypeRows⟩ ∈ signals := List.mem_cons_self
  have revealed : Entries.get? (revealedValues "Email campaign") "output_type" = some "copy" := by
    rw [revealedValues, get?_map_findings known]
    decide +kernel
  obtain ⟨-, -, signal⟩ := findings_winning "Email campaign"
  obtain ⟨-, winning⟩ := signal _ known
  obtain ⟨score, confidence, wins, certain, share, -⟩ := winning "copy" revealed
  exact ⟨by decide +kernel, known, revealed, score, confidence, wins, certain, share⟩

end Brief

end PromptStudio
