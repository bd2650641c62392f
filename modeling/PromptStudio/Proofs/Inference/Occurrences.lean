import PromptStudio.Proofs.Inference.Language

set_option autoImplicit false

/-!
# Where phrases occur

An occurrence is a text that one of the phrases spells, with the edge of a word at both ends. A scan
goes from left to right: where no occurrence begins it passes one character, and where one begins it
notes the place and goes on behind the occurrence.
-/

namespace PromptStudio

namespace Spot

def between (before after : List Char) : Spot := ⟨before.getLast?, after⟩

theorem reads_between (before text after : List Char) :
    (between before (text ++ after)).Reads text (between (before ++ text) after) :=
  ⟨rfl, List.getLast?_append⟩

theorem Reads.eq_between {before text rest : List Char} {t : Spot}
    (reads : (between before rest).Reads text t) : t = between (before ++ text) t.after := by
  obtain ⟨last, after⟩ := t
  rw [between, List.getLast?_append]
  exact congrArg (Spot.mk · after) reads.behind

end Spot

namespace Phrase

variable {phrases : List Phrase} {before text after rest : List Char} {positions : List Nat}

/-- What stands between the two texts is an occurrence of one of the phrases. -/
structure Occurs (phrases : List Phrase) (before text after : List Char) : Prop where
  spelled : ∃ phrase ∈ phrases, phrase.Spells text
  opens : (Spot.between before (text ++ after)).isEdge = true
  closes : (Spot.between (before ++ text) after).isEdge = true

theorem Occurs.filled (occurs : Occurs phrases before text after)
    (solid : ∀ phrase ∈ phrases, phrase.isSolid = true) : text ≠ [] := by
  obtain ⟨phrase, listed, spells⟩ := occurs.spelled
  rintro rfl
  exact not_spells_nil (solid phrase listed) spells

def Absent (phrases : List Phrase) (before rest : List Char) : Prop :=
  ∀ text after, rest = text ++ after → ¬Occurs phrases before text after

theorem mem_flatMap_ends_iff {s t : Spot} : t ∈ phrases.flatMap (·.ends s) ↔
    ∃ text, (∃ phrase ∈ phrases, phrase.Spells text) ∧ s.Reads text t := by
  simp only [List.mem_flatMap, mem_ends_iff]
  constructor
  next =>
    rintro ⟨phrase, listed, text, spells, reads⟩
    exact ⟨text, ⟨phrase, listed, spells⟩, reads⟩
  next =>
    rintro ⟨text, ⟨phrase, listed, spells⟩, reads⟩
    exact ⟨phrase, listed, text, spells, reads⟩

theorem firstEnd?_eq (phrases : List Phrase) (s : Spot) : firstEnd? phrases s =
    if s.isEdge then (phrases.flatMap (·.ends s)).find? Spot.isEdge else none := by
  unfold firstEnd?
  split
  next nowhere => simp [nowhere]
  next => rfl

theorem occurs_of_firstEnd? {t : Spot}
    (ends : firstEnd? phrases (Spot.between before rest) = some t) :
    ∃ text after, rest = text ++ after ∧ t = Spot.between (before ++ text) after ∧
      Occurs phrases before text after := by
  rw [firstEnd?_eq] at ends
  split at ends
  next opens =>
    obtain ⟨text, spelled, reads⟩ := mem_flatMap_ends_iff.mp (List.mem_of_find?_eq_some ends)
    have closes := List.find?_some ends
    have behind := reads.eq_between
    obtain rfl : rest = text ++ t.after := reads.ahead
    rw [behind] at closes
    exact ⟨text, t.after, rfl, behind, spelled, opens, closes⟩
  next => cases ends

theorem firstEnd?_eq_none_iff :
    firstEnd? phrases (Spot.between before rest) = none ↔ Absent phrases before rest := by
  constructor
  next =>
    rintro nowhere text after rfl occurs
    rw [firstEnd?_eq, if_pos occurs.opens, List.find?_eq_none] at nowhere
    have reached := mem_flatMap_ends_iff.mpr
      ⟨text, occurs.spelled, Spot.reads_between before text after⟩
    exact nowhere _ reached occurs.closes
  next =>
    intro absent
    cases ends : firstEnd? phrases (Spot.between before rest) with
    | none => rfl
    | some t =>
      obtain ⟨text, after, split, -, occurs⟩ := occurs_of_firstEnd? ends
      exact absurd occurs (absent text after split)

/-- Of the occurrences that begin at the place, the text is the one that is met first. -/
def Takes (phrases : List Phrase) (before text after : List Char) : Prop :=
  firstEnd? phrases (Spot.between before (text ++ after)) =
    some (Spot.between (before ++ text) after)

/-- The positions that a scan of the rest notes. -/
inductive Scan (phrases : List Phrase) : (before rest : List Char) → List Nat → Prop where
  | ended {before : List Char} : Scan phrases before [] []
  | passed {before rest : List Char} {c : Char} {positions : List Nat}
      (absent : Absent phrases before (c :: rest))
      (later : Scan phrases (before ++ [c]) rest positions) :
      Scan phrases before (c :: rest) positions
  | taken {before text after : List Char} {positions : List Nat} (filled : text ≠ [])
      (takes : Takes phrases before text after)
      (later : Scan phrases (before ++ text) after positions) :
      Scan phrases before (text ++ after) (before.length :: positions)

section Found

def found (phrases : List Phrase) (before rest : List Char) : List Nat :=
  occurrencesFrom phrases before.length before.getLast? 0 rest

theorem found_passed {c : Char} (absent : Absent phrases before (c :: rest)) :
    found phrases before (c :: rest) = found phrases (before ++ [c]) rest := by
  have nowhere := firstEnd?_eq_none_iff.mpr absent
  unfold Spot.between at nowhere
  simp only [found, occurrencesFrom, nowhere, List.length_append, List.length_singleton,
    List.getLast?_concat]

theorem getLast?_cons_or (c : Char) (text : List Char) (last : Option Char) :
    (c :: text).getLast?.or last = text.getLast?.or (some c) := by
  rw [← List.singleton_append, List.getLast?_append, Option.or_assoc]
  rfl

theorem occurrencesFrom_skip (phrases : List Phrase) (position : Nat) (last : Option Char)
    (text rest : List Char) : occurrencesFrom phrases position last text.length (text ++ rest) =
      occurrencesFrom phrases (position + text.length) (text.getLast?.or last) 0 rest := by
  induction text generalizing position last with
  | nil => rfl
  | cons c text ih =>
    have step := ih (position + 1) (some c)
    have further : position + (c :: text).length = position + 1 + text.length := by
      rw [List.length_cons]
      omega
    rw [getLast?_cons_or, further, ← step]
    rfl

theorem found_taken (filled : text ≠ []) (takes : Takes phrases before text after) :
    found phrases before (text ++ after) = before.length :: found phrases (before ++ text) after := by
  obtain ⟨c, text, rfl⟩ := List.exists_cons_of_ne_nil filled
  have skipped := occurrencesFrom_skip phrases (before.length + 1) (some c) text after
  have covered : (text ++ after).length - after.length = text.length := by simp
  have length : before.length + 1 + text.length = (before ++ c :: text).length := by
    rw [List.length_append, List.length_cons]
    omega
  have behind : text.getLast?.or (some c) = (before ++ c :: text).getLast? := by
    rw [List.getLast?_append, getLast?_cons_or]
  unfold Takes Spot.between at takes
  rw [List.cons_append] at takes
  rw [found, List.cons_append, occurrencesFrom, takes]
  dsimp only
  rw [covered, skipped, length, behind]
  rfl

theorem Scan.eq_found (scan : Scan phrases before rest positions) :
    positions = found phrases before rest := by
  induction scan with
  | ended => rfl
  | passed absent _ ih => rw [ih, found_passed absent]
  | taken filled takes _ ih => rw [ih, found_taken filled takes]

-- By the length of the rest, since an occurrence may take any number of characters.
theorem scan_found (solid : ∀ phrase ∈ phrases, phrase.isSolid = true) (before rest : List Char) :
    Scan phrases before rest (found phrases before rest) := by
  cases ends : firstEnd? phrases (Spot.between before rest) with
  | none =>
    have absent := firstEnd?_eq_none_iff.mp ends
    cases rest with
    | nil => exact .ended
    | cons c rest =>
      rw [found_passed absent]
      exact .passed absent (scan_found solid (before ++ [c]) rest)
  | some t =>
    obtain ⟨text, after, rfl, rfl, occurs⟩ := occurs_of_firstEnd? ends
    have filled := occurs.filled solid
    have shorter : after.length < (text ++ after).length := by
      have positive := List.length_pos_iff.mpr filled
      rw [List.length_append]
      omega
    rw [found_taken filled ends]
    exact .taken filled ends (scan_found solid (before ++ text) after)
termination_by rest.length

theorem scan_iff (solid : ∀ phrase ∈ phrases, phrase.isSolid = true) :
    Scan phrases [] text positions ↔ positions = occurrences phrases text := by
  constructor
  next =>
    intro scan
    exact scan.eq_found
  next =>
    rintro rfl
    exact scan_found solid [] text

end Found

section Positions

variable {position : Nat}

def OccursAt (phrases : List Phrase) (whole : List Char) (position : Nat) : Prop :=
  ∃ before text after, whole = before ++ (text ++ after) ∧ before.length = position ∧
    Occurs phrases before text after

theorem absent_iff :
    Absent phrases before rest ↔ ¬OccursAt phrases (before ++ rest) before.length := by
  constructor
  next =>
    rintro absent ⟨before', text, after, split, length, occurs⟩
    obtain ⟨rfl, rest⟩ := List.append_inj split length.symm
    exact absent text after rest occurs
  next =>
    rintro absent text after rfl occurs
    exact absent ⟨before, text, after, rfl, rfl, occurs⟩

theorem OccursAt.lt_length {whole : List Char} (occurs : OccursAt phrases whole position)
    (solid : ∀ phrase ∈ phrases, phrase.isSolid = true) : position < whole.length := by
  obtain ⟨before, text, after, rfl, rfl, occurs⟩ := occurs
  have positive := List.length_pos_iff.mpr (occurs.filled solid)
  rw [List.length_append, List.length_append]
  omega

theorem Scan.occursAt (scan : Scan phrases before rest positions) (noted : position ∈ positions) :
    OccursAt phrases (before ++ rest) position := by
  induction scan with
  | ended => cases noted
  | @passed before rest c positions absent later ih =>
    have further := ih noted
    rwa [List.append_assoc] at further
  | @taken before text after positions filled takes later ih =>
    rcases List.mem_cons.mp noted with rfl | noted
    · by_contra absent
      rw [← absent_iff, ← firstEnd?_eq_none_iff, takes] at absent
      cases absent
    · have further := ih noted
      rwa [List.append_assoc] at further

-- What a scan does not note lies behind the first position that it does note.
theorem Scan.first_le (scan : Scan phrases before rest positions)
    (solid : ∀ phrase ∈ phrases, phrase.isSolid = true)
    (occurs : OccursAt phrases (before ++ rest) position) (ahead : before.length ≤ position) :
    ∃ first ∈ positions.head?, first ≤ position := by
  induction scan with
  | ended =>
    have inside := occurs.lt_length solid
    rw [List.append_nil] at inside
    omega
  | @passed before rest c positions absent later ih =>
    rcases Nat.eq_or_lt_of_le ahead with rfl | further
    · exact absurd occurs (absent_iff.mp absent)
    · rw [← List.append_cons, List.length_append] at ih
      exact ih occurs further
  | taken => exact ⟨_, rfl, ahead⟩

end Positions

end Phrase

end PromptStudio
