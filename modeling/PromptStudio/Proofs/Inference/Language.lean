import Mathlib.Data.List.Forall2
import PromptStudio.Inference.Phrase

set_option autoImplicit false

namespace PromptStudio

def SameLetters (word text : List Char) : Prop :=
  List.Forall₂ (fun letter c => sameLetter letter c = true) word text

def Piece.Spells : Piece → List Char → Prop
  | .letters word, text => SameLetters word.toList text
  | .gap, text => ∀ c ∈ text, isBlank c = true
  | .joint, text => (∃ c, (isBlank c || c == '-') = true ∧ text = [c]) ∨ text = []
  | .maybe letter, text => (∃ c, sameLetter letter c = true ∧ text = [c]) ∨ text = []
  | .within first last, text => ∃ c, isWithin first last c = true ∧ text = [c]
  | .anyOf choices, text => ∃ word ∈ choices, SameLetters word.toList text

def Phrase.Spells : Phrase → List Char → Prop
  | [], text => text = []
  | p :: rest, text => ∃ front back, text = front ++ back ∧ p.Spells front ∧ Phrase.Spells rest back

namespace Spot

/-- From the one place to the other lies the text. -/
structure Reads (s : Spot) (text : List Char) (t : Spot) : Prop where
  ahead : s.after = text ++ t.after
  behind : t.before = text.getLast?.or s.before

variable {s t : Spot}

theorem reads_nil : s.Reads [] t ↔ s = t := by
  constructor
  next =>
    rintro ⟨ahead, behind⟩
    obtain ⟨before, after⟩ := t
    cases ahead
    cases behind
    rfl
  next =>
    rintro rfl
    exact ⟨rfl, rfl⟩

theorem reads_append {front back : List Char} :
    s.Reads (front ++ back) t ↔ ∃ between, s.Reads front between ∧ between.Reads back t := by
  constructor
  next =>
    rintro ⟨ahead, behind⟩
    refine ⟨⟨front.getLast?.or s.before, back ++ t.after⟩, ⟨?_, rfl⟩, ⟨rfl, ?_⟩⟩
    next => rw [ahead, List.append_assoc]
    next => rw [behind, List.getLast?_append, Option.or_assoc]
  next =>
    rintro ⟨between, ⟨ahead, behind⟩, ⟨ahead', behind'⟩⟩
    constructor
    next => rw [ahead, ahead', List.append_assoc]
    next => rw [behind', behind, List.getLast?_append, Option.or_assoc]

theorem reads_cons {c : Char} {text : List Char} :
    s.Reads (c :: text) t ↔ ∃ between, s.Reads [c] between ∧ between.Reads text t :=
  @reads_append s t [c] text

theorem pass?_eq_some_iff {accepts : Char → Bool} :
    s.pass? accepts = some t ↔ ∃ c, accepts c = true ∧ s.Reads [c] t := by
  obtain ⟨before, after⟩ := s
  constructor
  next =>
    intro passed
    unfold pass? at passed
    split at passed
    next => cases passed
    next c rest ahead =>
      obtain rfl : after = c :: rest := ahead
      split at passed
      next accepted =>
        cases passed
        exact ⟨c, accepted, rfl, rfl⟩
      next => cases passed
  next =>
    rintro ⟨c, accepted, ahead, behind⟩
    obtain ⟨before', after'⟩ := t
    cases ahead
    cases behind
    exact if_pos accepted

theorem passLetters?_eq_some_iff {word : List Char} :
    s.passLetters? word = some t ↔ ∃ text, SameLetters word text ∧ s.Reads text t := by
  induction word generalizing s with
  | nil => simp [passLetters?, SameLetters, reads_nil]
  | cons letter word ih =>
    simp only [passLetters?, Option.bind_eq_some_iff, pass?_eq_some_iff, ih]
    constructor
    next =>
      rintro ⟨between, ⟨c, same, first⟩, text, later, rest⟩
      exact ⟨c :: text, .cons same later, reads_cons.mpr ⟨between, first, rest⟩⟩
    next =>
      rintro ⟨text, letters, reads⟩
      cases letters with
      | cons same later =>
        obtain ⟨between, first, rest⟩ := reads_cons.mp reads
        exact ⟨between, ⟨_, same, first⟩, _, later, rest⟩

-- Each run of blanks at the place is one way to end, the longest and the empty one included.
theorem mem_passBlanks_iff {before : Option Char} {after : List Char} :
    t ∈ passBlanks before after ↔
      ∃ text, (∀ c ∈ text, isBlank c = true) ∧ Reads ⟨before, after⟩ text t := by
  induction after generalizing before with
  | nil =>
    rw [passBlanks, List.mem_singleton]
    constructor
    next =>
      rintro rfl
      exact ⟨[], List.forall_mem_nil _, rfl, rfl⟩
    next =>
      rintro ⟨text, -, reads⟩
      obtain ⟨rfl, -⟩ := List.append_eq_nil_iff.mp reads.ahead.symm
      exact (reads_nil.mp reads).symm
  | cons c rest ih =>
    rw [passBlanks, List.mem_append, List.mem_singleton]
    constructor
    next =>
      rintro (longer | rfl)
      next =>
        split at longer
        next blank =>
          obtain ⟨text, blanks, reads⟩ := ih.mp longer
          exact ⟨c :: text, List.forall_mem_cons.mpr ⟨blank, blanks⟩,
            reads_cons.mpr ⟨_, ⟨rfl, rfl⟩, reads⟩⟩
        next => cases longer
      next => exact ⟨[], List.forall_mem_nil _, rfl, rfl⟩
    next =>
      rintro ⟨text, blanks, reads⟩
      cases text with
      | nil => exact .inr (reads_nil.mp reads).symm
      | cons d text =>
        obtain ⟨blank, others⟩ := List.forall_mem_cons.mp blanks
        obtain ⟨between, first, later⟩ := reads_cons.mp reads
        obtain ⟨rfl, ahead⟩ := List.cons.inj first.ahead
        obtain rfl : ⟨some c, rest⟩ = between := reads_nil.mp ⟨ahead, first.behind⟩
        rw [if_pos blank]
        exact .inl (ih.mpr ⟨text, others, later⟩)

theorem mem_pass_iff {accepts : Char → Bool} :
    t ∈ (s.pass? accepts).toList ↔
      ∃ text, (∃ c, accepts c = true ∧ text = [c]) ∧ s.Reads text t := by
  rw [Option.mem_toList, pass?_eq_some_iff]
  constructor
  next =>
    rintro ⟨c, accepted, reads⟩
    exact ⟨[c], ⟨c, accepted, rfl⟩, reads⟩
  next =>
    rintro ⟨_, ⟨c, accepted, rfl⟩, reads⟩
    exact ⟨c, accepted, reads⟩

theorem mem_pass_or_stay_iff {accepts : Char → Bool} :
    t ∈ (s.pass? accepts).toList ++ [s] ↔
      ∃ text, ((∃ c, accepts c = true ∧ text = [c]) ∨ text = []) ∧ s.Reads text t := by
  simp only [List.mem_append, mem_pass_iff, List.mem_singleton, or_and_right, exists_or,
    exists_eq_left, reads_nil, eq_comm]

end Spot

section Ends

variable {s t : Spot}

theorem Piece.mem_ends_iff {p : Piece} : t ∈ p.ends s ↔ ∃ text, p.Spells text ∧ s.Reads text t := by
  cases p with
  | letters word =>
    rw [ends, Option.mem_toList, Spot.passLetters?_eq_some_iff]
    rfl
  | gap => exact Spot.mem_passBlanks_iff
  | joint => exact Spot.mem_pass_or_stay_iff
  | «maybe» letter => exact Spot.mem_pass_or_stay_iff
  | within first last => exact Spot.mem_pass_iff
  | anyOf choices =>
    simp only [ends, Spells, List.mem_filterMap, Spot.passLetters?_eq_some_iff]
    constructor
    next =>
      rintro ⟨word, listed, text, same, reads⟩
      exact ⟨text, ⟨word, listed, same⟩, reads⟩
    next =>
      rintro ⟨text, ⟨word, listed, same⟩, reads⟩
      exact ⟨word, listed, text, same, reads⟩

theorem Phrase.mem_ends_iff {phrase : Phrase} :
    t ∈ phrase.ends s ↔ ∃ text, phrase.Spells text ∧ s.Reads text t := by
  induction phrase generalizing s with
  | nil => simp [ends, Spells, Spot.reads_nil, eq_comm]
  | cons p rest ih =>
    simp only [ends, List.mem_flatMap, Piece.mem_ends_iff, ih]
    constructor
    next =>
      rintro ⟨between, ⟨front, own, first⟩, back, others, second⟩
      exact ⟨front ++ back, ⟨front, back, rfl, own, others⟩,
        Spot.reads_append.mpr ⟨between, first, second⟩⟩
    next =>
      rintro ⟨_, ⟨front, back, rfl, own, others⟩, reads⟩
      obtain ⟨between, first, second⟩ := Spot.reads_append.mp reads
      exact ⟨between, ⟨front, own, first⟩, back, others, second⟩

end Ends

section Solid

def Piece.isSolid : Piece → Bool
  | .letters word => word != ""
  | .within _ _ => true
  | .anyOf choices => choices.all (· != "")
  | _ => false

def Phrase.isSolid (phrase : Phrase) : Bool := phrase.any Piece.isSolid

theorem not_sameLetters_nil {word : String} (filled : word ≠ "") :
    ¬SameLetters word.toList [] := by
  intro same
  rw [SameLetters, List.forall₂_nil_right_iff] at same
  exact filled (String.toList_eq_nil_iff.mp same)

theorem Piece.not_spells_nil {p : Piece} (solid : p.isSolid = true) : ¬p.Spells [] := by
  cases p with
  | letters word => exact not_sameLetters_nil (bne_iff_ne.mp solid)
  | within first last =>
    rintro ⟨c, -, empty⟩
    cases empty
  | anyOf choices =>
    rintro ⟨word, listed, same⟩
    exact not_sameLetters_nil (bne_iff_ne.mp (List.all_eq_true.mp solid word listed)) same
  | gap | joint | «maybe» => cases solid

theorem Phrase.not_spells_nil {phrase : Phrase} (solid : phrase.isSolid = true) :
    ¬phrase.Spells [] := by
  induction phrase with
  | nil => cases solid
  | cons p rest ih =>
    rintro ⟨front, back, empty, own, others⟩
    obtain ⟨rfl, rfl⟩ := List.append_eq_nil_iff.mp empty.symm
    rcases Bool.or_eq_true_iff.mp solid with here | later
    · exact Piece.not_spells_nil here own
    · exact ih later others

end Solid

end PromptStudio
