import Mathlib.Data.List.Forall2
import PromptStudio.Proofs.Text.Trimming
import PromptStudio.Template.Blocks

set_option autoImplicit false

namespace PromptStudio.Blocks

variable {steps : List Step} {context : Option Datum}

structure Part (t : List Char) : Prop where
  filled : t ≠ []
  trimmed : Trimmed t

theorem part_of_mem_parts {t : List Char} (inside : t ∈ parts steps context) : Part t := by
  obtain ⟨rendered, filled⟩ := List.mem_filter.mp inside
  obtain ⟨s, -, rfl⟩ := List.mem_map.mp rendered
  exact ⟨by simpa using filled, trimmed_trimChars _⟩

theorem parts_eq_nil_iff :
    parts steps context = [] ↔ ∀ s ∈ steps, s.isIncluded context = true → s.chars context = [] := by
  rw [parts, List.filter_eq_nil_iff]
  constructor
  next =>
    intro blank s inside included
    have taken : s ∈ steps.filter (·.isIncluded context) := List.mem_filter.mpr ⟨inside, included⟩
    simpa using blank (s.chars context) (List.mem_map.mpr ⟨s, taken, rfl⟩)
  next =>
    intro blank t rendered
    obtain ⟨s, taken, rfl⟩ := List.mem_map.mp rendered
    obtain ⟨inside, included⟩ := List.mem_filter.mp taken
    simp [blank s inside included]

section Joined

variable {texts : List (List Char)}

theorem joined_filled (each : ∀ t ∈ texts, Part t) (any : texts ≠ []) :
    separator.intercalate texts ≠ [] := by
  obtain ⟨t, rest, rfl⟩ := List.exists_cons_of_ne_nil any
  have filled := (each t List.mem_cons_self).filled
  cases rest with
  | nil => rwa [List.intercalate_singleton]
  | cons next rest => simp [List.intercalate_cons_cons, filled]

-- Each part is trimmed, and the last one closes what the others and the separators open.
theorem joined_trimmed (each : ∀ t ∈ texts, Part t) : Trimmed (separator.intercalate texts) := by
  induction texts with
  | nil => exact trimmed_of_visible (List.forall_mem_nil _)
  | cons t texts ih =>
    obtain ⟨filled, trimmed⟩ := each t List.mem_cons_self
    have others : ∀ other ∈ texts, Part other := fun other inside =>
      each other (List.mem_cons_of_mem t inside)
    by_cases last : texts = []
    next => rwa [last, List.intercalate_singleton]
    next =>
      rw [List.intercalate_cons_of_ne_nil last]
      exact trimmed.append filled separator (ih others) (joined_filled others last)

end Joined

theorem chars_eq_nil_iff : chars steps context = [] ↔ parts steps context = [] := by
  constructor
  next =>
    intro empty
    by_contra any
    exact joined_filled (fun _ => part_of_mem_parts) any empty
  next =>
    intro bare
    rw [chars, bare, List.intercalate_nil]

theorem trimmed_text : Trimmed (text steps context).toList := by
  rw [text, String.toList_ofList]
  exact joined_trimmed fun _ => part_of_mem_parts

theorem text_eq_intercalate :
    text steps context = String.intercalate "\n\n" ((parts steps context).map String.ofList) := by
  rw [text, chars, ← String.toList_inj, String.toList_ofList, String.toList_intercalate]
  simp [separator, Function.comp_def]

theorem text_eq_empty_iff : text steps context = "" ↔ parts steps context = [] := by
  rw [← chars_eq_nil_iff, text, ← String.toList_inj, String.toList_ofList]
  rfl

theorem text_append (first second : List Step) (context : Option Datum) :
    text (first ++ second) context =
      if text first context ≠ "" ∧ text second context ≠ "" then
        text first context ++ "\n\n" ++ text second context
      else text first context ++ text second context := by
  split
  next both =>
    rw [Ne, text_eq_empty_iff, Ne, text_eq_empty_iff] at both
    rw [text_eq_intercalate, text_eq_intercalate, text_eq_intercalate, parts_append,
      List.map_append]
    exact String.intercalate_append_of_ne_nil (by simpa using both.1) (by simpa using both.2)
  next one =>
    rw [not_and_or, not_not, not_not] at one
    rcases one with empty | empty
    · have bare := text_eq_empty_iff.mp empty
      rw [empty, String.empty_append, text, text, chars, chars, parts_append, bare, List.nil_append]
    · have bare := text_eq_empty_iff.mp empty
      rw [empty, String.append_empty, text, text, chars, chars, parts_append, bare, List.append_nil]

theorem isIncluded_iff {s : Step} :
    s.isIncluded context = true ↔ ∀ c ∈ s.conditions, c.holds context = true :=
  List.all_eq_true

theorem text_eq_empty_iff_blank :
    text steps context = "" ↔ ∀ s ∈ steps, (∀ c ∈ s.conditions, c.holds context = true) →
      ∀ c ∈ (render s.template context).toList, isBlank c = true := by
  rw [text_eq_empty_iff, parts_eq_nil_iff]
  refine forall₂_congr fun s _ => imp_congr isIncluded_iff ?_
  rw [toList_render, Step.chars, trimChars_eq_nil_iff]

def Records (context : Option Datum) : List Trace → List Step → Prop :=
  List.Forall₂ fun t s => t.id = s.id ∧ t.channel = s.channel ∧
    (t.included = true ↔ ∀ c ∈ s.conditions, c.holds context = true)

theorem records_trace : Records context (trace steps context) steps := by
  rw [Records, trace, List.forall₂_map_left_iff, List.forall₂_same]
  exact fun s _ => ⟨rfl, rfl, isIncluded_iff⟩

theorem blocks_concatenated (first second : List Step) (context : Option Datum) :
    trace (first ++ second) context = trace first context ++ trace second context ∧
      text (first ++ second) context =
        (if text first context ≠ "" ∧ text second context ≠ "" then
          text first context ++ "\n\n" ++ text second context
        else text first context ++ text second context) ∧
      ∀ steps : List Step, Records context (trace steps context) steps ∧
        Trimmed (text steps context).toList ∧
        (text steps context = "" ↔ ∀ s ∈ steps, (∀ c ∈ s.conditions, c.holds context = true) →
          ∀ c ∈ (render s.template context).toList, isBlank c = true) := by
  refine ⟨trace_append first second context, text_append first second context, fun steps => ?_⟩
  exact ⟨records_trace, trimmed_text, text_eq_empty_iff_blank⟩

end PromptStudio.Blocks
