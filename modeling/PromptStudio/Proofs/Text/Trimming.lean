import Mathlib.Data.List.DropRight
import PromptStudio.Text.Blank

set_option autoImplicit false

namespace PromptStudio

structure Trimmed (text : List Char) : Prop where
  opens : ∀ c ∈ text.head?, isBlank c = false
  closes : ∀ c ∈ text.getLast?, isBlank c = false

variable {text front : List Char}

theorem trimmed_of_ends {first last : Char} (inner : List Char) (opens : isBlank first = false)
    (closes : isBlank last = false) : Trimmed (first :: inner ++ [last]) := by
  constructor
  case opens =>
    rintro c ⟨⟩
    exact opens
  case closes =>
    rw [List.getLast?_concat]
    rintro c ⟨⟩
    exact closes

theorem trimmed_of_visible (visible : ∀ c ∈ text, isBlank c = false) : Trimmed text :=
  ⟨fun c first => visible c (List.mem_of_head? first),
    fun c last => visible c (List.mem_of_getLast? last)⟩

theorem trimChars_eq_rdropWhile (text : List Char) :
    trimChars text = (text.dropWhile isBlank).rdropWhile isBlank := rfl

theorem trimmed_trimChars (text : List Char) : Trimmed (trimChars text) := by
  rw [trimChars_eq_rdropWhile]
  constructor
  case opens =>
    intro c first
    obtain ⟨ending, joined⟩ := List.rdropWhile_prefix isBlank (text.dropWhile isBlank)
    have start : (text.dropWhile isBlank).head? = some c := by
      rw [← joined, List.head?_append, Option.mem_def.mp first, Option.some_or]
    have kept := List.head?_dropWhile_not isBlank text
    rwa [start] at kept
  case closes =>
    intro c last
    obtain ⟨filled, rfl⟩ := List.mem_getLast?_eq_getLast last
    exact eq_false_of_ne_true (List.rdropWhile_last_not _ _ filled)

theorem trimChars_eq_nil_iff : trimChars text = [] ↔ ∀ c ∈ text, isBlank c = true := by
  rw [trimChars_eq_rdropWhile, List.rdropWhile_eq_nil_iff]
  constructor
  next =>
    intro blank
    cases left : text.dropWhile isBlank with
    | nil => exact List.dropWhile_eq_nil_iff.mp left
    | cons c rest =>
      have kept := List.head?_dropWhile_not isBlank text
      rw [left] at kept blank
      exact absurd (blank c (by simp)) (by simp at kept; simp [kept])
  next =>
    intro blank
    rw [List.dropWhile_eq_nil_iff.mpr blank]
    exact List.forall_mem_nil _

theorem Trimmed.trimChars_between (trimmed : Trimmed text) {before after : List Char}
    (leading : ∀ c ∈ before, isBlank c = true) (trailing : ∀ c ∈ after, isBlank c = true) :
    trimChars (before ++ text ++ after) = text := by
  rw [trimChars_eq_rdropWhile, List.append_assoc, List.dropWhile_append_of_pos leading]
  by_cases empty : text = []
  next =>
    rw [empty, List.nil_append, List.dropWhile_eq_nil_iff.mpr trailing, List.rdropWhile_nil]
  next =>
    obtain ⟨c, rest, rfl⟩ := List.exists_cons_of_ne_nil empty
    have start : (c :: rest ++ after).dropWhile isBlank = c :: rest ++ after := by
      simp [trimmed.opens c rfl]
    have backwards : ∀ d ∈ after.reverse, isBlank d = true := fun d inside =>
      trailing d (List.mem_reverse.mp inside)
    rw [start, List.rdropWhile, List.reverse_append, List.dropWhile_append_of_pos backwards,
      ← List.rdropWhile, List.rdropWhile_eq_self_iff]
    intro filled
    simp [trimmed.closes _ (List.getLast?_eq_some_getLast filled)]

theorem trimChars_append_blank (trimmed : Trimmed text) {gap : List Char}
    (blank : ∀ c ∈ gap, isBlank c = true) : trimChars (text ++ gap) = text :=
  trimmed.trimChars_between (List.forall_mem_nil _) blank

theorem Trimmed.trimChars (trimmed : Trimmed text) : trimChars text = text := by
  have bare := trimChars_append_blank trimmed (List.forall_mem_nil _)
  rwa [List.append_nil] at bare

theorem Trimmed.append (opened : Trimmed front) (first : front ≠ []) (gap : List Char)
    (closed : Trimmed text) (last : text ≠ []) : Trimmed (front ++ gap ++ text) := by
  constructor
  case opens =>
    intro c start
    rw [List.append_assoc, List.head?_append_of_ne_nil front first] at start
    exact opened.opens c start
  case closes =>
    intro c ending
    rw [List.getLast?_append_of_ne_nil _ last] at ending
    exact closed.closes c ending

end PromptStudio
