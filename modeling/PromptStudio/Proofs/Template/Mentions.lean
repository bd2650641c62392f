import PromptStudio.Template.Blocks

set_option autoImplicit false

namespace PromptStudio

def pathsFrom : (skip : Nat) → List Char → List (List Char)
  | _, [] => []
  | skip + 1, _ :: rest => pathsFrom skip rest
  | 0, c :: rest =>
    match placeholder? (c :: rest) with
    | some (path, length) => trimChars path :: pathsFrom (length - 1) rest
    | none => pathsFrom 0 rest

def SameAt (first second : Option Datum) (paths : List (List Char)) : Prop :=
  ∀ path ∈ paths, resolve first path = resolve second path

variable {first second : Option Datum}

theorem SameAt.mono {few many : List (List Char)} (same : SameAt first second many)
    (included : few ⊆ many) : SameAt first second few :=
  fun path inside => same path (included inside)

theorem renderFrom_congr (skip : Nat) (template : List Char)
    (same : SameAt first second (pathsFrom skip template)) :
    renderFrom first skip template = renderFrom second skip template := by
  induction template generalizing skip with
  | nil => cases skip <;> rfl
  | cons c rest ih =>
    cases skip with
    | succ skip => exact ih skip same
    | zero =>
      rw [pathsFrom] at same
      rw [renderFrom, renderFrom]
      cases found : placeholder? (c :: rest) with
      | none =>
        rw [found] at same
        exact congrArg (c :: ·) (ih 0 same)
      | some placeholder =>
        obtain ⟨path, length⟩ := placeholder
        rw [found] at same
        have here : resolve first (trimChars path) = resolve second (trimChars path) :=
          same (trimChars path) List.mem_cons_self
        have later := ih (length - 1) (same.mono (List.subset_cons_self _ _))
        simp only [here, later]

namespace Condition

def paths (c : Condition) : List (List Char) := (c.field.map String.toList).toList

theorem holds_congr (c : Condition) (same : SameAt first second c.paths) :
    c.holds first = c.holds second := by
  unfold holds
  cases named : c.field with
  | none => rfl
  | some field =>
    have place : resolve first field.toList = resolve second field.toList :=
      same field.toList (by simp [paths, named])
    simp only [place]

end Condition

namespace Step

def paths (s : Step) : List (List Char) :=
  pathsFrom 0 s.template.toList ++ s.conditions.flatMap Condition.paths

theorem chars_congr (s : Step) (same : SameAt first second s.paths) :
    s.chars first = s.chars second := by
  have scanned : SameAt first second (pathsFrom 0 s.template.toList) :=
    same.mono (List.subset_append_left _ _)
  rw [chars, chars, renderChars, renderChars, renderFrom_congr 0 s.template.toList scanned]

theorem isIncluded_congr (s : Step) (same : SameAt first second s.paths) :
    s.isIncluded first = s.isIncluded second := by
  rw [isIncluded, isIncluded, Bool.eq_iff_iff, List.all_eq_true, List.all_eq_true]
  refine forall₂_congr fun c inside => ?_
  have tested : SameAt first second c.paths := fun path mentioned =>
    same path (List.mem_append_right _ (List.mem_flatMap.mpr ⟨c, inside, mentioned⟩))
  rw [c.holds_congr tested]

end Step

namespace Blocks

variable {steps : List Step}

theorem trace_congr (same : ∀ s ∈ steps, SameAt first second s.paths) :
    trace steps first = trace steps second := by
  refine List.map_congr_left fun s inside => ?_
  rw [s.isIncluded_congr (same s inside)]

theorem parts_congr (same : ∀ s ∈ steps, SameAt first second s.paths) :
    parts steps first = parts steps second := by
  have kept : steps.filter (·.isIncluded first) = steps.filter (·.isIncluded second) :=
    List.filter_congr fun s inside => s.isIncluded_congr (same s inside)
  have texts : (steps.filter (·.isIncluded second)).map (·.chars first) =
      (steps.filter (·.isIncluded second)).map (·.chars second) :=
    List.map_congr_left fun s inside => s.chars_congr (same s (List.mem_filter.mp inside).1)
  rw [parts, parts, kept, texts]

theorem text_congr (same : ∀ s ∈ steps, SameAt first second s.paths) :
    text steps first = text steps second := by
  rw [text, text, chars, chars, parts_congr same]

end Blocks

section Roots

/-- The path has a segment, and the first one is none of the names: dots alone would lead to the
whole context. -/
def Avoids (names : List String) (path : List Char) : Prop :=
  match segments path with
  | [] => False
  | root :: _ => String.ofList root ∉ names

instance (names : List String) (path : List Char) : Decidable (Avoids names path) := by
  unfold Avoids
  split <;> infer_instance

theorem resolve_congr {names : List String} {fields others : Entries Json}
    (agree : ∀ key ∉ names, Entries.get? fields key = Entries.get? others key) {path : List Char}
    (avoids : Avoids names path) :
    resolve (some (.plain (.obj fields))) path = resolve (some (.plain (.obj others))) path := by
  unfold Avoids at avoids
  rw [resolve, resolve]
  cases split : segments path with
  | nil =>
    rw [split] at avoids
    exact absurd avoids not_false
  | cons root rest =>
    rw [split] at avoids
    have start : Entries.get? fields (String.ofList root) =
        Entries.get? others (String.ofList root) := agree _ avoids
    have hop : Datum.hop (some (.plain (.obj fields))) root =
        Datum.hop (some (.plain (.obj others))) root :=
      congrArg (Option.map Datum.plain) start
    simp only [Datum.walk, List.foldl_cons, hop]

end Roots

end PromptStudio
