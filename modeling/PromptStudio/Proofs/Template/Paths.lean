import PromptStudio.Proofs.Text.Trimming
import PromptStudio.Template.Path

set_option autoImplicit false

namespace PromptStudio

section Position

variable {α : Type} {items : List α} {item : α} {n : Int}

/-- A position counts from the start of a list, or back from its end. -/
inductive StandsAt (items : List α) (item : α) : Int → Prop where
  | fromStart {k : Nat} (held : items[k]? = some item) : StandsAt items item k
  | fromEnd {k : Nat} (held : items[k]? = some item) : StandsAt items item (k - items.length)

theorem itemAt?_eq_some_iff : itemAt? items n = some item ↔ StandsAt items item n := by
  constructor
  next =>
    intro held
    unfold itemAt? at held
    split at held
    next start =>
      obtain ⟨k, rfl⟩ := Int.eq_ofNat_of_zero_le start
      exact .fromStart held
    next =>
      split at held
      next back =>
        obtain ⟨k, counted⟩ := Int.eq_ofNat_of_zero_le (show 0 ≤ n + items.length by omega)
        rw [counted, Int.toNat_natCast] at held
        obtain rfl : n = k - items.length := by omega
        exact .fromEnd held
      next => cases held
  next =>
    intro stands
    unfold itemAt?
    cases stands with
    | fromStart held => simpa using held
    | @fromEnd k held =>
      have inside := (List.getElem?_eq_some_iff.mp held).1
      rw [if_neg (by omega), if_pos (by omega), Int.sub_add_cancel]
      exact held

end Position

namespace Datum

variable {d e f : Datum} {place : Option Datum} {segment : List Char} {path : List (List Char)}

/-- One hop: by name into an object, a record or a map, by position into a list, and from a moment or
a number to its parts. -/
inductive Hop : Datum → List Char → Datum → Prop where
  | entry {fields : Entries Json} {v : Json} {segment : List Char}
      (held : Entries.get? fields (String.ofList segment) = some v) :
      Hop (.plain (.obj fields)) segment (.plain v)
  | item {items : List Json} {v : Json} {segment : List Char} {n : Int}
      (read : integerOf? segment = some n) (stands : StandsAt items v n) :
      Hop (.plain (.arr items)) segment (.plain v)
  | field {fields : List (String × Datum)} {d : Datum} {segment : List Char}
      (held : Entries.get? fields (String.ofList segment) = some d) : Hop (.record fields) segment d
  | named {entries : List (String × Datum)} {d : Datum} {segment : List Char}
      (held : Entries.get? entries (String.ofList segment) = some d) : Hop (.map entries) segment d
  | placed {items : List Datum} {d : Datum} {segment : List Char} {n : Int}
      (read : integerOf? segment = some n) (stands : StandsAt items d n) :
      Hop (.list items) segment d
  | timed {time : Moment} {n : Nat} {segment : List Char}
      (held : time.part? (String.ofList segment) = some n) :
      Hop (.moment time) segment (.plain (.int n))
  | numeric {v part : Json} {segment : List Char}
      (held : Entries.get? v.numberParts (String.ofList segment) = some part) :
      Hop (.plain v) segment (.plain part)

theorem step_eq_some_iff : d.step segment = some e ↔ Hop d segment e := by
  constructor
  next =>
    intro stepped
    unfold step at stepped
    split at stepped
    next fields =>
      obtain ⟨v, held, rfl⟩ := Option.map_eq_some_iff.mp stepped
      exact .entry held
    next items =>
      obtain ⟨v, found, rfl⟩ := Option.map_eq_some_iff.mp stepped
      obtain ⟨n, read, held⟩ := Option.bind_eq_some_iff.mp found
      exact .item read (itemAt?_eq_some_iff.mp held)
    next fields => exact .field stepped
    next entries => exact .named stepped
    next items =>
      obtain ⟨n, read, held⟩ := Option.bind_eq_some_iff.mp stepped
      exact .placed read (itemAt?_eq_some_iff.mp held)
    next time =>
      obtain ⟨n, read, rfl⟩ := Option.map_eq_some_iff.mp stepped
      obtain ⟨k, held, ⟨⟩⟩ := Option.bind_eq_some_iff.mp read
      exact .timed held
    next v _ _ =>
      obtain ⟨part, held, rfl⟩ := Option.map_eq_some_iff.mp stepped
      exact .numeric held
  next =>
    intro hop
    cases hop with
    | entry held => exact Option.map_eq_some_iff.mpr ⟨_, held, rfl⟩
    | item read stands =>
      have found := itemAt?_eq_some_iff.mpr stands
      simp [step, read, found]
    | field held => exact held
    | named held => exact held
    | placed read stands =>
      have found := itemAt?_eq_some_iff.mpr stands
      simp [step, read, found]
    | timed held => simp [step, held]
    | @numeric v part segment held =>
      cases v with
      | int | bool | float => exact Option.map_eq_some_iff.mpr ⟨_, held, rfl⟩
      | null | str | arr | obj => cases held

-- Null has no parts, so it need not be told apart.
theorem hop_some (d : Datum) (segment : List Char) : hop (some d) segment = d.step segment := by
  unfold hop
  dsimp only
  split
  next null =>
    obtain rfl : d = .plain .null := by
      unfold isNull at null
      split at null <;> first | rfl | cases null
    rfl
  next => rfl

inductive Leads : Datum → List (List Char) → Datum → Prop where
  | stay {d : Datum} : Leads d [] d
  | hop {d e f : Datum} {segment : List Char} {path : List (List Char)}
      (first : Hop d segment e) (later : Leads e path f) : Leads d (segment :: path) f

theorem leads_append {first second : List (List Char)} :
    Leads d (first ++ second) f ↔ ∃ e, Leads d first e ∧ Leads e second f := by
  induction first generalizing d with
  | nil =>
    constructor
    next => exact fun leads => ⟨d, .stay, leads⟩
    next =>
      rintro ⟨e, stay, leads⟩
      cases stay
      exact leads
  | cons segment first ih =>
    constructor
    next =>
      intro leads
      cases leads with
      | hop start later =>
        obtain ⟨e, front, back⟩ := ih.mp later
        exact ⟨e, .hop start front, back⟩
    next =>
      rintro ⟨e, front, back⟩
      cases front with
      | hop start later => exact .hop start (ih.mpr ⟨e, later, back⟩)

theorem walk_none (path : List (List Char)) : walk none path = none := by
  induction path with
  | nil => rfl
  | cons segment path ih => exact ih

theorem walk_some_iff : walk (some d) path = some f ↔ Leads d path f := by
  induction path generalizing d with
  | nil =>
    constructor
    next =>
      rintro ⟨⟩
      exact .stay
    next =>
      rintro ⟨⟩
      rfl
  | cons segment path ih =>
    have onward : walk (some d) (segment :: path) = walk (d.step segment) path :=
      congrArg (walk · path) (hop_some d segment)
    rw [onward]
    cases stepped : d.step segment with
    | none =>
      rw [walk_none]
      refine iff_of_false nofun ?_
      intro leads
      cases leads with
      | hop first later => cases stepped.symm.trans (step_eq_some_iff.mpr first)
    | some e =>
      rw [ih]
      constructor
      next => exact .hop (step_eq_some_iff.mp stepped)
      next =>
        intro leads
        cases leads with
        | hop first later =>
          cases stepped.symm.trans (step_eq_some_iff.mpr first)
          exact later

def nested (names : List (List Char)) (d : Datum) : Datum :=
  names.foldr (fun name inner => .map [(String.ofList name, inner)]) d

theorem leads_nested (names : List (List Char)) (d : Datum) : (nested names d).Leads names d := by
  induction names with
  | nil => exact .stay
  | cons name names ih =>
    have held : Entries.get? [(String.ofList name, nested names d)] (String.ofList name) =
        some (nested names d) := by simp [Entries.get?_cons]
    exact .hop (.named held) ih

end Datum

variable {context : Option Datum} {p q path : List Char} {d : Datum}

theorem resolve_eq_some_iff (filled : path ≠ []) :
    resolve context path = some d ↔ ∃ start, context = some start ∧ start.Leads (segments path) d := by
  rw [resolve, List.isEmpty_eq_false_iff.mpr filled]
  cases context with
  | none => simp [Datum.walk_none]
  | some start => simp [Datum.walk_some_iff]

-- Whatever is to be read can stand where a path leads: each of its names opens a map.
theorem exists_resolve_eq (filled : path ≠ []) (place : Option Datum) :
    ∃ context, resolve context path = place := by
  cases place with
  | none =>
    refine ⟨none, ?_⟩
    rw [resolve, List.isEmpty_eq_false_iff.mpr filled]
    exact Datum.walk_none _
  | some d =>
    refine ⟨some (Datum.nested (segments path) d), ?_⟩
    exact (resolve_eq_some_iff filled).mpr ⟨_, rfl, Datum.leads_nested _ d⟩

section Segments

theorem segments_join (p q : List Char) : segments (p ++ '.' :: q) = segments p ++ segments q := by
  rw [segments, List.splitOn_append_cons_self, List.map_append, List.filter_append]
  rfl

theorem not_mem_of_mem_splitOn {sep : Char} {part text : List Char} (inside : part ∈ text.splitOn sep) :
    sep ∉ part := by
  induction text generalizing part with
  | nil =>
    obtain rfl : part = [] := by simpa using inside
    exact List.not_mem_nil
  | cons c text ih =>
    rw [List.splitOn_cons_eq_if_modifyHead] at inside
    obtain ⟨first, others, parts⟩ := List.exists_cons_of_ne_nil (List.splitOn_ne_nil sep text)
    rw [parts] at inside ih
    split at inside
    next =>
      rcases List.mem_cons.mp inside with rfl | later
      · exact List.not_mem_nil
      · exact ih later
    next apart =>
      rcases List.mem_cons.mp inside with rfl | later
      · have rest := ih List.mem_cons_self
        have other : sep ≠ c := fun same => apart (beq_iff_eq.mpr same.symm)
        simp [other, rest]
      · exact ih (List.mem_cons_of_mem first later)

structure IsSegment (text : List Char) : Prop where
  filled : text ≠ []
  undotted : '.' ∉ text
  trimmed : Trimmed text

theorem isSegment_of_mem {segment : List Char} (inside : segment ∈ segments path) :
    IsSegment segment := by
  obtain ⟨trimmed, filled⟩ := List.mem_filter.mp inside
  obtain ⟨part, split, rfl⟩ := List.mem_map.mp trimmed
  refine ⟨by simpa using filled, fun dotted => ?_, trimmed_trimChars part⟩
  rw [trimChars_eq_rdropWhile] at dotted
  have front := (List.rdropWhile_prefix isBlank (part.dropWhile isBlank)).subset dotted
  exact not_mem_of_mem_splitOn split ((List.dropWhile_suffix isBlank).subset front)

def dotted (names : List (List Char)) : List Char := ['.'].intercalate names

theorem segments_dotted {names : List (List Char)} (named : names ≠ [])
    (each : ∀ name ∈ names, IsSegment name) : segments (dotted names) = names := by
  rw [segments, dotted, List.splitOn_intercalate '.' (fun name inside => (each name inside).undotted)
    named]
  have trimmed : names.map trimChars = names.map id :=
    List.map_congr_left fun name inside => (each name inside).trimmed.trimChars
  rw [trimmed, List.map_id, List.filter_eq_self]
  intro name inside
  simpa using (each name inside).filled

end Segments

theorem resolve_composed (context : Option Datum) (first : p ≠ []) (second : q ≠ []) :
    resolve context (p ++ '.' :: q) = resolve (resolve context p) q ∧
      (segments p = segments q → resolve context p = resolve context q) ∧
      (segments p ≠ [] → resolve context p = resolve context (dotted (segments p))) ∧
      ∀ d, resolve context p = some d ↔
        ∃ start, context = some start ∧ start.Leads (segments p) d := by
  have alike {p q : List Char} (first : p ≠ []) (second : q ≠ []) (same : segments p = segments q) :
      resolve context p = resolve context q := by
    ext d
    rw [resolve_eq_some_iff first, resolve_eq_some_iff second, same]
  refine ⟨?joined, alike first second, ?tidied, fun d => resolve_eq_some_iff first⟩
  case joined =>
    ext d
    simp only [resolve_eq_some_iff second, resolve_eq_some_iff first,
      resolve_eq_some_iff (List.append_ne_nil_of_right_ne_nil p (List.cons_ne_nil '.' q)),
      segments_join, Datum.leads_append]
    constructor
    next =>
      rintro ⟨start, known, place, front, back⟩
      exact ⟨place, ⟨start, known, front⟩, back⟩
    next =>
      rintro ⟨place, ⟨start, known, front⟩, back⟩
      exact ⟨start, known, place, front, back⟩
  case tidied =>
    intro named
    have same := segments_dotted named fun name inside => isSegment_of_mem inside
    refine alike first (fun empty => ?_) same.symm
    rw [empty] at same
    exact named same.symm

def runLog : Option Datum :=
  some (.map [("runs", .list [.record [("score", .plain .null)],
    .record [("tags", .plain (.arr [.str "deck", .int 7]))]])])

theorem resolve_runLog :
    " runs.. -1 ".toList ≠ [] ∧ "tags. +1 .real".toList ≠ [] ∧
      resolve (resolve runLog " runs.. -1 ".toList) "tags. +1 .real".toList = some (.plain (.int 7)) ∧
      resolve runLog (" runs.. -1 ".toList ++ '.' :: "tags. +1 .real".toList) =
        some (.plain (.int 7)) ∧
      resolve runLog " runs.. -1 ".toList = resolve runLog "runs.-1".toList ∧
      resolve runLog "runs.0.score.".toList = some (.plain .null) ∧
      resolve (resolve runLog "runs.0.score.".toList) "tags".toList = none ∧
      resolve runLog ("runs.0.score.".toList ++ '.' :: "tags".toList) = none := by
  have front : " runs.. -1 ".toList ≠ [] := by decide
  have back : "tags. +1 .real".toList ≠ [] := by decide
  have reached : resolve (resolve runLog " runs.. -1 ".toList) "tags. +1 .real".toList =
      some (.plain (.int 7)) := rfl
  have lost : resolve (resolve runLog "runs.0.score.".toList) "tags".toList = none := rfl
  obtain ⟨joined, -⟩ := resolve_composed runLog front back
  obtain ⟨-, alike, -⟩ := resolve_composed runLog front (q := "runs.-1".toList) (by decide)
  obtain ⟨short, -⟩ :=
    resolve_composed runLog (p := "runs.0.score.".toList) (q := "tags".toList) (by decide) (by decide)
  exact ⟨front, back, reached, joined.trans reached, alike (by decide +kernel), rfl, lost,
    short.trans lost⟩

end PromptStudio
