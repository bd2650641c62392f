import PromptStudio.Proofs.Json.Reading
import PromptStudio.Proofs.Reply.Decoding
import PromptStudio.Reply.Blueprint

set_option autoImplicit false

namespace PromptStudio

def White (text : String) : Prop := ∀ c ∈ text.toList, isBlank c = true

instance : DecidablePred White := fun text =>
  decidable_of_iff (text.toList.all isBlank = true) List.all_eq_true

theorem trim_eq_empty_iff (text : String) : trim text = "" ↔ White text := by
  rw [← String.toList_eq_nil_iff, toList_trim, trimChars_eq_nil_iff, White]

namespace Json

def at? : Json → List String → Option Json
  | v, [] => some v
  | .obj fields, key :: rest =>
    match Entries.get? fields key with
    | some v => v.at? rest
    | none => none
  | _, _ :: _ => none

/-- The path leads through objects to a text that is not blank. -/
structure SolidAt (v : Json) (path : List String) (text : String) : Prop where
  held : v.at? path = some (.str text)
  solid : ¬White text

def Nowhere (v : Json) : Prop := ∀ path ∈ blueprintPaths, ∀ text, ¬v.SolidAt path text

/-- The place holds a text that is not blank, and no place before it does. -/
structure KeptAt (v : Json) (before : List (List String)) (path : List String) (text : String) :
    Prop where
  here : v.SolidAt path text
  first : ∀ earlier ∈ before, ∀ other, ¬v.SolidAt earlier other

def remainder : Json → Json
  | .obj fields =>
    let output := (Entries.get? fields "final_output").getD .null
    if output.truthy then output else .obj fields
  | v => v

variable {v w : Json} {path : List String}

theorem solidText?_eq_some_iff {value : Json} {found : String} :
    Strategy.solidText? value = some found ↔
      ∃ text, value = .str text ∧ ¬White text ∧ trim text = found := by
  cases value with
  | str s =>
    have blank := trim_eq_empty_iff s
    rw [← String.toList_eq_nil_iff, toList_trim] at blank
    by_cases filled : White s <;> simp [Strategy.solidText?, blank, filled]
  | _ => simp [Strategy.solidText?]

-- A missing name is followed as null, which is no text and leads nowhere.
theorem runPath_eq (v : Json) (path : List String) :
    Strategy.runPath path v = (v.at? path).bind Strategy.solidText? := by
  induction path generalizing v with
  | nil => rfl
  | cons key rest ih =>
    cases v with
    | obj fields =>
      rw [Strategy.runPath, Strategy.follow?, at?]
      cases Entries.get? fields key with
      | some inner => exact ih inner
      | none => cases rest <;> rfl
    | _ => rfl

theorem runPath_eq_some_iff {found : String} :
    Strategy.runPath path v = some found ↔ ∃ text, v.SolidAt path text ∧ trim text = found := by
  rw [runPath_eq, Option.bind_eq_some_iff]
  constructor
  next =>
    rintro ⟨value, held, solid⟩
    obtain ⟨text, rfl, filled, same⟩ := solidText?_eq_some_iff.mp solid
    exact ⟨text, ⟨held, filled⟩, same⟩
  next =>
    rintro ⟨text, ⟨held, filled⟩, same⟩
    exact ⟨.str text, held, solidText?_eq_some_iff.mpr ⟨text, rfl, filled, same⟩⟩

theorem runPath_eq_none_iff : Strategy.runPath path v = none ↔ ∀ text, ¬v.SolidAt path text := by
  rw [Option.eq_none_iff_forall_ne_some]
  constructor
  next => exact fun nothing text solid => nothing _ (runPath_eq_some_iff.mpr ⟨text, solid, rfl⟩)
  next =>
    intro nothing found held
    obtain ⟨text, solid, -⟩ := runPath_eq_some_iff.mp held
    exact nothing text solid

theorem SolidAt.congr (same : w.at? path = v.at? path) {text : String} :
    w.SolidAt path text ↔ v.SolidAt path text :=
  ⟨fun solid => ⟨same ▸ solid.held, solid.solid⟩, fun solid => ⟨same.trans solid.held, solid.solid⟩⟩

theorem KeptAt.congr {before : List (List String)} {text : String} (kept : v.KeptAt before path text)
    (same : ∀ place ∈ before ++ [path], w.at? place = v.at? place) : w.KeptAt before path text :=
  ⟨(SolidAt.congr (same path (by simp))).mpr kept.here, fun earlier listed other solid =>
    kept.first earlier listed other ((SolidAt.congr (same earlier (by simp [listed]))).mp solid)⟩

theorem places_filled : ∀ path ∈ blueprintPaths, path ≠ [] := by decide

theorem SolidAt.fields {text : String} (solid : v.SolidAt path text) (filled : path ≠ []) :
    ∃ fields, v = .obj fields := by
  obtain ⟨key, rest, rfl⟩ := List.exists_cons_of_ne_nil filled
  cases v with
  | obj fields => exact ⟨fields, rfl⟩
  | _ => exact nomatch solid.held

theorem exists_keptAt (somewhere : ∃ path ∈ blueprintPaths, ∃ text, v.SolidAt path text) :
    ∃ before path after text, blueprintPaths = before ++ path :: after ∧
      v.KeptAt before path text := by
  have found : (blueprintPaths.findSome? (Strategy.runPath · v)).isSome = true := by
    rw [List.findSome?_isSome_iff]
    obtain ⟨path, listed, text, solid⟩ := somewhere
    exact ⟨path, listed, by rw [runPath_eq_some_iff.mpr ⟨text, solid, rfl⟩]; rfl⟩
  obtain ⟨found, first⟩ := Option.isSome_iff_exists.mp found
  obtain ⟨before, path, after, split, here, nowhere⟩ := List.findSome?_eq_some_iff.mp first
  obtain ⟨text, solid, -⟩ := runPath_eq_some_iff.mp here
  exact ⟨before, path, after, text, split, solid,
    fun earlier listed => runPath_eq_none_iff.mp (nowhere earlier listed)⟩

theorem nowhere_or_keptAt (v : Json) : v.Nowhere ∨
    ∃ before path after text, blueprintPaths = before ++ path :: after ∧
      v.KeptAt before path text := by
  by_cases somewhere : ∃ path ∈ blueprintPaths, ∃ text, v.SolidAt path text
  next => exact .inr (exists_keptAt somewhere)
  next => exact .inl fun path listed text solid => somewhere ⟨path, listed, text, solid⟩

theorem isWritable_of_get? {fields : Entries Json} {key : String} {value : Json}
    (writable : (Json.obj fields).isWritable = true) (held : Entries.get? fields key = some value) :
    value.isWritable = true :=
  (fieldsWritable_iff fields).mp writable _ (Entries.mem_of_get? held)

theorem write?_eq_some (style : Style) (writable : v.isWritable = true) :
    v.write? style = some (v.write style) := by
  rw [write?, if_pos writable]

theorem write?_eq_none (style : Style) (long : v.isWritable = false) : v.write? style = none := by
  rw [write?, long]
  rfl

theorem Style.plain_plain : Style.plain.Plain :=
  ⟨⟨[' '], rfl, by simp [isGap]⟩, [' '], rfl, by simp [isGap]⟩

theorem textOf_cases (v : Json) : v = .null ∨ (∃ s, v = .str s) ∨
    v ≠ .null ∧ v.asText? = none ∧ Strategy.textOf v = v.write? .plain := by
  cases v with
  | null => exact .inl rfl
  | str s => exact .inr (.inl ⟨s, rfl⟩)
  | _ => exact .inr (.inr ⟨by simp, rfl, rfl⟩)

theorem isWritable_of_textOf (solid : v ≠ .null) (unwritten : Strategy.textOf v = .none) :
    v.isWritable = false := by
  rcases textOf_cases v with rfl | ⟨s, rfl⟩ | ⟨-, -, written⟩
  · exact absurd rfl solid
  · cases unwritten
  · rw [← Bool.not_eq_true]
    intro writable
    rw [written, write?_eq_some .plain writable] at unwritten
    cases unwritten

theorem write_ne_empty (style : Style) (v : Json) : v.write style ≠ "" := by
  obtain ⟨c, more, text, -⟩ := starts_chars style v
  rw [write, text]
  simp

structure WrittenAs (v : Json) (text : String) : Prop where
  written : text = v.write .plain
  decoded : v.Exact → read? text = some v

theorem textOf_writtenAs (solid : v ≠ .null) (other : v.asText? = none) (distinct : v.Distinct)
    (writable : v.isWritable = true) : v.WrittenAs ((Strategy.textOf v).getD "") := by
  have written : (Strategy.textOf v).getD "" = v.write .plain := by
    rcases textOf_cases v with rfl | ⟨s, rfl⟩ | ⟨-, -, text⟩
    · exact absurd rfl solid
    · cases other
    · rw [text, write?_eq_some .plain writable, Option.getD_some]
  refine ⟨written, fun exact => ?_⟩
  rw [written, read?_write Style.plain_plain (exact.portable distinct writable)]

theorem blueprintOf_of_keptAt {before after : List (List String)} {text : String}
    (split : blueprintPaths = before ++ path :: after) (kept : v.KeptAt before path text) :
    blueprintOf v = trim text := by
  have listed : path ∈ blueprintPaths := by simp [split]
  obtain ⟨fields, rfl⟩ := kept.here.fields (places_filled path listed)
  have place : blueprintPaths.findSome? (Strategy.runPath · (.obj fields)) = some (trim text) :=
    List.findSome?_eq_some_iff.mpr ⟨before, path, after, split,
      runPath_eq_some_iff.mpr ⟨text, kept.here, rfl⟩,
      fun earlier inside => runPath_eq_none_iff.mpr (kept.first earlier inside)⟩
  simp only [blueprintOf, place, Option.some_or, Option.getD_some]

-- An output that cannot be written is part of a reply that cannot be written either.
theorem runSerialized_eq (fields : Entries Json) :
    (Strategy.runSerialized (some "final_output") (.obj fields)).or
        (Strategy.runSerialized none (.obj fields)) =
      Strategy.textOf (Json.obj fields).remainder := by
  simp only [Strategy.runSerialized, remainder]
  cases held : Entries.get? fields "final_output" with
  | none => rfl
  | some output =>
    rw [Option.getD_some]
    by_cases counts : output.truthy = true
    next =>
      simp only [if_pos counts]
      cases written : Strategy.textOf output with
      | some text => rfl
      | none =>
        have solid : output ≠ .null := by
          rintro rfl
          cases counts
        have long : (Json.obj fields).isWritable = false := by
          rw [← Bool.not_eq_true]
          intro writable
          have short := isWritable_of_get? writable held
          rw [isWritable_of_textOf solid written] at short
          cases short
        exact write?_eq_none .plain long
    next => simp only [if_neg counts, Option.none_or, Strategy.textOf]

theorem blueprintOf_nowhere (nowhere : v.Nowhere) :
    blueprintOf v = (Strategy.textOf v.remainder).getD "" := by
  have places : blueprintPaths.findSome? (Strategy.runPath · v) = none :=
    List.findSome?_eq_none_iff.mpr fun path listed => runPath_eq_none_iff.mpr (nowhere path listed)
  cases v with
  | str s => rfl
  | obj fields => simp only [blueprintOf, places, Option.none_or, runSerialized_eq]
  | null => rfl
  | _ =>
    simp only [blueprintOf, places, Option.none_or, Strategy.runSerialized, remainder]
    split <;> simp

theorem textOf_trimmed (v : Json) : Trimmed ((Strategy.textOf v).getD "").toList := by
  have nothing : Trimmed "".toList := trimmed_of_visible (List.forall_mem_nil _)
  rcases textOf_cases v with rfl | ⟨s, rfl⟩ | ⟨-, -, written⟩
  · exact nothing
  · rw [Strategy.textOf, Option.getD_some, toList_trim]
    exact trimmed_trimChars s.toList
  · rw [written, write?]
    split
    next =>
      rw [Option.getD_some, write, String.toList_ofList]
      exact trimmed_chars .plain v
    next => exact nothing

theorem textOf_empty_iff (v : Json) : (Strategy.textOf v).getD "" = "" ↔
    v = .null ∨ (∃ s, v = .str s ∧ White s) ∨ v.isWritable = false := by
  rcases textOf_cases v with rfl | ⟨s, rfl⟩ | ⟨solid, other, written⟩
  · simp [Strategy.textOf]
  · simp [Strategy.textOf, trim_eq_empty_iff, isWritable]
  · have text (s : String) : v ≠ .str s := by
      rintro rfl
      cases other
    rw [written, write?]
    cases writable : v.isWritable <;> simp [solid, text, write_ne_empty]

theorem remainder_of_output {fields : Entries Json} {output : Json}
    (held : Entries.get? fields "final_output" = some output) (counts : output.truthy = true) :
    (Json.obj fields).remainder = output := by
  simp [remainder, held, counts]

theorem remainder_of_no_output {fields : Entries Json}
    (blank : ((Json.obj fields).field "final_output").truthy = false) :
    (Json.obj fields).remainder = .obj fields := by
  simp only [field, get?] at blank
  simp [remainder, blank]

theorem remainder_cases (v : Json) : v.remainder = v ∨
    ∃ output, v.get? "final_output" = some output ∧ output.truthy = true ∧ v.remainder = output := by
  cases v with
  | obj fields =>
    cases held : Entries.get? fields "final_output" with
    | none => exact .inl (by simp [remainder, held])
    | some output =>
      by_cases counts : output.truthy = true
      next => exact .inr ⟨output, held, counts, remainder_of_output held counts⟩
      next => exact .inl (by simp [remainder, held, counts])
  | _ => exact .inl rfl

/-- The output is white space, and no place holds a blueprint. -/
structure BlankOutput (v : Json) : Prop where
  nowhere : v.Nowhere
  output : ∃ text, v.get? "final_output" = some (.str text) ∧ text ≠ "" ∧ White text

/-- What would have to be written holds an integer that is too long, and no place a blueprint. -/
structure Unwritten (v : Json) : Prop where
  nowhere : v.Nowhere
  long : v.remainder.isWritable = false

theorem isWritable_remainder (writable : v.isWritable = true) : v.remainder.isWritable = true := by
  rcases remainder_cases v with whole | ⟨output, held, -, part⟩
  · rwa [whole]
  · rw [part]
    cases v with
    | obj fields => exact isWritable_of_get? writable held
    | _ => cases held

theorem remainder_blank_iff (nowhere : v.Nowhere) :
    v.remainder = .null ∨ (∃ s, v.remainder = .str s ∧ White s) ↔
      (v = .null ∨ ∃ s, v = .str s ∧ White s) ∨ v.BlankOutput := by
  constructor
  next =>
    intro blank
    rcases remainder_cases v with whole | ⟨output, held, counts, part⟩
    · rw [whole] at blank
      exact .inl blank
    · rw [part] at blank
      rcases blank with rfl | ⟨s, rfl, blank⟩
      · cases counts
      · exact .inr ⟨nowhere, s, held, by simpa using counts, blank⟩
  next =>
    rintro ((rfl | ⟨s, rfl, blank⟩) | ⟨-, s, held, filled, blank⟩)
    · exact .inl rfl
    · exact .inr ⟨s, rfl, blank⟩
    · cases v with
      | obj fields => exact .inr ⟨s, remainder_of_output held (by simpa using filled), blank⟩
      | _ => cases held

theorem blueprintOf_nowhere_empty_iff (nowhere : v.Nowhere) : blueprintOf v = "" ↔
    (v = .null ∨ ∃ s, v = .str s ∧ White s) ∨ v.BlankOutput ∨ v.Unwritten := by
  have unwritten : v.remainder.isWritable = false ↔ v.Unwritten :=
    ⟨fun long => ⟨nowhere, long⟩, Unwritten.long⟩
  rw [blueprintOf_nowhere nowhere, textOf_empty_iff, unwritten, ← or_assoc,
    remainder_blank_iff nowhere, or_assoc]

theorem blueprintOf_trimmed (v : Json) : Trimmed (blueprintOf v).toList := by
  rcases nowhere_or_keptAt v with nowhere | ⟨before, path, after, text, split, kept⟩
  · rw [blueprintOf_nowhere nowhere]
    exact textOf_trimmed v.remainder
  · rw [blueprintOf_of_keptAt split kept, toList_trim]
    exact trimmed_trimChars text.toList

theorem blueprintOf_eq_empty_iff (v : Json) : blueprintOf v = "" ↔
    (v = .null ∨ ∃ s, v = .str s ∧ White s) ∨ v.BlankOutput ∨ v.Unwritten := by
  rcases nowhere_or_keptAt v with nowhere | ⟨before, path, after, text, split, kept⟩
  · exact blueprintOf_nowhere_empty_iff nowhere
  · have listed : path ∈ blueprintPaths := by simp [split]
    have somewhere : ¬v.Nowhere := fun nowhere => nowhere path listed text kept.here
    obtain ⟨fields, rfl⟩ := kept.here.fields (places_filled path listed)
    rw [blueprintOf_of_keptAt split kept, trim_eq_empty_iff]
    constructor
    next => exact fun blank => absurd blank kept.here.solid
    next =>
      rintro ((object | ⟨s, object, -⟩) | blank | unwritten)
      · cases object
      · cases object
      · exact absurd blank.nowhere somewhere
      · exact absurd unwritten.nowhere somewhere

end Json

-- Every reply that is read from text can be written, so only a blank output ends the search early.
theorem blueprintOf_found (v : Json) :
    Trimmed (blueprintOf v).toList ∧
      (blueprintOf v = "" ↔
        (v = .null ∨ ∃ s, v = .str s ∧ White s) ∨ v.BlankOutput ∨ v.Unwritten) ∧
      (∀ text, Json.read? text = some v → ¬v.Unwritten) ∧
      ∀ before path after text, blueprintPaths = before ++ path :: after →
        v.KeptAt before path text → blueprintOf v = trim text := by
  refine ⟨v.blueprintOf_trimmed, v.blueprintOf_eq_empty_iff, ?_,
    fun before path after text split kept => Json.blueprintOf_of_keptAt split kept⟩
  intro text read unwritten
  have short := Json.isWritable_remainder (Json.writable_of_read read)
  rw [unwritten.long] at short
  cases short

def settledReply : Json :=
  .obj [("final_output", .obj [("expanded_prompt_text", .str " ")]), ("expanded_prompt", .str "\tGo\n")]

theorem blueprintOf_settledReply :
    Json.read? (settledReply.write .plain) = some settledReply ∧ ¬settledReply.Unwritten ∧
      blueprintOf settledReply = "Go" := by
  have portable : settledReply.Portable := by
    simp [settledReply, Json.Portable, Json.FieldsPortable, Entries.keys]
  have read := Json.read?_write Json.Style.plain_plain portable
  have kept : settledReply.KeptAt (blueprintPaths.take 6) ["expanded_prompt"] "\tGo\n" := by
    refine ⟨⟨rfl, by decide⟩, fun earlier listed => Json.runPath_eq_none_iff.mp ?_⟩
    revert earlier
    decide
  obtain ⟨-, -, written, first⟩ := blueprintOf_found settledReply
  refine ⟨read, written _ read, ?_⟩
  rw [first (blueprintPaths.take 6) ["expanded_prompt"] [["final_prompt"]] "\tGo\n" rfl kept]
  decide

theorem blueprintOf_blankOutput :
    let reply : Json := .obj [("final_output", .str "   ")]
    reply ≠ .null ∧ (∀ text, reply ≠ .str text) ∧ blueprintOf reply = "" :=
  ⟨nofun, nofun, by decide⟩

theorem blueprintOf_prioritized (fields : Entries Json) :
    let reply := Json.obj fields
    ((∃ path ∈ blueprintPaths, ∃ text, reply.SolidAt path text) →
        ∃ before path after text, blueprintPaths = before ++ path :: after ∧
          reply.KeptAt before path text) ∧
      (∀ before path after text, blueprintPaths = before ++ path :: after →
        reply.KeptAt before path text → blueprintOf reply = trim text ∧
          ∀ other : Json, (∀ place ∈ before ++ [path], other.at? place = reply.at? place) →
            blueprintOf other = blueprintOf reply) ∧
      ∀ source, Json.read? source = some reply → reply.Nowhere →
        (∀ output, reply.get? "final_output" = some output → output.truthy = true →
          output.asText? = none → output.WrittenAs (blueprintOf reply)) ∧
        ((reply.field "final_output").truthy = false → reply.WrittenAs (blueprintOf reply)) := by
  intro reply
  refine ⟨Json.exists_keptAt, ?_, fun source read nowhere => ?_⟩
  · intro before path after text split kept
    have found := Json.blueprintOf_of_keptAt split kept
    refine ⟨found, fun other same => ?_⟩
    rw [found, Json.blueprintOf_of_keptAt split (kept.congr same)]
  · have distinct : reply.Distinct := Json.distinct_of_readChars read
    have writable : reply.isWritable = true := Json.writable_of_read read
    rw [Json.blueprintOf_nowhere nowhere]
    constructor
    next =>
      intro output held counts other
      rw [Json.remainder_of_output held counts]
      refine Json.textOf_writtenAs ?_ other (distinct.value (Entries.mem_of_get? held))
        (Json.isWritable_of_get? writable held)
      rintro rfl
      cases counts
    next =>
      intro blank
      rw [Json.remainder_of_no_output blank]
      exact Json.textOf_writtenAs nofun rfl distinct writable

def nestedFields : Entries Json :=
  [("final_output", .obj [("expanded_prompt", .str " a ")]), ("final_prompt", .str "b")]

def slideFields : Entries Json := [("final_output", .obj [("slides", .arr [.int 1])])]

def strayFields : Entries Json := [("other", .str "x"), ("final_output", .arr [])]

theorem blueprintOf_nestedFields :
    blueprintOf (.obj nestedFields) = "a" ∧
      blueprintOf (.obj (nestedFields ++ [("expanded_prompt_text", .str "c")])) = "a" ∧
      Json.read? (blueprintOf (.obj slideFields)) = some (.obj [("slides", .arr [.int 1])]) ∧
      blueprintOf (.obj strayFields) = (Json.obj strayFields).write .plain := by
  have nowhere (reply : Json) (missing : ∀ path ∈ blueprintPaths, Strategy.runPath path reply = none) :
      reply.Nowhere := fun path listed => Json.runPath_eq_none_iff.mp (missing path listed)
  have kept : (Json.obj nestedFields).KeptAt (blueprintPaths.take 2)
      ["final_output", "expanded_prompt"] " a " := by
    refine ⟨⟨rfl, by decide⟩, fun earlier listed => Json.runPath_eq_none_iff.mp ?_⟩
    revert earlier
    decide
  have first := (blueprintOf_prioritized nestedFields).2.1 (blueprintPaths.take 2)
    ["final_output", "expanded_prompt"] (blueprintPaths.drop 3) " a " rfl kept
  have found : blueprintOf (.obj nestedFields) = "a" := first.1.trans (by decide)
  have one : (decimalDigits 1).length ≤ digitLimit := by decide
  have portable : (Json.obj slideFields).Portable ∧ (Json.obj strayFields).Portable := by
    simpa [slideFields, strayFields, Json.Portable, Json.FieldsPortable, Json.ItemsPortable,
      Entries.keys] using one
  have slides := (blueprintOf_prioritized slideFields).2.2 _
    (Json.read?_write Json.Style.plain_plain portable.1) (nowhere _ (by decide))
  have stray := (blueprintOf_prioritized strayFields).2.2 _
    (Json.read?_write Json.Style.plain_plain portable.2) (nowhere _ (by decide))
  have exact : (Json.obj [("slides", .arr [.int 1])]).Exact := by
    simp [Json.Exact, Json.FieldsExact, Json.ItemsExact]
  refine ⟨found, ?_, (slides.1 _ rfl rfl rfl).decoded exact, (stray.2 rfl).written⟩
  rw [← found]
  exact first.2 _ (List.forall_mem_cons.mpr ⟨rfl, List.forall_mem_cons.mpr
    ⟨rfl, List.forall_mem_singleton.mpr rfl⟩⟩)

end PromptStudio
