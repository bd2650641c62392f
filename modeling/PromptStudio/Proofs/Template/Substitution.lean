import PromptStudio.Template.Blocks

set_option autoImplicit false

/-!
# One pass over a template

Text between placeholders is written as it stands, and a placeholder gives way to the text of what
its path leads to. What was put in is not looked at again.
-/

namespace PromptStudio

theorem placeholder?_eq_none {c : Char} {rest : List Char}
    (apart : c = '{' → rest.head? ≠ some '{') : placeholder? (c :: rest) = none := by
  unfold placeholder?
  split
  next same =>
    injection same with brace later
    exact absurd (by rw [later]; rfl) (apart brace)
  next => rfl

theorem placeholder?_slot {path : List Char} (named : path ≠ []) (closed : '}' ∉ path)
    (rest : List Char) : placeholder? ('{' :: '{' :: (path ++ '}' :: '}' :: rest)) =
      some (path, path.length + 4) := by
  have inside : ∀ c ∈ path, (c != '}') = true := fun c there =>
    bne_iff_ne.mpr fun same => closed (same ▸ there)
  have body : (path ++ '}' :: '}' :: rest).takeWhile (· != '}') = path := by
    rw [List.takeWhile_append_of_pos inside]
    simp
  have behind : (path ++ '}' :: '}' :: rest).dropWhile (· != '}') = '}' :: '}' :: rest := by
    rw [List.dropWhile_append_of_pos inside]
    simp
  obtain ⟨c, path, rfl⟩ := List.exists_cons_of_ne_nil named
  simp only [placeholder?, body, behind]

theorem renderFrom_append (context : Option Datum) (front rest : List Char) :
    renderFrom context front.length (front ++ rest) = renderFrom context 0 rest := by
  induction front with
  | nil => rfl
  | cons c front ih => exact ih

-- Two opening braces in a row could start a placeholder, and one at the end could meet another.
theorem renderFrom_literal (context : Option Datum) {literal : List Char}
    (single : ¬['{', '{'] <:+: literal) (rest : List Char)
    (closed : literal.getLast? = some '{' → rest.head? ≠ some '{') :
    renderFrom context 0 (literal ++ rest) = literal ++ renderFrom context 0 rest := by
  induction literal with
  | nil => rfl
  | cons c literal ih =>
    have apart : c = '{' → (literal ++ rest).head? ≠ some '{' := by
      rintro rfl
      cases literal with
      | nil => exact closed rfl
      | cons d literal =>
        intro brace
        obtain rfl : d = '{' := Option.some.inj brace
        exact single ⟨[], literal, rfl⟩
    have later : renderFrom context 0 (literal ++ rest) = literal ++ renderFrom context 0 rest := by
      refine ih (fun inside => single (inside.trans (List.infix_cons List.infix_rfl))) ?_
      cases literal with
      | nil => simp
      | cons d literal => rwa [List.getLast?_cons_cons] at closed
    rw [List.cons_append, renderFrom, placeholder?_eq_none apart, later, List.cons_append]

theorem renderFrom_slot (context : Option Datum) {path : List Char} (named : path ≠ [])
    (closed : '}' ∉ path) (rest : List Char) :
    renderFrom context 0 ('{' :: '{' :: (path ++ '}' :: '}' :: rest)) =
      Datum.charsOf (resolve context (trimChars path)) ++ renderFrom context 0 rest := by
  have skipped := renderFrom_append context ('{' :: path ++ ['}', '}']) rest
  have length : ('{' :: path ++ ['}', '}']).length = path.length + 4 - 1 := by simp
  rw [length] at skipped
  rw [renderFrom, placeholder?_slot named closed, ← skipped]
  simp

section Names

variable {name : String} {fields : Entries Json} {v : Json}

/-- A name that a placeholder can spell and that leads to one entry. -/
structure Spellable (name : String) : Prop where
  filled : name.toList ≠ []
  single : segments name.toList = [name.toList]
  bare : trimChars name.toList = name.toList
  closed : '}' ∉ name.toList

theorem resolve_spellable (spellable : Spellable name) (held : Entries.get? fields name = some v) :
    resolve (some (.plain (.obj fields))) name.toList = some (.plain v) := by
  have hop : Datum.hop (some (.plain (.obj fields))) name.toList =
      (Entries.get? fields (String.ofList name.toList)).map .plain := rfl
  rw [String.ofList_toList, held] at hop
  rw [resolve, List.isEmpty_eq_false_iff.mpr spellable.filled, spellable.single]
  exact hop

theorem renderChars_spellable (spellable : Spellable name)
    (held : Entries.get? fields name = some v) :
    renderChars (some (.plain (.obj fields))) ('{' :: '{' :: (name.toList ++ ['}', '}'])) =
      (Datum.plain v).chars := by
  rw [renderChars, renderFrom_slot _ spellable.filled spellable.closed [], spellable.bare,
    resolve_spellable spellable held, renderFrom, List.append_nil, Datum.charsOf]

end Names

section Pass

structure Stretch where
  literal : String
  path : String

/-- No placeholder starts in the literal or where it meets its own, which ends with the path. -/
structure Stretch.Plain (p : Stretch) : Prop where
  named : p.path ≠ ""
  closed : '}' ∉ p.path.toList
  single : ¬['{', '{'] <:+: p.literal.toList
  apart : p.literal.toList.getLast? ≠ some '{'

def composed (stretches : List Stretch) (last : String) : String :=
  match stretches with
  | [] => last
  | p :: rest => p.literal ++ "\x7b\x7b" ++ p.path ++ "\x7d\x7d" ++ composed rest last

def substituted (context : Option Datum) (stretches : List Stretch) (last : String) : String :=
  match stretches with
  | [] => last
  | p :: rest =>
    p.literal ++ String.ofList (Datum.charsOf (resolve context (trimChars p.path.toList))) ++
      substituted context rest last

-- Induction on the stretches, each a literal and a slot: what was put in lies behind the scan.
theorem renderFrom_composed (context : Option Datum) {stretches : List Stretch}
    (plain : ∀ p ∈ stretches, p.Plain) {last : String} (single : ¬['{', '{'] <:+: last.toList) :
    renderFrom context 0 (composed stretches last).toList =
      (substituted context stretches last).toList := by
  induction stretches with
  | nil =>
    have literal := renderFrom_literal context single [] (by simp)
    simpa [renderFrom, composed, substituted] using literal
  | cons p rest ih =>
    obtain ⟨named, closed, once, apart⟩ := plain p List.mem_cons_self
    have later := ih fun q inside => plain q (List.mem_cons_of_mem p inside)
    have filled : p.path.toList ≠ [] := by simpa using named
    have slot := renderFrom_slot context filled closed (composed rest last).toList
    have literal := renderFrom_literal context once
      ('{' :: '{' :: (p.path.toList ++ '}' :: '}' :: (composed rest last).toList))
      fun brace => absurd brace apart
    rw [slot, later] at literal
    simpa [composed, substituted] using literal

theorem render_composed (context : Option Datum) (stretches : List Stretch) (last : String)
    (plain : ∀ p ∈ stretches, p.Plain) (single : ¬['{', '{'] <:+: last.toList) :
    render (composed stretches last) context = substituted context stretches last := by
  rw [render, renderChars, renderFrom_composed context plain single, String.ofList_toList]

def bracedStretches : List Stretch :=
  [⟨"\x7b ", "brief"⟩, ⟨"\x7d\x7d, \x7b-", " \x7bodd "⟩, ⟨"", "none.here"⟩]

def bracedContext : Option Datum :=
  some (.plain (.obj [("brief", .str "\x7b\x7bname\x7d\x7d"), ("name", .str "Ann"),
    ("\x7bodd", .arr [.bool true, .null])]))

theorem render_bracedStretches :
    (∀ p ∈ bracedStretches, p.Plain) ∧ (¬['{', '{'] <:+: "\x7d\x7b".toList) ∧
      composed bracedStretches "\x7d\x7b" =
        "\x7b \x7b\x7bbrief\x7d\x7d\x7d\x7d, \x7b-\x7b\x7b \x7bodd \x7d\x7d\x7b\x7bnone.here\x7d\x7d\x7d\x7b" ∧
      render (composed bracedStretches "\x7d\x7b") bracedContext =
        "\x7b \x7b\x7bname\x7d\x7d\x7d\x7d, \x7b-[true,null]\x7d\x7b" := by
  have plain : ∀ p ∈ bracedStretches, p.Plain := by
    simp only [bracedStretches, List.forall_mem_cons]
    refine ⟨?_, ?_, ?_, nofun⟩ <;> constructor <;> decide +kernel
  have single : ¬['{', '{'] <:+: "\x7d\x7b".toList := by decide +kernel
  refine ⟨plain, single, by decide +kernel, ?_⟩
  rw [render_composed bracedContext bracedStretches "\x7d\x7b" plain single]
  decide +kernel

end Pass

end PromptStudio
