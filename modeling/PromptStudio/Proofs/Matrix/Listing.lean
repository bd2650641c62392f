import Mathlib.Algebra.Group.Nat.Defs
import Mathlib.Data.Finset.Card
import Mathlib.Data.List.Forall2
import PromptStudio.Proofs.Matrix.Combos

set_option autoImplicit false

namespace PromptStudio

section Firsts

variable {texts : List String} {text : String}

theorem eraseDups_concat (texts : List String) (text : String) :
    (texts ++ [text]).eraseDups =
      if text ∈ texts then texts.eraseDups else texts.eraseDups ++ [text] := by
  rw [List.eraseDups_append, List.cons_removeAll]
  by_cases known : text ∈ texts <;> simp [known, List.eraseDups_cons]

-- Induction from the right: a text that is new stands behind all that were there.
theorem pairwise_eraseDups (texts : List String) :
    texts.eraseDups.Pairwise (fun s t => texts.idxOf s < texts.idxOf t) := by
  induction texts using List.reverseRecOn with
  | nil => exact .nil
  | append_singleton texts text ih =>
    have before : texts.eraseDups.Pairwise
        (fun s t => (texts ++ [text]).idxOf s < (texts ++ [text]).idxOf t) := by
      refine ih.imp_of_mem fun {s t} first second less => ?_
      rw [List.idxOf_append_of_mem (List.mem_eraseDups.mp first),
        List.idxOf_append_of_mem (List.mem_eraseDups.mp second)]
      exact less
    rw [eraseDups_concat]
    split
    next => exact before
    next fresh =>
      refine List.pairwise_append.mpr ⟨before, List.pairwise_singleton _ _, ?_⟩
      rintro s first _ (⟨⟩ | ⟨_, ⟨⟩⟩)
      have inside := List.mem_eraseDups.mp first
      rw [List.idxOf_append_of_mem inside, List.idxOf_append_of_notMem fresh]
      exact Nat.lt_add_right _ (List.idxOf_lt_length_iff.mpr inside)

theorem nodup_eraseDups (texts : List String) : texts.eraseDups.Nodup := by
  refine List.nodup_iff_pairwise_ne.mpr ((pairwise_eraseDups texts).imp ?_)
  rintro s _ less rfl
  exact Nat.lt_irrefl _ less

theorem length_eraseDups (texts : List String) : texts.eraseDups.length = texts.toFinset.card := by
  have same : texts.eraseDups.toFinset = texts.toFinset := by
    ext text
    simp
  rw [← same, List.toFinset_card_of_nodup (nodup_eraseDups texts)]

/-- The second list is the first with texts that stand further to the front put in again. -/
inductive Repeats (texts : List String) : List String → Prop where
  | nothing : Repeats texts texts
  | again {before after : List String} {text : String} (known : text ∈ before)
      (repeats : Repeats texts (before ++ after)) : Repeats texts (before ++ text :: after)

theorem Repeats.eraseDups_eq {more : List String} (repeats : Repeats texts more) :
    more.eraseDups = texts.eraseDups := by
  induction repeats with
  | nothing => rfl
  | @again before after text known _ ih =>
    rw [← ih, List.eraseDups_append, List.eraseDups_append, List.cons_removeAll]
    simp [known]

end Firsts

section Product

variable {α : Type} {axes : List (List α)} {row : List α}

theorem mem_product_iff : row ∈ product axes ↔ List.Forall₂ (· ∈ ·) row axes := by
  induction axes generalizing row with
  | nil => simp [product]
  | cons axis axes ih => simp [product, ih, List.forall₂_cons_right_iff, eq_comm]

theorem length_product (axes : List (List α)) :
    (product axes).length = (axes.map List.length).prod := by
  induction axes with
  | nil => rfl
  | cons axis axes ih => simp [product, ih]

def Lexicographic : List (α → α → Prop) → List α → List α → Prop
  | less :: orders, a :: row, b :: other => less a b ∨ (a = b ∧ Lexicographic orders row other)
  | _, _, _ => False

theorem pairwise_product {orders : List (α → α → Prop)}
    (ordered : List.Forall₂ (fun less axis => axis.Pairwise less) orders axes) :
    (product axes).Pairwise (Lexicographic orders) := by
  induction ordered with
  | nil => exact List.pairwise_singleton _ _
  | @cons less axis orders axes first _ ih =>
    rw [product, List.pairwise_flatMap]
    constructor
    next =>
      intro a _
      exact List.pairwise_map.mpr (ih.imp fun later => .inr ⟨rfl, later⟩)
    next =>
      refine first.imp fun before => ?_
      intro x inX y inY
      obtain ⟨_, -, rfl⟩ := List.mem_map.mp inX
      obtain ⟨_, -, rfl⟩ := List.mem_map.mp inY
      exact .inl before

end Product

section Cells

def Combo.Precedes (tones lengths formats : List String) (c d : Combo) : Prop :=
  tones.idxOf c.tone < tones.idxOf d.tone ∨ (c.tone = d.tone ∧
    (lengths.idxOf c.length < lengths.idxOf d.length ∨ (c.length = d.length ∧
      formats.idxOf c.format < formats.idxOf d.format)))

/-- Each combination of the three axes stands in the list once, and nothing else does. -/
structure Listing (tones lengths formats : List String) (cells : List Combo) : Prop where
  listed : ∀ c, c ∈ cells ↔ c.tone ∈ tones ∧ c.length ∈ lengths ∧ c.format ∈ formats
  once : cells.Nodup
  ordered : cells.Pairwise (Combo.Precedes tones lengths formats)
  counted : cells.length = tones.toFinset.card * lengths.toFinset.card * formats.toFinset.card

variable {tones lengths formats : List String}

theorem Combo.Precedes.ne {c d : Combo} (precedes : c.Precedes tones lengths formats d) :
    c ≠ d := by
  rintro rfl
  simp [Combo.Precedes] at precedes

def Combo.texts (c : Combo) : List String := [c.tone, c.length, c.format]

theorem mem_rows_iff {row : List String} :
    row ∈ product [tones.eraseDups, lengths.eraseDups, formats.eraseDups] ↔
      ∃ c : Combo, row = c.texts ∧ c.tone ∈ tones ∧ c.length ∈ lengths ∧ c.format ∈ formats := by
  rw [mem_product_iff]
  constructor
  next =>
    rintro (_ | ⟨tone, _ | ⟨length, _ | ⟨format, _ | _⟩⟩⟩)
    exact ⟨⟨_, _, _⟩, rfl, List.mem_eraseDups.mp tone, List.mem_eraseDups.mp length,
      List.mem_eraseDups.mp format⟩
  next =>
    rintro ⟨c, rfl, tone, length, format⟩
    exact .cons (List.mem_eraseDups.mpr tone) (.cons (List.mem_eraseDups.mpr length)
      (.cons (List.mem_eraseDups.mpr format) .nil))

theorem mem_cells_iff {c : Combo} :
    c ∈ (product [tones.eraseDups, lengths.eraseDups, formats.eraseDups]).map Combo.ofTexts ↔
      c.tone ∈ tones ∧ c.length ∈ lengths ∧ c.format ∈ formats := by
  rw [List.mem_map]
  constructor
  next =>
    rintro ⟨row, inside, rfl⟩
    obtain ⟨c, rfl, taken⟩ := mem_rows_iff.mp inside
    exact taken
  next => exact fun taken => ⟨c.texts, mem_rows_iff.mpr ⟨c, rfl, taken⟩, rfl⟩

theorem ordered_cells :
    ((product [tones.eraseDups, lengths.eraseDups, formats.eraseDups]).map
      Combo.ofTexts).Pairwise (Combo.Precedes tones lengths formats) := by
  have rows := pairwise_product (.cons (pairwise_eraseDups tones)
    (.cons (pairwise_eraseDups lengths) (.cons (pairwise_eraseDups formats) .nil)))
  refine List.pairwise_map.mpr (rows.imp_of_mem ?_)
  intro row other first second before
  obtain ⟨c, rfl, -⟩ := mem_rows_iff.mp first
  obtain ⟨d, rfl, -⟩ := mem_rows_iff.mp second
  simpa [Lexicographic, Combo.texts, Combo.Precedes, Combo.ofTexts] using before

theorem listing_cells : Listing tones lengths formats
    ((product [tones.eraseDups, lengths.eraseDups, formats.eraseDups]).map .ofTexts) where
  listed _ := mem_cells_iff
  once := List.nodup_iff_pairwise_ne.mpr (ordered_cells.imp Combo.Precedes.ne)
  ordered := ordered_cells
  counted := by simp [length_product, length_eraseDups, Nat.mul_assoc]

def axisTexts (config : Json) (name : String) : List String :=
  (((config.get? name).bind Json.asItems?).getD []).filterMap Json.asText?

theorem axisTexts_of_axisOf {fields : Entries Json} {name : String} {texts : List String}
    (axis : axisOf fields name = some (texts.map .str)) : axisTexts (.obj fields) name = texts := by
  have items : (((Json.obj fields).get? name).bind Json.asItems?).getD [] = texts.map .str := by
    change ((Entries.get? fields name).bind Json.asItems?).getD [] = _
    unfold axisOf at axis
    split at axis
    next absent =>
      rw [absent]
      exact Option.some.inj axis
    next v found => rw [found, Option.bind_some, axis, Option.getD_some]
  rw [axisTexts, items, List.filterMap_map]
  exact List.filterMap_some

theorem combos_of_textAxes {config : Json} (axes : TextAxes config) :
    combos config = .ok ((product [(axisTexts config "tones").eraseDups,
      (axisTexts config "lengths").eraseDups, (axisTexts config "formats").eraseDups]).map
        .ofTexts) := by
  obtain ⟨fields, rfl, given⟩ := axes
  obtain ⟨tones, toneAxis⟩ := given "tones" (by decide)
  obtain ⟨lengths, lengthAxis⟩ := given "lengths" (by decide)
  obtain ⟨formats, formatAxis⟩ := given "formats" (by decide)
  rw [axisTexts_of_axisOf toneAxis, axisTexts_of_axisOf lengthAxis, axisTexts_of_axisOf formatAxis]
  exact combos_of_axes toneAxis lengthAxis formatAxis

theorem Listing.eq_nil {cells : List Combo} (listing : Listing tones lengths formats cells)
    (empty : tones = [] ∨ lengths = [] ∨ formats = []) : cells = [] := by
  refine List.eq_nil_iff_forall_not_mem.mpr fun c inside => ?_
  obtain ⟨tone, length, format⟩ := (listing.listed c).mp inside
  rcases empty with rfl | rfl | rfl
  · exact List.not_mem_nil tone
  · exact List.not_mem_nil length
  · exact List.not_mem_nil format

theorem combos_listing {config : Json} (axes : TextAxes config) :
    (∃ cells, combos config = .ok cells ∧ Listing (axisTexts config "tones")
        (axisTexts config "lengths") (axisTexts config "formats") cells) ∧
      (∀ name ∈ axisNames, config.get? name = none ∨ config.get? name = some (.arr []) →
        combos config = .ok []) ∧
      ∀ other, TextAxes other →
        (∀ name ∈ axisNames, Repeats (axisTexts config name) (axisTexts other name)) →
        combos other = combos config := by
  refine ⟨⟨_, combos_of_textAxes axes, listing_cells⟩, ?_, ?_⟩
  next =>
    intro name inside without
    have empty : axisTexts config name = [] := by
      rcases without with absent | bare
      · simp [axisTexts, absent]
      · simp [axisTexts, bare, Json.asItems?]
    rw [combos_of_textAxes axes, listing_cells.eq_nil]
    simp only [axisNames, List.mem_cons, List.not_mem_nil, or_false] at inside
    rcases inside with rfl | rfl | rfl <;> simp [empty]
  next =>
    intro other also repeats
    have tones := (repeats "tones" (by decide)).eraseDups_eq
    have lengths := (repeats "lengths" (by decide)).eraseDups_eq
    have formats := (repeats "formats" (by decide)).eraseDups_eq
    rw [combos_of_textAxes axes, combos_of_textAxes also, tones, lengths, formats]

def repeatedAxes : Json :=
  .obj [("tones", Json.texts ["casual", "formal", "casual"]), ("lengths", Json.texts ["short"]),
    ("formats", Json.texts ["email", "bullets", "bullets"])]

theorem combos_repeatedAxes :
    TextAxes repeatedAxes ∧ ∃ cells, combos repeatedAxes = .ok cells ∧ cells.length = 4 ∧
      ⟨"formal", "short", "email"⟩ ∈ cells := by
  have axes : TextAxes repeatedAxes := by
    refine ⟨_, rfl, ?_⟩
    simp only [axisNames, List.forall_mem_cons]
    exact ⟨⟨_, rfl⟩, ⟨_, rfl⟩, ⟨_, rfl⟩, List.forall_mem_nil _⟩
  obtain ⟨⟨cells, found, listing⟩, -⟩ := combos_listing axes
  refine ⟨axes, cells, found, ?_, (listing.listed _).mpr ⟨?_, ?_, ?_⟩⟩
  · rw [listing.counted]
    decide +kernel
  all_goals decide +kernel

end Cells

end PromptStudio
