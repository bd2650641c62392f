import PromptStudio.Proofs.Json.Reading
import PromptStudio.Proofs.Reply.Written
import PromptStudio.Proofs.Template.Substitution

set_option autoImplicit false

namespace PromptStudio

namespace Json

/-- What stands outside the string literals of a text. `inside` says that one is open. -/
def outsideFrom : (inside : Bool) → List Char → List Char
  | _, [] => []
  | true, '\\' :: _ :: rest => outsideFrom true rest
  | true, c :: rest => outsideFrom (c != '"') rest
  | false, c :: rest => if c = '"' then outsideFrom true rest else c :: outsideFrom false rest

/-- A text that opens no string literal without closing it, with no control character, and with no
white space outside its literals. -/
structure Tight (text : List Char) : Prop where
  visible : ∀ c ∈ text, 32 ≤ c.toNat
  apart : ∃ marks, (∀ c ∈ marks, isBlank c = false) ∧
    ∀ rest, outsideFrom false (text ++ rest) = marks ++ outsideFrom false rest

variable {text : List Char}

theorem Tight.append {front back : List Char} (first : Tight front) (second : Tight back) :
    Tight (front ++ back) := by
  obtain ⟨marks, plain, through⟩ := first.apart
  obtain ⟨marks', plain', through'⟩ := second.apart
  constructor
  case visible =>
    exact fun c inside => (List.mem_append.mp inside).elim (first.visible c) (second.visible c)
  case apart =>
    refine ⟨marks ++ marks', fun c inside => (List.mem_append.mp inside).elim (plain c) (plain' c),
      fun rest => ?_⟩
    rw [List.append_assoc, through, through', List.append_assoc]

theorem tight_of_unquoted (visible : ∀ c ∈ text, 32 ≤ c.toNat)
    (plain : ∀ c ∈ text, isBlank c = false ∧ c ≠ '"') : Tight text := by
  refine ⟨visible, text, fun c inside => (plain c inside).1, fun rest => ?_⟩
  clear visible
  induction text with
  | nil => rfl
  | cons c text ih =>
    obtain ⟨⟨-, unquoted⟩, later⟩ := List.forall_mem_cons.mp plain
    rw [List.cons_append, outsideFrom, if_neg unquoted, ih later]
    rfl

theorem tight_mark {c : Char} (visible : 32 ≤ c.toNat) (solid : isBlank c = false)
    (unquoted : c ≠ '"') : Tight [c] :=
  tight_of_unquoted (List.forall_mem_singleton.mpr visible)
    (List.forall_mem_singleton.mpr ⟨solid, unquoted⟩)

theorem visible_of_inNumber {c : Char} (number : inNumber c = true) : 32 ≤ c.toNat := by
  have controls : ∀ n < 32, inNumber (Char.ofNat n) = false := by decide
  by_contra low
  have control := controls c.toNat (by omega)
  rw [Char.ofNat_toNat, number] at control
  cases control

theorem tight_of_inNumber (number : ∀ c ∈ text, inNumber c = true) : Tight text := by
  refine tight_of_unquoted (fun c inside => visible_of_inNumber (number c inside))
    fun c inside => ⟨isBlank_of_inNumber (number c inside), ?_⟩
  rintro rfl
  exact absurd (number _ inside) (by decide)

theorem outsideFrom_open {c : Char} (backslash : c ≠ '\\') (rest : List Char) :
    outsideFrom true (c :: rest) = outsideFrom (c != '"') rest := by
  rw [outsideFrom]
  exact fun _ _ same _ => backslash same

structure Inner (text : List Char) : Prop where
  visible : ∀ c ∈ text, 32 ≤ c.toNat
  through : ∀ rest, outsideFrom true (text ++ rest) = outsideFrom true rest

theorem Inner.append {front back : List Char} (first : Inner front) (second : Inner back) :
    Inner (front ++ back) := by
  constructor
  case visible =>
    exact fun c inside => (List.mem_append.mp inside).elim (first.visible c) (second.visible c)
  case through =>
    intro rest
    rw [List.append_assoc, first.through, second.through]

-- An escape is passed over whole, whatever its second character.
theorem inner_pair {c : Char} (visible : 32 ≤ c.toNat) : Inner ['\\', c] :=
  ⟨List.forall_mem_cons.mpr ⟨by decide, List.forall_mem_singleton.mpr visible⟩, fun _ => rfl⟩

theorem inner_plain {c : Char} (visible : 32 ≤ c.toNat) (quote : c ≠ '"') (backslash : c ≠ '\\') :
    Inner [c] := by
  refine ⟨List.forall_mem_singleton.mpr visible, fun rest => ?_⟩
  rw [List.singleton_append, outsideFrom_open backslash, bne_iff_ne.mpr quote]

theorem inner_hexText (width n : Nat) : Inner (hexText width n) := by
  have digit : ∀ k < 16, 32 ≤ (hexDigit k).toNat ∧ hexDigit k ≠ '"' ∧ hexDigit k ≠ '\\' := by decide
  induction width generalizing n with
  | zero => exact ⟨nofun, fun _ => rfl⟩
  | succ width ih =>
    obtain ⟨visible, quote, backslash⟩ := digit (n % 16) (Nat.mod_lt n (by decide))
    exact (ih (n / 16)).append (inner_plain visible quote backslash)

theorem inner_unitEscape (n : Nat) : Inner (unitEscape n) :=
  (inner_pair (c := 'u') (by decide)).append (inner_hexText 4 n)

theorem inner_escapeWide (c : Char) : Inner (escapeWide c) := by
  unfold escapeWide
  split
  next => exact inner_unitEscape _
  next => exact (inner_unitEscape _).append (inner_unitEscape _)

theorem inner_escapes {c : Char} (escapes : Escapes c text) : Inner text := by
  have marks : ∀ entry ∈ escapeMarks, 32 ≤ entry.2.toNat := by decide
  cases escapes with
  | marked own => exact inner_pair (marks _ own)
  | units => exact inner_escapeWide c
  | plain quote backslash visible => exact inner_plain (Nat.not_lt.mp visible) quote backslash

theorem inner_escaped (ascii : Bool) (text : List Char) :
    Inner (text.flatMap (escapeChar ascii)) := by
  induction text with
  | nil => exact ⟨nofun, fun _ => rfl⟩
  | cons c text ih => exact (inner_escapes (escapes_escapeChar ascii c)).append ih

theorem tight_literal (ascii : Bool) (text : List Char) : Tight (literal ascii text) := by
  obtain ⟨visible, through⟩ := inner_escaped ascii text
  constructor
  case visible =>
    intro c inside
    rcases List.mem_cons.mp inside with rfl | inside
    · decide
    rcases List.mem_append.mp inside with inside | last
    · exact visible c inside
    · rw [List.mem_singleton.mp last]
      decide
  case apart =>
    refine ⟨[], nofun, fun rest => ?_⟩
    have closing := through ('"' :: rest)
    rw [outsideFrom_open (by decide)] at closing
    rw [literal, List.append_assoc]
    exact closing

theorem tight_brackets {opening closing : Char} (inner : Tight text) (first : Tight [opening])
    (last : Tight [closing]) : Tight (opening :: text ++ [closing]) :=
  (first.append inner).append last

theorem tight_comma : Tight Style.compact.itemSeparator.toList :=
  tight_mark (c := ',') (by decide) (by decide) (by decide)

theorem tight_colon : Tight Style.compact.fieldSeparator.toList :=
  tight_mark (c := ':') (by decide) (by decide) (by decide)

theorem tight_nil : Tight [] := ⟨nofun, [], nofun, fun _ => rfl⟩

mutual

theorem tight_chars : ∀ v : Json, Tight (v.chars .compact)
  | .null => tight_of_inNumber (List.all_eq_true.mp (by decide))
  | .bool b => tight_of_inNumber (List.all_eq_true.mp (by cases b <;> decide))
  | .int n => tight_of_inNumber (inNumber_intChars n)
  | .float x => tight_of_inNumber (inNumber_jsonText x)
  | .str s => tight_literal false s.toList
  | .arr items => by
    rw [chars]
    exact tight_brackets (tight_itemChars items) (tight_mark (by decide) (by decide) (by decide))
      (tight_mark (by decide) (by decide) (by decide))
  | .obj fields => by
    rw [chars]
    exact tight_brackets (tight_fieldChars fields) (tight_mark (by decide) (by decide) (by decide))
      (tight_mark (by decide) (by decide) (by decide))

theorem tight_itemChars : ∀ items : List Json, Tight (itemChars .compact items)
  | [] => tight_nil
  | [item] => tight_chars item
  | item :: next :: rest => by
    rw [itemChars_cons_cons]
    exact ((tight_chars item).append tight_comma).append (tight_itemChars (next :: rest))

theorem tight_fieldChars : ∀ fields : List (String × Json), Tight (fieldChars .compact fields)
  | [] => tight_nil
  | [(key, v)] => by
    rw [fieldChars]
    exact ((tight_literal false key.toList).append tight_colon).append (tight_chars v)
  | (key, v) :: next :: rest => by
    rw [fieldChars_cons_cons]
    exact ((((tight_literal false key.toList).append tight_colon).append (tight_chars v)).append
      tight_comma).append (tight_fieldChars (next :: rest))

end

def outsideLiterals (text : List Char) : List Char := outsideFrom false text

theorem Tight.solid (tight : Tight text) : ∀ c ∈ outsideLiterals text, isBlank c = false := by
  obtain ⟨marks, plain, through⟩ := tight.apart
  have whole := through []
  rw [List.append_nil] at whole
  rw [outsideLiterals, whole, outsideFrom, List.append_nil]
  exact plain

end Json

section Template

variable {k : String} {v : Json}

inductive Json.Structured : Json → Prop where
  | list (items : List Json) : Structured (.arr items)
  | object (fields : List (String × Json)) : Structured (.obj fields)
  | flag (b : Bool) : Structured (.bool b)

theorem Json.Structured.chars (structured : v.Structured) (portable : v.Portable) :
    (Datum.plain v).chars = v.chars .compact := by
  have writable := Json.writable_of_read (Json.read?_write Json.Style.compact_plain portable)
  have text : (Datum.plain v).chars = Datum.compact v := by cases structured <;> rfl
  rw [text, Datum.compact, if_pos writable]

theorem Json.Structured.ne_null (structured : v.Structured) : v ≠ .null := by
  rintro rfl
  cases structured

theorem spellable_of_trimmed (named : k ≠ "") (undotted : '.' ∉ k.toList) (closed : '}' ∉ k.toList)
    (trimmed : Trimmed k.toList) : Spellable k := by
  have filled : k.toList ≠ [] := fun empty => named (String.toList_eq_nil_iff.mp empty)
  have single : k.toList.splitOn '.' = [k.toList] :=
    List.splitOnP_eq_singleton fun c inside => beq_false_of_ne fun same =>
      undotted (same ▸ inside)
  refine ⟨filled, ?_, trimmed.trimChars, closed⟩
  rw [segments, single, List.map_singleton, trimmed.trimChars]
  simp [filled]

theorem render_structured (k : String) (v : Json) (named : k ≠ "") (undotted : '.' ∉ k.toList)
    (closed : '}' ∉ k.toList) (trimmed : Trimmed k.toList) (structured : v.Structured)
    (portable : v.Portable) :
    let text := (render ("\x7b\x7b" ++ k ++ "\x7d\x7d") (some (.plain (.obj [(k, v)])))).toList
    decodeTrimmed? text = some v ∧ (∀ c ∈ text, 32 ≤ c.toNat) ∧
      ∀ c ∈ Json.outsideLiterals text, isBlank c = false := by
  have spelled : ("\x7b\x7b" ++ k ++ "\x7d\x7d").toList = '{' :: '{' :: (k.toList ++ ['}', '}']) := by
    simp
  have held : Entries.get? [(k, v)] k = some v := by simp [Entries.get?_cons]
  have tight := Json.tight_chars v
  dsimp only
  rw [toList_render, spelled,
    renderChars_spellable (spellable_of_trimmed named undotted closed trimmed) held,
    structured.chars portable]
  exact ⟨decodeTrimmed?_chars Json.Style.compact_plain structured.ne_null portable, tight.visible,
    tight.solid⟩

def tangled : Json :=
  .obj [("say \"hi\"", .arr [.str "a\\\n\x7b\x7bb\x7d\x7d\tä", .null, .int (-12)]),
    ("", .arr [.bool true, .float .nan, .obj []])]

theorem render_tangled :
    let text := (render ("\x7b\x7b" ++ "\x7ba b" ++ "\x7d\x7d")
      (some (.plain (.obj [("\x7ba b", tangled)])))).toList
    text = "\x7b\"say \\\"hi\\\"\":[\"a\\\\\\n\x7b\x7bb\x7d\x7d\\tä\",null,-12],\"\":[true,NaN,\x7b\x7d]\x7d".toList ∧
      decodeTrimmed? text = some tangled ∧ (∀ c ∈ text, 32 ≤ c.toNat) ∧
      ∀ c ∈ Json.outsideLiterals text, isBlank c = false := by
  have nan : Json.read? Binary64.nan.jsonText = some (.float .nan) := rfl
  have short : (decimalDigits 12).length ≤ digitLimit := by decide
  have portable : tangled.Portable := by
    simpa [tangled, Json.Portable, Json.FieldsPortable, Json.ItemsPortable, Entries.keys]
      using ⟨short, nan⟩
  have trimmed : Trimmed ['{', 'a', ' ', 'b'] :=
    trimmed_of_ends ['a', ' '] (by decide) (by decide)
  refine ⟨by decide +kernel, ?_⟩
  exact render_structured "\x7ba b" tangled (by decide) (by decide) (by decide) trimmed (.object _)
    portable

end Template

end PromptStudio
