import PromptStudio.Proofs.Json.RoundTrip
import PromptStudio.Proofs.Text.Trimming
import PromptStudio.Reply.Decode

set_option autoImplicit false

namespace PromptStudio

namespace Json

theorem isBlank_of_inNumber {c : Char} (number : inNumber c = true) : isBlank c = false := by
  simp only [inNumber, Bool.or_eq_true, beq_iff_eq] at number
  rcases number with ((figure | rfl) | rfl) | rfl
  · have bounds : 48 ≤ c.toNat ∧ c.toNat ≤ 122 := by
      have same : c.val.toNat = c.toNat := rfl
      change (decide ('A'.val ≤ c.val ∧ c.val ≤ 'Z'.val) ||
        (decide ('a'.val ≤ c.val) && decide (c.val ≤ 'z'.val)) ||
          (decide ('0'.val ≤ c.val) && decide (c.val ≤ '9'.val))) = true at figure
      simp only [Bool.or_eq_true, Bool.and_eq_true, decide_eq_true_eq,
        UInt32.le_iff_toNat_le] at figure
      grind
    rw [← Bool.not_eq_true]
    intro blank
    simp only [isBlank, isSpacing, Bool.or_eq_true, Bool.and_eq_true, decide_eq_true_eq,
      beq_iff_eq] at blank
    omega
  all_goals decide

theorem trimmed_chars (style : Style) (v : Json) : Trimmed (v.chars style) := by
  have number {text : List Char} (number : ∀ c ∈ text, inNumber c = true) : Trimmed text :=
    trimmed_of_visible fun c inside => isBlank_of_inNumber (number c inside)
  cases v with
  | null =>
    rw [chars]
    exact number (List.all_eq_true.mp (by decide))
  | bool b =>
    rw [chars]
    exact number (List.all_eq_true.mp (by cases b <;> decide))
  | int n => exact number (inNumber_intChars n)
  | float x => exact number (inNumber_jsonText x)
  | str s => exact trimmed_of_ends _ (by decide) (by decide)
  | arr items => exact trimmed_of_ends (itemChars style items) (by decide) (by decide)
  | obj fields => exact trimmed_of_ends (fieldChars style fields) (by decide) (by decide)

end Json

theorem decodeTrimmed?_chars {style : Json.Style} (plain : style.Plain) {v : Json} (solid : v ≠ .null)
    (portable : v.Portable) : decodeTrimmed? (v.chars style) = some v := by
  rw [decodeTrimmed?, (Json.trimmed_chars style v).trimChars, Json.readChars?_chars plain portable]
  cases v with
  | null => exact absurd rfl solid
  | _ => rfl

theorem Json.obj_ne_null (fields : List (String × Json)) : Json.obj fields ≠ .null := by
  simp

theorem decodeText_chars {fields : List (String × Json)} (portable : (Json.obj fields).Portable) :
    decodeText ((Json.obj fields).write .exchange) =
      .ok ((decodeFenced? ((Json.obj fields).chars .exchange)).getD (.obj fields)) := by
  rw [decodeText, Json.write, String.toList_ofList, decodeChars?,
    decodeTrimmed?_chars Json.Style.exchange_plain (Json.obj_ne_null fields) portable]
  cases decodeFenced? ((Json.obj fields).chars .exchange) <;> rfl

section Fence

-- No fence reaches over a character that is no backtick.
theorem isPrefixOf_fence_append (d : Char) (front : List Char) {c : Char} (other : c ≠ '\x60')
    (back : List Char) :
    fence.isPrefixOf (d :: (front ++ c :: back)) = fence.isPrefixOf (d :: front) := by
  match front with
  | [] => simp [fence, List.isPrefixOf, Ne.symm other]
  | [_] => simp [fence, List.isPrefixOf, Ne.symm other]
  | _ :: _ :: _ => simp [fence, List.isPrefixOf]

theorem occursIn_fence_append (front : List Char) {c : Char} (other : c ≠ '\x60')
    (back : List Char) :
    occursIn fence (front ++ c :: back) = (occursIn fence front || occursIn fence back) := by
  induction front with
  | nil => simp [occursIn, fence, List.isPrefixOf, Ne.symm other]
  | cons d front ih =>
    simp only [List.cons_append, occursIn, isPrefixOf_fence_append d front other, ih, Bool.or_assoc]

theorem occursIn_fence_skip {front : List Char} (plain : ∀ c ∈ front, c ≠ '\x60')
    (back : List Char) : occursIn fence (front ++ back) = occursIn fence back := by
  induction front with
  | nil => rfl
  | cons c front ih =>
    have later := ih fun d inside => plain d (by simp [inside])
    have apart := occursIn_fence_append [] (plain c (by simp)) (front ++ back)
    rw [List.nil_append, later] at apart
    exact apart

theorem hexText_plain (width n : Nat) : ∀ c ∈ hexText width n, c ≠ '\x60' := by
  have digit : ∀ k < 16, hexDigit k ≠ '\x60' := by decide
  induction width generalizing n with
  | zero => simp [hexText]
  | succ width ih =>
    intro c inside
    rcases List.mem_append.mp inside with front | last
    · exact ih (n / 16) c front
    · rw [List.mem_singleton.mp last]
      exact digit (n % 16) (Nat.mod_lt n (by decide))

theorem unitEscape_plain (n : Nat) : ∀ c ∈ Json.unitEscape n, c ≠ '\x60' := by
  intro c inside
  rcases List.mem_cons.mp inside with rfl | later
  · decide
  rcases List.mem_cons.mp later with rfl | digits
  · decide
  exact hexText_plain 4 n c digits

theorem escapeWide_plain (c : Char) : ∀ d ∈ Json.escapeWide c, d ≠ '\x60' := by
  unfold Json.escapeWide
  split
  next => exact unitEscape_plain _
  next =>
    exact fun d inside => (List.mem_append.mp inside).elim (unitEscape_plain _ d)
      (unitEscape_plain _ d)

theorem escapes_plain {c : Char} {text : List Char} (escapes : Json.Escapes c text)
    (other : c ≠ '\x60') : ∀ d ∈ text, d ≠ '\x60' := by
  have marks : ∀ entry ∈ Json.escapeMarks, entry.2 ≠ '\x60' := by decide
  cases escapes with
  | marked own =>
    exact List.forall_mem_cons.mpr ⟨by decide, List.forall_mem_singleton.mpr (marks _ own)⟩
  | units => exact escapeWide_plain c
  | plain => exact List.forall_mem_singleton.mpr other

theorem ticks_isPrefixOf_escaped (ascii : Bool) (count : Nat) (text : List Char) :
    (List.replicate count '\x60').isPrefixOf (text.flatMap (Json.escapeChar ascii)) =
      (List.replicate count '\x60').isPrefixOf text := by
  induction count generalizing text with
  | zero => simp
  | succ count ih =>
    cases text with
    | nil => rfl
    | cons c text =>
      rw [List.flatMap_cons, List.replicate_succ]
      by_cases tick : c = '\x60'
      next =>
        subst tick
        have same : Json.escapeChar ascii '\x60' = ['\x60'] := by cases ascii <;> decide
        simpa [same, List.isPrefixOf] using ih text
      next =>
        have plain := escapes_plain (Json.escapes_escapeChar ascii c) tick
        cases escape : Json.escapeChar ascii c with
        | nil => exact absurd escape (Json.escapeChar_ne_nil ascii c)
        | cons d rest =>
          have first : ('\x60' == d) = false := beq_false_of_ne (Ne.symm (plain d (by simp [escape])))
          simp [List.isPrefixOf, first, beq_false_of_ne (Ne.symm tick)]

theorem occursIn_fence_escaped (ascii : Bool) (text : List Char) :
    occursIn fence (text.flatMap (Json.escapeChar ascii)) = occursIn fence text := by
  induction text with
  | nil => rfl
  | cons c text ih =>
    rw [List.flatMap_cons]
    by_cases tick : c = '\x60'
    next =>
      subst tick
      have same : Json.escapeChar ascii '\x60' = ['\x60'] := by cases ascii <;> decide
      have start := ticks_isPrefixOf_escaped ascii 3 ('\x60' :: text)
      rw [List.flatMap_cons, same] at start
      rw [same]
      simp only [List.cons_append, List.nil_append, occursIn, ih] at start ⊢
      rw [show fence = List.replicate 3 '\x60' from rfl, start]
    next =>
      have single := occursIn_fence_append [] tick text
      rw [occursIn_fence_skip (escapes_plain (Json.escapes_escapeChar ascii c) tick), ih]
      exact single.symm

theorem occursIn_fence_literal (ascii : Bool) (text rest : List Char) :
    occursIn fence (Json.literal ascii text ++ rest) =
      (occursIn fence text || occursIn fence rest) := by
  have quote : '"' ≠ '\x60' := by decide
  calc occursIn fence (Json.literal ascii text ++ rest)
      = occursIn fence ([] ++ '"' :: (text.flatMap (Json.escapeChar ascii) ++ '"' :: rest)) := by
        simp [Json.literal]
    _ = (occursIn fence [] || (occursIn fence (text.flatMap (Json.escapeChar ascii)) ||
          occursIn fence rest)) := by
        rw [occursIn_fence_append _ quote, occursIn_fence_append _ quote]
    _ = (occursIn fence text || occursIn fence rest) := by
        rw [occursIn_fence_escaped]
        rfl

theorem splitAt?_eq_none {mark text : List Char} (absent : occursIn mark text = false) :
    splitAt? mark text = none := by
  induction text with
  | nil => simpa [occursIn, splitAt?] using absent
  | cons c text ih =>
    simp only [occursIn, Bool.or_eq_false_iff] at absent
    simp [splitAt?, absent.1, ih absent.2]

theorem decodeFenced?_eq_none {text : List Char} (absent : occursIn fence text = false) :
    decodeFenced? text = none := by
  simp [decodeFenced?, fencedBlock?, splitAt?_eq_none absent]

end Fence

namespace Json

mutual

def Unfenced : Json → Prop
  | .str s => occursIn fence s.toList = false
  | .arr items => ItemsUnfenced items
  | .obj fields => FieldsUnfenced fields
  | _ => True

def ItemsUnfenced : List Json → Prop
  | [] => True
  | item :: rest => item.Unfenced ∧ ItemsUnfenced rest

def FieldsUnfenced : List (String × Json) → Prop
  | [] => True
  | (key, v) :: rest => occursIn fence key.toList = false ∧ v.Unfenced ∧ FieldsUnfenced rest

end

theorem occursIn_fence_inNumber {text : List Char} (number : ∀ c ∈ text, inNumber c = true)
    (rest : List Char) : occursIn fence (text ++ rest) = occursIn fence rest := by
  refine occursIn_fence_skip (fun c inside => ?_) rest
  rintro rfl
  exact absurd (number _ inside) (by decide)

theorem occursIn_fence_separator {mark : Char} {gap : List Char} (other : mark ≠ '\x60')
    (blank : ∀ c ∈ gap, isGap c = true) (front rest : List Char) :
    occursIn fence (front ++ mark :: (gap ++ rest)) =
      (occursIn fence front || occursIn fence rest) := by
  rw [occursIn_fence_append front other, occursIn_fence_skip]
  rintro c inside rfl
  exact absurd (blank _ inside) (by decide)

theorem occursIn_fence_bracketed {first last : Char} (opens : first ≠ '\x60')
    (closes : last ≠ '\x60') (inner : List Char) :
    occursIn fence (first :: inner ++ [last]) = occursIn fence inner := by
  have front := occursIn_fence_append [] opens (inner ++ [last])
  rw [occursIn_fence_append inner closes []] at front
  simpa [occursIn, fence] using front

variable {style : Style}

theorem occursIn_fence_named (plain : style.Plain) (key : String) (text : List Char) :
    occursIn fence (literal style.asciiOnly key.toList ++ (style.fieldSeparator.toList ++ text)) =
      (occursIn fence key.toList || occursIn fence text) := by
  obtain ⟨gap, mark, blank⟩ := plain.field
  have separated := occursIn_fence_separator (show ':' ≠ '\x60' by decide) blank [] text
  rw [List.nil_append] at separated
  rw [occursIn_fence_literal, mark, List.cons_append, separated]
  rfl

mutual

theorem occursIn_fence_chars (plain : style.Plain) : ∀ v : Json, v.Unfenced →
    occursIn fence (v.chars style) = false
  | .null, _ => by rw [chars]; decide
  | .bool b, _ => by cases b <;> rw [chars] <;> decide
  | .int n, _ => by
    have skipped := occursIn_fence_inNumber (inNumber_intChars n) []
    rwa [List.append_nil] at skipped
  | .float x, _ => by
    have skipped := occursIn_fence_inNumber (inNumber_jsonText x) []
    rwa [List.append_nil] at skipped
  | .str s, unfenced => by
    have whole := occursIn_fence_literal style.asciiOnly s.toList []
    rw [List.append_nil, unfenced] at whole
    exact whole
  | .arr items, unfenced => by
    have inner := occursIn_fence_itemChars plain items unfenced
    rw [chars, occursIn_fence_bracketed (by decide) (by decide), inner]
  | .obj fields, unfenced => by
    have inner := occursIn_fence_fieldChars plain fields unfenced
    rw [chars, occursIn_fence_bracketed (by decide) (by decide), inner]

theorem occursIn_fence_itemChars (plain : style.Plain) : ∀ items : List Json, ItemsUnfenced items →
    occursIn fence (itemChars style items) = false
  | [], _ => rfl
  | [item], unfenced => occursIn_fence_chars plain item unfenced.1
  | item :: next :: items, unfenced => by
    obtain ⟨gap, separator, blank⟩ := plain.item
    have first := occursIn_fence_chars plain item unfenced.1
    have others := occursIn_fence_itemChars plain (next :: items) unfenced.2
    rw [itemChars_cons_cons, separator, List.append_assoc, List.cons_append,
      occursIn_fence_separator (by decide) blank, first, others]
    rfl

theorem occursIn_fence_fieldChars (plain : style.Plain) : ∀ fields : List (String × Json),
    FieldsUnfenced fields → occursIn fence (fieldChars style fields) = false
  | [], _ => rfl
  | [(key, v)], unfenced => by
    have value := occursIn_fence_chars plain v unfenced.2.1
    rw [fieldChars, List.append_assoc, occursIn_fence_named plain, unfenced.1, value]
    rfl
  | (key, v) :: next :: fields, unfenced => by
    obtain ⟨gap, separator, blank⟩ := plain.item
    have value := occursIn_fence_chars plain v unfenced.2.1
    have others := occursIn_fence_fieldChars plain (next :: fields) unfenced.2.2
    rw [fieldChars_cons_cons, separator]
    simp only [List.append_assoc, List.cons_append]
    rw [occursIn_fence_named plain, unfenced.1,
      occursIn_fence_separator (by decide) blank (v.chars style), value, others]
    rfl

end

end Json

-- The fenced search looks at the raw text, so it comes before the object that a string stands in.
theorem decodeText_write (fields : List (String × Json)) (portable : (Json.obj fields).Portable) :
    decodeText ((Json.obj fields).write .exchange) =
        .ok ((decodeFenced? ((Json.obj fields).chars .exchange)).getD (.obj fields)) ∧
      ((Json.obj fields).Unfenced →
        decodeText ((Json.obj fields).write .exchange) = .ok (.obj fields)) := by
  have decoded := decodeText_chars portable
  refine ⟨decoded, fun unfenced => ?_⟩
  have absent := Json.occursIn_fence_chars Json.Style.exchange_plain (.obj fields) unfenced
  rw [decoded, decodeFenced?_eq_none absent]
  rfl

def tickedObject : List (String × Json) :=
  [("a\x60", .arr [.int (-12), .str "\x60\x60"]), ("b", .obj [("c", .null)])]

theorem decodeText_tickedObject :
    (Json.obj tickedObject).Portable ∧
      decodeText ((Json.obj tickedObject).write .exchange) = .ok (.obj tickedObject) := by
  have short : (decimalDigits 12).length ≤ digitLimit := by decide
  have portable : (Json.obj tickedObject).Portable := by
    simpa [tickedObject, Json.Portable, Json.FieldsPortable, Json.ItemsPortable, Entries.keys]
      using short
  have ticks : occursIn fence "\x60\x60".toList = false := by decide
  have unfenced : (Json.obj tickedObject).Unfenced :=
    ⟨by decide, ⟨trivial, ticks, trivial⟩, by decide, ⟨by decide, trivial, trivial⟩, trivial⟩
  exact ⟨portable, (decodeText_write tickedObject portable).2 unfenced⟩

def fencedObject : List (String × Json) :=
  [("a", .str "\x60\x60\x60\x7b\x7d\x60\x60\x60")]

theorem decodeText_fencedObject :
    (Json.obj fencedObject).Portable ∧
      decodeText ((Json.obj fencedObject).write .exchange) = .ok (.obj []) ∧
      decodeText ((Json.obj fencedObject).write .exchange) ≠ .ok (.obj fencedObject) := by
  have portable : (Json.obj fencedObject).Portable := by
    simp [fencedObject, Json.Portable, Json.FieldsPortable, Entries.keys]
  have block : fencedBlock? ((Json.obj fencedObject).chars .exchange) = some ['{', '}'] := by decide
  have inside : decodeTrimmed? ['{', '}'] = some (.obj []) := rfl
  have decoded : decodeText ((Json.obj fencedObject).write .exchange) = .ok (.obj []) := by
    rw [decodeText_chars portable, decodeFenced?, block, Option.bind_some, inside]
    rfl
  refine ⟨portable, decoded, ?_⟩
  rw [decoded]
  simp [fencedObject]

end PromptStudio
