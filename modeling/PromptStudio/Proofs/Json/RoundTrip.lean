import PromptStudio.Proofs.Entries
import PromptStudio.Proofs.Json.Literal
import PromptStudio.Proofs.Json.Numeral

set_option autoImplicit false

namespace PromptStudio.Json

mutual

/-- Names are distinct, integers have at most 4300 digits, and doubles are what their text says. -/
def Portable : Json → Prop
  | .int n => (decimalDigits n.natAbs).length ≤ digitLimit
  | .float x => read? x.jsonText = some (.float x)
  | .arr items => ItemsPortable items
  | .obj fields => (Entries.keys fields).Nodup ∧ FieldsPortable fields
  | _ => True

def ItemsPortable : List Json → Prop
  | [] => True
  | item :: rest => item.Portable ∧ ItemsPortable rest

def FieldsPortable : List (String × Json) → Prop
  | [] => True
  | (_, v) :: rest => v.Portable ∧ FieldsPortable rest

end

structure Style.Plain (style : Style) : Prop where
  item : ∃ gap, style.itemSeparator.toList = ',' :: gap ∧ ∀ c ∈ gap, isGap c = true
  field : ∃ gap, style.fieldSeparator.toList = ':' :: gap ∧ ∀ c ∈ gap, isGap c = true

theorem Style.exchange_plain : Style.exchange.Plain :=
  ⟨⟨[' '], rfl, by simp [isGap]⟩, [' '], rfl, by simp [isGap]⟩

def Starts (text : List Char) : Prop :=
  ∃ c more, text = c :: more ∧ isGap c = false ∧ c ≠ ']' ∧ c ≠ '}'

theorem Starts.append {text : List Char} (start : Starts text) (rest : List Char) :
    Starts (text ++ rest) := by
  obtain ⟨c, more, rfl, inner⟩ := start
  exact ⟨c, more ++ rest, rfl, inner⟩

theorem Starts.of_inNumber {text : List Char} (filled : text ≠ [])
    (number : ∀ c ∈ text, inNumber c = true) : Starts text := by
  cases text with
  | nil => exact absurd rfl filled
  | cons c more =>
    have first := number c (by simp)
    refine ⟨c, more, rfl, isGap_of_inNumber first, ?_, ?_⟩ <;> rintro rfl <;>
      exact absurd first (by decide)

theorem skipGap_of_starts {text : List Char} (start : Starts text) : skipGap text = text := by
  obtain ⟨c, more, rfl, visible, -⟩ := start
  simp [skipGap, visible]

theorem skipGap_append {gap text : List Char} (blank : ∀ c ∈ gap, isGap c = true)
    (start : Starts text) : skipGap (gap ++ text) = text := by
  induction gap with
  | nil => exact skipGap_of_starts start
  | cons c gap ih =>
    have first : isGap c = true := blank c (by simp)
    simpa [skipGap, first] using ih fun c inside => blank c (by simp [inside])

theorem skipGap_mark {c : Char} (visible : isGap c = false) (rest : List Char) :
    skipGap (c :: rest) = c :: rest := by
  simp [skipGap, visible]

theorem inNumber_intChars (n : Int) : ∀ c ∈ intChars n, inNumber c = true := by
  have digit : ∀ c ∈ decimalDigits n.natAbs, inNumber c = true := fun c inside =>
    inNumber_of_isDigit (isDigit_of_mem_decimalDigits inside)
  unfold intChars
  split
  next =>
    intro c inside
    rcases List.mem_cons.mp inside with rfl | later
    · decide
    · exact digit c later
  next => exact digit

theorem intChars_ne_nil (n : Int) : intChars n ≠ [] := by
  unfold intChars
  split <;> simp [decimalDigits]

section Steps

variable {fuel : Nat} {text gap later rest : List Char}

theorem readItems?_last {item : Json} (first : readValue? fuel text = some (item, ']' :: rest)) :
    readItems? (fuel + 1) text = some ([item], rest) := by
  simp only [readItems?, first, skipGap_mark (c := ']') (by decide)]

theorem readItems?_more {item : Json} {items : List Json} (blank : ∀ c ∈ gap, isGap c = true)
    (start : Starts later) (first : readValue? fuel text = some (item, ',' :: (gap ++ later)))
    (others : readItems? fuel later = some (items, rest)) :
    readItems? (fuel + 1) text = some (item :: items, rest) := by
  simp only [readItems?, first, skipGap_mark (c := ',') (by decide), skipGap_append blank start,
    others, Option.map_some]

theorem readValue?_literal (ascii : Bool) (s : String) (fuel : Nat) (rest : List Char) :
    readValue? (fuel + 1) (literal ascii s.toList ++ rest) = some (.str s, rest) := by
  simp only [literal, List.cons_append, List.append_assoc, List.nil_append, readValue?,
    readString?_closed, Option.map_some, String.ofList_toList]

theorem readFields?_last (ascii : Bool) (key : String) {v : Json}
    (blank : ∀ c ∈ gap, isGap c = true) (start : Starts later)
    (value : readValue? fuel later = some (v, '}' :: rest)) :
    readFields? (fuel + 1) (literal ascii key.toList ++ ':' :: (gap ++ later)) =
      some ([(key, v)], rest) := by
  have name := readString?_closed ascii key.toList (':' :: (gap ++ later))
  simp only [literal, List.cons_append, List.append_assoc, List.nil_append, readFields?, name,
    skipGap_mark (c := ':') (by decide), skipGap_append blank start, value,
    skipGap_mark (c := '}') (by decide), String.ofList_toList]

theorem readFields?_more (ascii : Bool) (key : String) {v : Json} {next more : List Char}
    {fields : List (String × Json)} (blank : ∀ c ∈ gap, isGap c = true) (start : Starts later)
    (separated : ∀ c ∈ next, isGap c = true) (follows : Starts more)
    (value : readValue? fuel later = some (v, ',' :: (next ++ more)))
    (others : readFields? fuel more = some (fields, rest)) :
    readFields? (fuel + 1) (literal ascii key.toList ++ ':' :: (gap ++ later)) =
      some ((key, v) :: fields, rest) := by
  have name := readString?_closed ascii key.toList (':' :: (gap ++ later))
  simp only [literal, List.cons_append, List.append_assoc, List.nil_append, readFields?, name,
    skipGap_mark (c := ':') (by decide), skipGap_append blank start, value,
    skipGap_mark (c := ',') (by decide), skipGap_append separated follows, others,
    Option.map_some, String.ofList_toList]

theorem readValue?_items {items : List Json} (start : Starts text)
    (inner : readItems? fuel text = some (items, rest)) :
    readValue? (fuel + 1) ('[' :: text) = some (.arr items, rest) := by
  obtain ⟨c, more, rfl, -, other, -⟩ := id start
  simp only [readValue?, skipGap_of_starts start]
  split
  next same => exact absurd (List.cons.inj same).1 other
  next => rw [inner, Option.map_some]

theorem readValue?_fields {fields : List (String × Json)} (start : Starts text)
    (distinct : (Entries.keys fields).Nodup)
    (inner : readFields? fuel text = some (fields, rest)) :
    readValue? (fuel + 1) ('{' :: text) = some (.obj fields, rest) := by
  obtain ⟨c, more, rfl, -, -, other⟩ := id start
  simp only [readValue?, skipGap_of_starts start]
  split
  next same => exact absurd (List.cons.inj same).1 other
  next => rw [inner, Option.map_some, Entries.ofPairs_of_nodup fields distinct]

end Steps

variable {style : Style}

theorem itemChars_cons_cons (item next : Json) (rest : List Json) :
    itemChars style (item :: next :: rest) =
      item.chars style ++ style.itemSeparator.toList ++ itemChars style (next :: rest) := by
  rw [itemChars]
  simp

theorem fieldChars_cons_cons (key : String) (v : Json) (next : String × Json)
    (rest : List (String × Json)) :
    fieldChars style ((key, v) :: next :: rest) =
      literal style.asciiOnly key.toList ++ style.fieldSeparator.toList ++ v.chars style ++
        style.itemSeparator.toList ++ fieldChars style (next :: rest) := by
  rw [fieldChars]
  simp

theorem starts_literal (ascii : Bool) (text : List Char) : Starts (literal ascii text) :=
  ⟨'"', text.flatMap (escapeChar ascii) ++ ['"'], rfl, by decide, by decide, by decide⟩

theorem starts_chars (style : Style) (v : Json) : Starts (v.chars style) := by
  cases v with
  | null => exact ⟨'n', "ull".toList, rfl, by decide, by decide, by decide⟩
  | bool b => cases b <;> exact ⟨_, _, rfl, by decide, by decide, by decide⟩
  | int n => exact Starts.of_inNumber (intChars_ne_nil n) (inNumber_intChars n)
  | float x => exact Starts.of_inNumber (jsonText_ne_nil x) (inNumber_jsonText x)
  | str s => exact starts_literal style.asciiOnly s.toList
  | arr items => exact ⟨'[', _, rfl, by decide, by decide, by decide⟩
  | obj fields => exact ⟨'{', _, rfl, by decide, by decide, by decide⟩

theorem starts_itemChars (style : Style) (item : Json) (rest : List Json) :
    Starts (itemChars style (item :: rest)) := by
  cases rest with
  | nil => exact starts_chars style item
  | cons next rest =>
    rw [itemChars_cons_cons]
    exact ((starts_chars style item).append _).append _

theorem starts_fieldChars (style : Style) (field : String × Json) (rest : List (String × Json)) :
    Starts (fieldChars style (field :: rest)) := by
  obtain ⟨key, v⟩ := field
  have name := starts_literal style.asciiOnly key.toList
  cases rest with
  | nil => exact (name.append _).append _
  | cons next rest =>
    rw [fieldChars_cons_cons]
    exact (((name.append _).append _).append _).append _

theorem apart_mark {c : Char} (mark : inNumber c = false) (rest : List Char) :
    Apart (c :: rest) := by
  intro d same
  obtain rfl : c = d := by simpa using same
  exact mark

theorem readValue?_of_scalar {v : Json} {rest : List Char} (text : List Char)
    (number : ∀ c ∈ text, inNumber c = true) (filled : text ≠ [])
    (scalar : readScalar? text = some (v, [])) (apart : Apart rest) (fuel : Nat) :
    readValue? (fuel + 1) (text ++ rest) = some (v, rest) := by
  rw [readValue?_scalar number fuel rest filled, readScalar?_append apart, scalar]
  rfl

-- One step down costs a bracket, so the length of the written text is fuel enough.
mutual

theorem readValue?_chars (plain : style.Plain) : ∀ (v : Json), v.Portable → ∀ (rest : List Char),
    Apart rest → ∀ fuel, (v.chars style).length ≤ fuel →
      readValue? fuel (v.chars style ++ rest) = some (v, rest)
  | v, _, _, _, 0, enough => by
    obtain ⟨c, more, text, -⟩ := starts_chars style v
    simp [text] at enough
  | .null, _, rest, apart, fuel + 1, _ =>
    readValue?_of_scalar "null".toList (List.all_eq_true.mp (by decide)) (by decide) rfl apart fuel
  | .bool b, _, rest, apart, fuel + 1, _ => by
    cases b with
    | true =>
      exact readValue?_of_scalar "true".toList (List.all_eq_true.mp (by decide)) (by decide) rfl
        apart fuel
    | false =>
      exact readValue?_of_scalar "false".toList (List.all_eq_true.mp (by decide)) (by decide) rfl
        apart fuel
  | .int n, portable, rest, apart, fuel + 1, _ =>
    readValue?_of_scalar (intChars n) (inNumber_intChars n) (intChars_ne_nil n)
      (readScalar?_intChars portable) apart fuel
  | .float x, portable, rest, apart, fuel + 1, _ =>
    readValue?_of_scalar x.jsonText.toList (inNumber_jsonText x) (jsonText_ne_nil x)
      (readScalar?_jsonText portable) apart fuel
  | .str s, _, rest, _, fuel + 1, _ => readValue?_literal style.asciiOnly s fuel rest
  | .arr [], _, rest, _, fuel + 1, _ => rfl
  | .arr (item :: items), portable, rest, _, fuel + 1, enough => by
    have start := (starts_itemChars style item items).append (']' :: rest)
    simp only [chars, List.length_append, List.length_cons, List.length_nil] at enough
    have inner := readItems?_chars plain item items portable rest fuel (by omega)
    have whole := readValue?_items start inner
    simpa only [chars, List.append_assoc, List.cons_append, List.nil_append] using whole
  | .obj [], _, rest, _, fuel + 1, _ => rfl
  | .obj (field :: fields), portable, rest, _, fuel + 1, enough => by
    have start := (starts_fieldChars style field fields).append ('}' :: rest)
    simp only [chars, List.length_append, List.length_cons, List.length_nil] at enough
    have inner := readFields?_chars plain field fields portable.2 rest fuel (by omega)
    have whole := readValue?_fields start portable.1 inner
    simpa only [chars, List.append_assoc, List.cons_append, List.nil_append] using whole

theorem readItems?_chars (plain : style.Plain) : ∀ (item : Json) (items : List Json),
    ItemsPortable (item :: items) → ∀ (rest : List Char) (fuel : Nat),
      (itemChars style (item :: items)).length + 1 ≤ fuel →
      readItems? fuel (itemChars style (item :: items) ++ ']' :: rest) = some (item :: items, rest)
  | _, _, _, _, 0, enough => by simp at enough
  | item, [], portable, rest, fuel + 1, enough => by
    exact readItems?_last (readValue?_chars plain item portable.1 _ (apart_mark (by decide) rest)
      fuel (by simpa [itemChars] using enough))
  | item, next :: items, portable, rest, fuel + 1, enough => by
    obtain ⟨gap, separator, blank⟩ := plain.item
    have start := (starts_itemChars style next items).append (']' :: rest)
    rw [itemChars_cons_cons] at enough ⊢
    simp only [separator, List.length_append, List.length_cons] at enough
    have others := readItems?_chars plain next items portable.2 rest fuel (by omega)
    have first := readValue?_chars plain item portable.1
      (',' :: (gap ++ (itemChars style (next :: items) ++ ']' :: rest)))
      (apart_mark (by decide) _) fuel (by omega)
    have step := readItems?_more blank start first others
    simpa only [separator, List.append_assoc, List.cons_append] using step

theorem readFields?_chars (plain : style.Plain) : ∀ (field : String × Json)
    (fields : List (String × Json)), FieldsPortable (field :: fields) →
    ∀ (rest : List Char) (fuel : Nat), (fieldChars style (field :: fields)).length + 1 ≤ fuel →
      readFields? fuel (fieldChars style (field :: fields) ++ '}' :: rest) =
        some (field :: fields, rest)
  | _, _, _, _, 0, enough => by simp at enough
  | (key, v), [], portable, rest, fuel + 1, enough => by
    obtain ⟨gap, mark, blank⟩ := plain.field
    have start := (starts_chars style v).append ('}' :: rest)
    simp only [fieldChars, List.length_append] at enough
    have value := readValue?_chars plain v portable.1 ('}' :: rest) (apart_mark (by decide) rest)
      fuel (by omega)
    have step := readFields?_last style.asciiOnly key blank start value
    simpa only [fieldChars, mark, List.append_assoc, List.cons_append] using step
  | (key, v), next :: fields, portable, rest, fuel + 1, enough => by
    obtain ⟨gap, mark, blank⟩ := plain.field
    obtain ⟨between, separator, separated⟩ := plain.item
    have follows := (starts_fieldChars style next fields).append ('}' :: rest)
    have start := (starts_chars style v).append
      (',' :: (between ++ (fieldChars style (next :: fields) ++ '}' :: rest)))
    rw [fieldChars_cons_cons] at enough ⊢
    simp only [separator, List.length_append, List.length_cons] at enough
    have value := readValue?_chars plain v portable.1
      (',' :: (between ++ (fieldChars style (next :: fields) ++ '}' :: rest)))
      (apart_mark (by decide) _) fuel (by omega)
    have others := readFields?_chars plain next fields portable.2 rest fuel (by omega)
    have step := readFields?_more style.asciiOnly key blank start separated follows value others
    simpa only [mark, separator, List.append_assoc, List.cons_append] using step

end

theorem readChars?_chars (plain : style.Plain) {v : Json} (portable : v.Portable) :
    readChars? (v.chars style) = some v := by
  have read := readValue?_chars plain v portable [] (by simp [Apart])
    (2 * (v.chars style).length + 2) (by omega)
  rw [List.append_nil] at read
  rw [readChars?, skipGap_of_starts (starts_chars style v), read]
  rfl

theorem read?_write (plain : style.Plain) {v : Json} (portable : v.Portable) :
    read? (v.write style) = some v := by
  rw [read?, write, String.toList_ofList, readChars?_chars plain portable]

end PromptStudio.Json
