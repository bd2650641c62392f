import PromptStudio.Proofs.Json.Distinct
import PromptStudio.Proofs.Json.RoundTrip

set_option autoImplicit false

namespace PromptStudio.Json

/-- What the reader makes of parts with the property has it too. -/
structure Closed (P : Json → Prop) : Prop where
  text : ∀ s, P (.str s)
  named : ∀ entry ∈ namedValues, P entry.2
  number : ∀ text v rest, readNumber? text = some (v, rest) → P v
  items : ∀ items, (∀ item ∈ items, P item) → P (.arr items)
  fields : ∀ pairs : List (String × Json), (∀ entry ∈ pairs, P entry.2) →
    P (.obj (Entries.ofPairs pairs))

variable {P : Json → Prop}

theorem Closed.of_readNamed (closed : Closed P) {text rest : List Char} {v : Json}
    (read : readNamed? text = some (v, rest)) : P v := by
  obtain ⟨entry, inside, found⟩ := List.exists_of_findSome?_eq_some read
  obtain ⟨left, -, same⟩ := Option.map_eq_some_iff.mp found
  cases same
  exact closed.named entry inside

structure Reads (P : Json → Prop) (fuel : Nat) : Prop where
  value : ∀ text v rest, readValue? fuel text = some (v, rest) → P v
  items : ∀ text items rest, readItems? fuel text = some (items, rest) → ∀ item ∈ items, P item
  fields : ∀ text fields rest, readFields? fuel text = some (fields, rest) →
    ∀ entry ∈ fields, P entry.2

-- Each reader calls the others with less fuel.
theorem Closed.reads (closed : Closed P) (fuel : Nat) : Reads P fuel := by
  induction fuel with
  | zero => constructor <;> intro text v rest read <;> cases read
  | succ fuel ih =>
    constructor
    case value =>
      intro text v rest read
      unfold readValue? at read
      split at read
      next =>
        obtain ⟨_, -, same⟩ := Option.map_eq_some_iff.mp read
        cases same
        exact closed.text _
      next =>
        split at read
        next => cases read; exact closed.items [] (List.forall_mem_nil _)
        next =>
          obtain ⟨⟨items, left⟩, inner, same⟩ := Option.map_eq_some_iff.mp read
          cases same
          exact closed.items items (ih.items _ items _ inner)
      next =>
        split at read
        next => cases read; exact closed.fields [] (List.forall_mem_nil _)
        next =>
          obtain ⟨⟨fields, left⟩, inner, same⟩ := Option.map_eq_some_iff.mp read
          cases same
          exact closed.fields fields (ih.fields _ fields _ inner)
      next =>
        rcases Option.or_eq_some_iff.mp read with named | ⟨-, number⟩
        · exact closed.of_readNamed named
        · exact closed.number _ v rest number
    case items =>
      intro text items rest read
      unfold readItems? at read
      split at read
      next => cases read
      next item left first =>
        have own := ih.value _ item left first
        split at read
        next => cases read; exact List.forall_mem_singleton.mpr own
        next =>
          obtain ⟨⟨others, after⟩, inner, same⟩ := Option.map_eq_some_iff.mp read
          cases same
          exact List.forall_mem_cons.mpr ⟨own, ih.items _ others _ inner⟩
        next => cases read
    case fields =>
      intro text fields rest read
      unfold readFields? at read
      split at read
      next =>
        split at read
        next => cases read
        next key left _ =>
          split at read
          next =>
            split at read
            next => cases read
            next v after value =>
              have own := ih.value _ v after value
              dsimp only at read
              split at read
              next => cases read; exact List.forall_mem_singleton.mpr own
              next =>
                obtain ⟨⟨others, behind⟩, inner, same⟩ := Option.map_eq_some_iff.mp read
                cases same
                exact List.forall_mem_cons.mpr ⟨own, ih.fields _ others _ inner⟩
              next => cases read
          next => cases read
      next => cases read

theorem Closed.of_readChars (closed : Closed P) {text : List Char} {v : Json}
    (read : readChars? text = some v) : P v := by
  unfold readChars? at read
  split at read
  next w rest found =>
    split at read
    next =>
      cases read
      exact (closed.reads _).value _ v rest found
    next => cases read
  next => cases read

section Distinct

theorem itemsDistinct_iff (items : List Json) : ItemsDistinct items ↔ ∀ item ∈ items, item.Distinct := by
  induction items with
  | nil => simp [ItemsDistinct]
  | cons item rest ih => simp [ItemsDistinct, ih]

theorem fieldsDistinct_iff (fields : List (String × Json)) :
    FieldsDistinct fields ↔ ∀ entry ∈ fields, entry.2.Distinct := by
  induction fields with
  | nil => simp [FieldsDistinct]
  | cons entry rest ih => simp [FieldsDistinct, ih]

theorem distinct_of_readNumber {text rest : List Char} {v : Json}
    (read : readNumber? text = some (v, rest)) : v.Distinct := by
  unfold readNumber? at read
  dsimp only at read
  split at read
  next => cases read
  next =>
    split at read
    next =>
      split at read
      next => cases read; trivial
      next => cases read
    next => cases read; trivial

theorem of_mem_ofPairs {pairs : List (String × Json)} (each : ∀ entry ∈ pairs, P entry.2) :
    ∀ entry ∈ Entries.ofPairs pairs, P entry.2 := by
  have names : (Entries.keys (Entries.ofPairs pairs)).Nodup :=
    Entries.nodup_keys_overlay (by simp [Entries.keys]) pairs
  rintro ⟨key, v⟩ inside
  rcases Entries.mem_of_get?_overlay (Entries.get?_of_mem names inside) with nothing | given
  · simp at nothing
  · exact each _ given

theorem distinct_closed : Closed Distinct where
  text _ := trivial
  named := by simp [namedValues, Distinct]
  number _ _ _ read := distinct_of_readNumber read
  items items each := (itemsDistinct_iff items).mpr each
  fields pairs each :=
    ⟨Entries.nodup_keys_overlay (by simp [Entries.keys]) pairs,
      (fieldsDistinct_iff _).mpr (of_mem_ofPairs each)⟩

theorem distinct_of_readChars {text : List Char} {v : Json} (read : readChars? text = some v) :
    v.Distinct :=
  distinct_closed.of_readChars read

end Distinct

section Writable

theorem itemsWritable_iff (items : List Json) :
    itemsWritable items = true ↔ ∀ item ∈ items, item.isWritable = true := by
  induction items with
  | nil => simp [itemsWritable]
  | cons item rest ih => simp [itemsWritable, ih]

theorem fieldsWritable_iff (fields : List (String × Json)) :
    fieldsWritable fields = true ↔ ∀ entry ∈ fields, entry.2.isWritable = true := by
  induction fields with
  | nil => simp [fieldsWritable]
  | cons entry rest ih => simp [fieldsWritable, ih]

-- The digits that are counted are those of the text, which may begin with zeros.
theorem short_digitsValue {text : List Char} (short : text.length ≤ digitLimit) :
    (decimalDigits (digitsValue (text.filterMap asciiDigit?))).length ≤ digitLimit := by
  have figures : ∀ digit ∈ text.filterMap asciiDigit?, digit < 10 := by
    intro digit inside
    obtain ⟨c, -, read⟩ := List.mem_filterMap.mp inside
    exact asciiDigit?_lt read
  have fewer : (text.filterMap asciiDigit?).length ≤ digitLimit :=
    (List.length_filterMap_le asciiDigit? text).trans short
  have bound := (digitsValue_lt figures).trans_le (Nat.pow_le_pow_right (by decide) fewer)
  exact Nat.toDigits_length 10 _ digitLimit (by decide) bound

theorem writable_of_readNumber {text rest : List Char} {v : Json}
    (read : readNumber? text = some (v, rest)) : v.isWritable = true := by
  unfold readNumber? at read
  dsimp only at read
  split at read
  next => cases read
  next =>
    split at read
    next =>
      split at read
      next short =>
        cases read
        have natAbs (negative : Bool) (n : Nat) : (signed negative n).natAbs = n := by
          cases negative <;> simp [signed]
        rw [isWritable, natAbs]
        exact decide_eq_true (short_digitsValue short)
      next => cases read
    next => cases read; rfl

theorem writable_closed : Closed (·.isWritable = true) where
  text _ := rfl
  named := by simp [namedValues, isWritable]
  number _ _ _ read := writable_of_readNumber read
  items items each := (itemsWritable_iff items).mpr each
  fields _ each := (fieldsWritable_iff _).mpr (of_mem_ofPairs (P := (·.isWritable = true)) each)

mutual

def Exact : Json → Prop
  | .float x => read? x.jsonText = some (.float x)
  | .arr items => ItemsExact items
  | .obj fields => FieldsExact fields
  | _ => True

def ItemsExact : List Json → Prop
  | [] => True
  | item :: rest => item.Exact ∧ ItemsExact rest

def FieldsExact : List (String × Json) → Prop
  | [] => True
  | (_, v) :: rest => v.Exact ∧ FieldsExact rest

end

mutual

theorem Exact.portable : ∀ {v : Json}, v.Exact → v.Distinct → v.isWritable = true → v.Portable
  | .int _, _, _, short => by simpa [isWritable, Portable] using short
  | .float _, exact, _, _ => exact
  | .arr _, exact, distinct, short => exact.itemsPortable distinct short
  | .obj _, exact, distinct, short => ⟨distinct.1, exact.fieldsPortable distinct.2 short⟩
  | .null, _, _, _ | .bool _, _, _, _ | .str _, _, _, _ => trivial

theorem ItemsExact.itemsPortable : ∀ {items : List Json}, ItemsExact items → ItemsDistinct items →
    itemsWritable items = true → ItemsPortable items
  | [], _, _, _ => trivial
  | _ :: _, exact, distinct, short =>
    have ⟨first, others⟩ := Bool.and_eq_true_iff.mp short
    ⟨exact.1.portable distinct.1 first, exact.2.itemsPortable distinct.2 others⟩

theorem FieldsExact.fieldsPortable : ∀ {fields : List (String × Json)}, FieldsExact fields →
    FieldsDistinct fields → fieldsWritable fields = true → FieldsPortable fields
  | [], _, _, _ => trivial
  | _ :: _, exact, distinct, short =>
    have ⟨first, others⟩ := Bool.and_eq_true_iff.mp short
    ⟨exact.1.portable distinct.1 first, exact.2.fieldsPortable distinct.2 others⟩

end

theorem writable_of_read {text : String} {v : Json} (read : read? text = some v) :
    v.isWritable = true :=
  writable_closed.of_readChars read

end Writable

end PromptStudio.Json
