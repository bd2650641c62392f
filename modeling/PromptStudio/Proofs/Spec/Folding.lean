import PromptStudio.Proofs.Form.Filling
import PromptStudio.Spec.Merge

set_option autoImplicit false

namespace PromptStudio

namespace Field

def updated (field : Field) (current updates : Section) : Option Json :=
  (field.readIn updates).or (Entries.get? current field.name)

end Field

theorem get?_restore (current merged : Section) (key other : String) :
    Entries.get? (restore current merged key) other =
      if other = key then Entries.get? current other else Entries.get? merged other := by
  cases found : Entries.get? current key with
  | none =>
    rw [restore, found, Entries.get?_drop]
    split
    next same => rw [same, found]
    next => rfl
  | some v =>
    rw [restore, found, Entries.get?_put]
    split
    next same => rw [same, found]
    next => rfl

theorem get?_foldl_restore (current merged : Section) (refused : List String) (key : String) :
    Entries.get? (refused.foldl (restore current) merged) key =
      if key ∈ refused then Entries.get? current key else Entries.get? merged key := by
  induction refused generalizing merged with
  | nil => simp
  | cons first rest ih =>
    rw [List.foldl_cons, ih, get?_restore]
    by_cases later : key ∈ rest <;> by_cases same : key = first <;> simp [later, same]

namespace Form

variable {f : Form} {current updates extra r : Section}

-- A declared field that nothing else is laid over: refused means that the update's value is.
theorem get?_foldSection (wellFormed : f.WellFormed) (distinct : (Entries.keys updates).Nodup)
    (single : (Entries.keys extra).Nodup) {field : Field} (inside : field ∈ f.fields)
    (apart : Entries.get? extra field.name = none) :
    Entries.get? (foldSection f current updates extra) field.name =
      ((Entries.get? updates field.name).filter field.kind.accepts).or
        (Entries.get? current field.name) := by
  have laid : Entries.get? (Entries.overlay (Entries.overlay current updates) extra) field.name =
      (Entries.get? updates field.name).or (Entries.get? current field.name) := by
    rw [Entries.get?_overlay _ _ single, apart, Entries.get?_overlay _ _ distinct, Option.none_or]
  have refused : field.name ∈ f.refused (Entries.overlay (Entries.overlay current updates) extra) ↔
      ∃ v, (Entries.get? updates field.name).or (Entries.get? current field.name) = some v ∧
        field.kind.accepts v = false := by
    rw [mem_refused_iff]
    constructor
    · rintro ⟨other, member, same, v, found, bad⟩
      obtain rfl : other = field :=
        List.inj_on_of_nodup_map wellFormed.distinct member inside same
      exact ⟨v, laid ▸ found, bad⟩
    · rintro ⟨v, found, bad⟩
      exact ⟨field, inside, rfl, v, laid ▸ found, bad⟩
  rw [foldSection, get?_foldl_restore, Entries.get?_overlay _ _ distinct]
  cases given : Entries.get? updates field.name with
  | none => simp
  | some v =>
    cases accepted : field.kind.accepts v <;>
      simp [refused, given, accepted, Option.filter]

theorem get?_foldSection_undeclared (distinct : (Entries.keys updates).Nodup) (key : String)
    (undeclared : f.declares key = false) :
    Entries.get? (foldSection f current updates extra) key =
      (Entries.get? updates key).or (Entries.get? current key) := by
  have kept : key ∉ f.refused (Entries.overlay (Entries.overlay current updates) extra) := by
    rw [mem_refused_iff]
    rintro ⟨field, inside, rfl, -⟩
    simp [declares_of_mem inside] at undeclared
  rw [foldSection, get?_foldl_restore, if_neg kept, Entries.get?_overlay _ _ distinct]

/-- What is laid over a folded section last: values that the form takes as they are. -/
def Suits (f : Form) (extra : Section) : Prop :=
  (Entries.keys extra).Nodup ∧
    ∀ field ∈ f.fields, ∀ v, Entries.get? extra field.name = some v → field.kind.read v = .ok v

theorem suits_nil (f : Form) : f.Suits [] := by
  simp [Suits, Entries.keys]

def folded (f : Form) (current updates extra : Section) : Section :=
  Entries.overlay (foldSection f current updates extra) extra

-- A field holds one of three values: the last word of `extra`, an accepted update, or its old
-- value, which the form held before.
theorem get?_folded (wellFormed : f.WellFormed) (distinct : (Entries.keys updates).Nodup)
    (suits : f.Suits extra) {field : Field} (inside : field ∈ f.fields) :
    Entries.get? (f.folded current updates extra) field.name =
      (Entries.get? extra field.name).or
        (((Entries.get? updates field.name).filter field.kind.accepts).or
          (Entries.get? current field.name)) := by
  rw [folded, Entries.get?_overlay _ _ suits.1]
  cases apart : Entries.get? extra field.name with
  | some v => simp
  | none => rw [get?_foldSection wellFormed distinct suits.1 inside apart]

-- What the form refuses is put back, and the old value was held by the form.
theorem accepts_folded (wellFormed : f.WellFormed) (held : f.Holds current)
    (suits : f.Suits extra) : f.Accepts (f.folded current updates extra) := by
  intro field inside v found
  rw [folded, Entries.get?_overlay _ _ suits.1, Option.or_eq_some_iff] at found
  rcases found with own | ⟨apart, laid⟩
  · simp [Kind.accepts, suits.2 field inside v own]
  · rw [foldSection, get?_foldl_restore] at laid
    split at laid
    next =>
      obtain ⟨w, there, read⟩ := held.field wellFormed inside
      obtain rfl : w = v := by simpa [there] using laid
      simp [Kind.accepts, read]
    next spared =>
      by_contra refused
      apply spared
      rw [mem_refused_iff]
      refine ⟨field, inside, rfl, v, ?_, Bool.not_eq_true _ ▸ refused⟩
      rw [Entries.get?_overlay _ _ suits.1, apart, Option.none_or, laid]

theorem fill_folded (wellFormed : f.WellFormed) (held : f.Holds current) (suits : f.Suits extra) :
    f.fill (f.folded current updates extra) = .ok (f.settled (f.folded current updates extra)) :=
  fill_of_accepts wellFormed (accepts_folded wellFormed held suits)

theorem get?_settled_folded (wellFormed : f.WellFormed) (held : f.Holds current)
    (distinct : (Entries.keys updates).Nodup) (suits : f.Suits extra) {field : Field}
    (inside : field ∈ f.fields) (apart : Entries.get? extra field.name = none) :
    Entries.get? (f.settled (f.folded current updates extra)) field.name =
      field.updated current updates := by
  obtain ⟨old, there, kept⟩ := held.field wellFormed inside
  rw [get?_settled wellFormed _ inside, Field.settled,
    get?_folded wellFormed distinct suits inside, apart, Option.none_or]
  cases given : Entries.get? updates field.name with
  | none => simp [Field.updated, Field.readIn, given, there, kept]
  | some v =>
    cases accepted : field.kind.accepts v with
    | false =>
      have refused : (field.kind.read v).toOption = none := by
        simpa [Kind.accepts] using accepted
      simp [Field.updated, Field.readIn, given, Option.filter, accepted, refused, there, kept]
    | true =>
      obtain ⟨w, read⟩ := Kind.read_ok_of_accepts accepted
      simp [Field.updated, Field.readIn, given, Option.filter, accepted, read]

theorem get?_settled_folded_extra (wellFormed : f.WellFormed)
    (distinct : (Entries.keys updates).Nodup) (suits : f.Suits extra) {field : Field}
    (inside : field ∈ f.fields) {v : Json} (last : Entries.get? extra field.name = some v) :
    Entries.get? (f.settled (f.folded current updates extra)) field.name = some v := by
  rw [get?_settled wellFormed _ inside, Field.settled, get?_folded wellFormed distinct suits inside,
    last, Option.some_or]
  simp [suits.2 field inside v last]

theorem get?_settled_folded_undeclared (opened : f.isOpen = true)
    (distinct : (Entries.keys updates).Nodup) (suits : f.Suits extra) (key : String)
    (undeclared : f.declares key = false) :
    Entries.get? (f.settled (f.folded current updates extra)) key =
      (Entries.get? extra key).or
        ((Entries.get? updates key).or (Entries.get? current key)) := by
  rw [get?_settled_undeclared f _ key undeclared, if_pos opened, folded,
    Entries.get?_overlay _ _ suits.1, get?_foldSection_undeclared distinct key undeclared]

theorem others_overlay (f : Form) (base updates : Section) :
    f.others (Entries.overlay base updates) =
      Entries.overlay (f.others base) (f.others updates) := by
  by_cases opened : f.isOpen = true
  next => simpa [others, opened] using Entries.filter_overlay base updates fun key => !f.declares key
  next => simp [others, opened]

theorem others_restore {key : String} (declared : f.declares key = true)
    (current merged : Section) : f.others (restore current merged key) = f.others merged := by
  by_cases opened : f.isOpen = true
  next =>
    unfold restore others
    cases Entries.get? current key with
    | none =>
      simp only [opened, if_true, Entries.drop, List.filter_filter]
      apply List.filter_congr
      intro entry _
      by_cases same : entry.1 = key <;> simp [same, declared]
    | some v =>
      have kept := Entries.filter_put merged key v fun key => !f.declares key
      simpa [opened, declared] using kept
  next => simp [others, opened]

theorem others_foldSection (f : Form) (current updates extra : Section) :
    f.others (foldSection f current updates extra) =
      Entries.overlay (f.others current) (f.others updates) := by
  have restored (refused : List String) (declared : ∀ key ∈ refused, f.declares key = true)
      (merged : Section) : f.others (refused.foldl (restore current) merged) = f.others merged := by
    induction refused generalizing merged with
    | nil => rfl
    | cons key rest ih =>
      rw [List.foldl_cons, ih fun other later => declared other (List.mem_cons_of_mem _ later)]
      exact others_restore (declared key (List.mem_cons_self ..)) current merged
  rw [foldSection, restored, others_overlay]
  intro key inside
  obtain ⟨field, member, rfl, -⟩ := (mem_refused_iff _ _ _).mp inside
  exact declares_of_mem member

theorem settled_refolded (wellFormed : f.WellFormed) (distinct : (Entries.keys updates).Nodup)
    (suits : f.Suits extra) (accepted : f.Accepts (f.folded current updates extra)) {field : Field}
    (inside : field ∈ f.fields) :
    field.settled (f.folded (f.settled (f.folded current updates extra)) updates extra) =
      field.settled (f.folded current updates extra) := by
  have laid (old : Section) :
      Entries.get? (f.folded old updates extra) field.name =
        (Entries.get? extra field.name).or
          (((Entries.get? updates field.name).filter field.kind.accepts).or
            (Entries.get? old field.name)) :=
    get?_folded wellFormed distinct suits inside
  have first := laid current
  have again := laid (f.settled (f.folded current updates extra))
  cases last : Entries.get? extra field.name with
  | some v =>
    rw [last, Option.some_or] at first again
    rw [Field.settled, Field.settled, first, again]
  | none =>
    cases update : (Entries.get? updates field.name).filter field.kind.accepts with
    | some v =>
      rw [last, Option.none_or, update, Option.some_or] at first again
      rw [Field.settled, Field.settled, first, again]
    | none =>
      -- What was refused is refused again, and the value that was kept is in the form's own shape.
      have kept := read_field_settled wellFormed accepted inside
      rw [last, Option.none_or, update, Option.none_or, get?_settled wellFormed _ inside] at again
      rw [Field.settled, again]
      simp only [kept, Checked.toOption_ok, Option.getD_some]

theorem fill_refolded (wellFormed : f.WellFormed) (distinct : (Entries.keys updates).Nodup)
    (suits : f.Suits extra) (own : f.others extra = [])
    (filled : f.fill (f.folded current updates extra) = .ok r) :
    f.fill (f.folded r updates extra) = .ok r := by
  have held := holds_of_fill wellFormed filled
  have accepted := accepts_of_fill filled
  rw [fill_of_accepts wellFormed accepted] at filled
  injection filled with settled
  have others (e : Section) : f.others (f.folded e updates extra) =
      Entries.overlay (f.others e) (f.others updates) := by
    rw [folded, others_overlay, others_foldSection, own, Entries.overlay_nil]
  have same : f.settled (f.folded r updates extra) = f.settled (f.folded current updates extra) := by
    subst settled
    apply settled_congr
    · intro field inside
      exact settled_refolded wellFormed distinct suits accepted inside
    · rw [others, others_settled, others, Entries.overlay_overlay]
  rw [fill_folded wellFormed held suits, same, settled]

def mergedPart (f : Form) (current : Section) (part : Option Section) (extra : Section) : Section :=
  match part with
  | some updates => f.settled (f.folded current updates extra)
  | none => current

theorem mergedPart_holds {part : Option Section} (wellFormed : f.WellFormed)
    (held : f.Holds current) (suits : f.Suits extra) :
    f.Holds (f.mergedPart current part extra) := by
  cases part with
  | none => exact held
  | some updates => exact holds_of_fill wellFormed (fill_folded wellFormed held suits)

theorem get?_mergedPart {part : Option Section} (wellFormed : f.WellFormed) (held : f.Holds current)
    (distinct : ∀ updates ∈ part, (Entries.keys updates).Nodup) (suits : f.Suits extra)
    {field : Field} (inside : field ∈ f.fields) (apart : Entries.get? extra field.name = none) :
    Entries.get? (f.mergedPart current part extra) field.name =
      field.updated current (part.getD []) := by
  cases part with
  | none => simp [mergedPart, Field.updated, Field.readIn]
  | some updates =>
    exact get?_settled_folded wellFormed held (distinct updates rfl) suits inside apart

theorem get?_mergedPart_extra {part : Option Section} (wellFormed : f.WellFormed)
    (distinct : ∀ updates ∈ part, (Entries.keys updates).Nodup) (suits : f.Suits extra)
    {field : Field} (inside : field ∈ f.fields) {v : Json}
    (last : Entries.get? extra field.name = some v)
    (before : Entries.get? current field.name = some v) :
    Entries.get? (f.mergedPart current part extra) field.name = some v := by
  cases part with
  | none => exact before
  | some updates => exact get?_settled_folded_extra wellFormed (distinct updates rfl) suits inside last

theorem get?_mergedPart_undeclared {part : Option Section} (opened : f.isOpen = true)
    (distinct : ∀ updates ∈ part, (Entries.keys updates).Nodup) (suits : f.Suits extra)
    {key : String} (undeclared : f.declares key = false) (apart : Entries.get? extra key = none) :
    Entries.get? (f.mergedPart current part extra) key =
      (Entries.get? (part.getD []) key).or (Entries.get? current key) := by
  cases part with
  | none => simp [mergedPart]
  | some updates =>
    rw [mergedPart, get?_settled_folded_undeclared opened (distinct updates rfl) suits key undeclared,
      apart, Option.none_or]
    rfl

end Form

end PromptStudio
