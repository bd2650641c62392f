import PromptStudio.Proofs.Entries
import PromptStudio.Proofs.Form.Reading

set_option autoImplicit false

namespace PromptStudio

namespace Field

def settled (field : Field) (e : Section) : Json :=
  match Entries.get? e field.name with
  | some v => (field.kind.read v).toOption.getD field.default
  | none => field.default

def readIn (field : Field) (e : Section) : Option Json :=
  (Entries.get? e field.name).bind fun v => (field.kind.read v).toOption

def problems (field : Field) (e : Section) : List Problem :=
  match Entries.get? e field.name with
  | some v => ((field.kind.read v).under field.name).problems
  | none => []

theorem mem_problem_heads_iff (field : Field) (e : Section) (key : String) :
    key ∈ (field.problems e).filterMap (·.path.head?) ↔
      field.name = key ∧ ∃ v, Entries.get? e key = some v ∧ field.kind.accepts v = false := by
  cases found : Entries.get? e field.name with
  | none =>
    have absent : field.name = key → Entries.get? e key = none := by rintro rfl; exact found
    simp only [problems, found, List.filterMap_nil, List.not_mem_nil, false_iff]
    rintro ⟨same, v, given, -⟩
    simp [absent same] at given
  | some v =>
    have named : key ∈ (field.problems e).filterMap (·.path.head?) ↔
        field.name = key ∧ ∃ p, p ∈ (field.kind.read v).problems := by
      simp [problems, found, Checked.problems_under, and_comm]
    have refused : (∃ p, p ∈ (field.kind.read v).problems) ↔ field.kind.accepts v = false := by
      rw [← Bool.not_eq_true, field.kind.accepts_iff_no_problem, List.eq_nil_iff_forall_not_mem]
      simp
    rw [named, refused]
    constructor
    · rintro ⟨rfl, refused⟩
      exact ⟨rfl, v, found, refused⟩
    · rintro ⟨rfl, w, given, refused⟩
      obtain rfl : v = w := by simpa [found] using given
      exact ⟨rfl, refused⟩

end Field

namespace Form

def Accepts (f : Form) (e : Section) : Prop :=
  ∀ field ∈ f.fields, ∀ v, Entries.get? e field.name = some v → field.kind.accepts v = true

structure WellFormed (f : Form) : Prop where
  distinct : (f.fields.map (·.name)).Nodup
  defaults : ∀ field ∈ f.fields, field.kind.read field.default = .ok field.default

def settled (f : Form) (e : Section) : Section :=
  f.fields.map (fun field => (field.name, field.settled e)) ++ f.others e

/-- A filled form is filled with itself. -/
def Holds (f : Form) (s : Section) : Prop := f.fill s = .ok s

theorem givenFields_answered (e : Section) (fields : List Field) :
    (givenFields e fields).Answered := by
  induction fields with
  | nil => trivial
  | cons field rest ih =>
    simp only [givenFields]
    split
    · exact ih
    · exact Checked.answered_seq (by simp [field.kind.read_answered]) ih

theorem fill_answered (f : Form) (e : Section) : (f.fill e).Answered := by
  simp [fill, given, givenFields_answered]

theorem problems_givenFields (e : Section) (fields : List Field) :
    (givenFields e fields).problems = fields.flatMap fun field => field.problems e := by
  induction fields with
  | nil => rfl
  | cons field rest ih =>
    cases found : Entries.get? e field.name with
    | none => simp [givenFields, found, Field.problems, ih]
    | some v =>
      have own : field.problems e = ((field.kind.read v).under field.name).problems := by
        simp [Field.problems, found]
      simp only [givenFields, found, List.flatMap_cons]
      rw [Checked.problems_seq (by simp [field.kind.read_answered]) (givenFields_answered e rest)]
      simp [ih, own]

theorem problems_fill (f : Form) (e : Section) :
    (f.fill e).problems = f.fields.flatMap fun field => field.problems e := by
  simp [fill, given, problems_givenFields]

theorem mem_refused_iff (f : Form) (e : Section) (key : String) :
    key ∈ f.refused e ↔ ∃ field ∈ f.fields,
      field.name = key ∧ ∃ v, Entries.get? e key = some v ∧ field.kind.accepts v = false := by
  have heads : f.refused e = (f.fill e).problems.filterMap (·.path.head?) := by
    cases found : f.fill e <;> simp [refused, found, Checked.problems]
  rw [heads, problems_fill, List.filterMap_flatMap]
  simp only [List.mem_flatMap, Field.mem_problem_heads_iff]

theorem accepts_iff_no_problem (f : Form) (e : Section) :
    f.Accepts e ↔ (f.fill e).problems = [] := by
  simp only [problems_fill, List.flatMap_eq_nil_iff, Accepts, Field.problems]
  refine forall₂_congr fun field inside => ?_
  cases Entries.get? e field.name <;>
    simp [Checked.problems_under, field.kind.accepts_iff_no_problem]

theorem get?_others (f : Form) (e : Section) (key : String) :
    Entries.get? (f.others e) key =
      if f.isOpen && !f.declares key then Entries.get? e key else none := by
  by_cases opened : f.isOpen = true
  next => simpa [others, opened] using Entries.get?_filter e (fun key => !f.declares key) key
  next => simp [others, opened]

theorem declares_of_mem {f : Form} {field : Field} (inside : field ∈ f.fields) :
    f.declares field.name = true :=
  List.any_eq_true.mpr ⟨field, inside, by simp⟩

theorem get?_map_fields (fields : List Field) (f : Field → Json)
    (distinct : (fields.map (·.name)).Nodup) {field : Field} (inside : field ∈ fields) :
    Entries.get? (fields.map fun field => (field.name, f field)) field.name = some (f field) := by
  induction fields with
  | nil => simp at inside
  | cons first rest ih =>
    simp only [List.map_cons, List.nodup_cons] at distinct
    rcases List.mem_cons.mp inside with rfl | later
    · simp [Entries.get?_cons]
    · have other : field.name ≠ first.name := by
        intro same
        exact distinct.1 (List.mem_map.mpr ⟨field, later, same⟩)
      simpa [Entries.get?_cons, other] using ih distinct.2 later

theorem get?_map_fields_undeclared (f : Form) (g : Field → Json) (key : String)
    (undeclared : f.declares key = false) :
    Entries.get? (f.fields.map fun field => (field.name, g field)) key = none := by
  rw [Entries.get?_eq_none_iff]
  simp only [Entries.keys, List.map_map, List.mem_map, not_exists, not_and]
  rintro field inside rfl
  simp [declares_of_mem inside] at undeclared

theorem get?_settled {f : Form} (wellFormed : f.WellFormed) (e : Section) {field : Field}
    (inside : field ∈ f.fields) :
    Entries.get? (f.settled e) field.name = some (field.settled e) := by
  simp [settled, Entries.get?_append,
    get?_map_fields f.fields (·.settled e) wellFormed.distinct inside]

theorem get?_settled_undeclared (f : Form) (e : Section) (key : String)
    (undeclared : f.declares key = false) :
    Entries.get? (f.settled e) key = if f.isOpen then Entries.get? e key else none := by
  simp [settled, Entries.get?_append, get?_others, undeclared,
    get?_map_fields_undeclared f (·.settled e) key undeclared]

theorem get?_complete {f : Form} (wellFormed : f.WellFormed) (e : Section) {field : Field}
    (inside : field ∈ f.fields) :
    Entries.get? (f.complete e) field.name =
      some ((Entries.get? e field.name).getD field.default) := by
  simp [complete, Entries.get?_append,
    get?_map_fields f.fields (fun field => (Entries.get? e field.name).getD field.default)
      wellFormed.distinct inside]

def readFields (e : Section) (fields : List Field) : Section :=
  fields.filterMap fun field => (field.readIn e).map (field.name, ·)

theorem readFields_cons (e : Section) (field : Field) (rest : List Field) :
    readFields e (field :: rest) =
      ((field.readIn e).map (field.name, ·)).toList ++ readFields e rest := by
  cases read : field.readIn e <;> simp [readFields, read]

theorem givenFields_of_accepted (e : Section) (fields : List Field)
    (accepted : ∀ field ∈ fields, ∀ v, Entries.get? e field.name = some v →
      field.kind.accepts v = true) :
    givenFields e fields = .ok (readFields e fields) := by
  induction fields with
  | nil => rfl
  | cons field rest ih =>
    have later := ih fun other inside => accepted other (List.mem_cons_of_mem _ inside)
    cases found : Entries.get? e field.name with
    | none => simp [givenFields, readFields_cons, Field.readIn, found, later]
    | some v =>
      obtain ⟨w, read⟩ := Kind.read_ok_of_accepts (accepted field (by simp) v found)
      simp [givenFields, readFields_cons, Field.readIn, found, read, later, Checked.map,
        Checked.seq]

theorem keys_readFields (e : Section) (fields : List Field) (key : String)
    (inside : key ∈ Entries.keys (readFields e fields)) : ∃ field ∈ fields, field.name = key := by
  simp only [Entries.keys, readFields, List.mem_map, List.mem_filterMap, Option.map_eq_some_iff]
    at inside
  obtain ⟨entry, ⟨field, member, v, read, rfl⟩, rfl⟩ := inside
  exact ⟨field, member, rfl⟩

theorem keys_readFields_sublist (e : Section) (fields : List Field) :
    (Entries.keys (readFields e fields)).Sublist (fields.map (·.name)) := by
  induction fields with
  | nil => exact .slnil
  | cons field rest ih =>
    rw [readFields_cons]
    cases field.readIn e with
    | none => exact ih.cons field.name
    | some v => exact ih.cons_cons field.name

theorem get?_readFields (e : Section) {fields : List Field}
    (distinct : (fields.map (·.name)).Nodup) {field : Field} (inside : field ∈ fields) :
    Entries.get? (readFields e fields) field.name = field.readIn e := by
  induction fields with
  | nil => simp at inside
  | cons first rest ih =>
    simp only [List.map_cons, List.nodup_cons] at distinct
    have elsewhere : Entries.get? (readFields e rest) first.name = none := by
      rw [Entries.get?_eq_none_iff]
      intro member
      obtain ⟨other, later, same⟩ := keys_readFields e rest first.name member
      exact distinct.1 (List.mem_map.mpr ⟨other, later, same⟩)
    rw [readFields_cons, Entries.get?_append]
    rcases List.mem_cons.mp inside with rfl | later
    · cases read : field.readIn e <;> simp [Entries.get?_cons, elsewhere]
    · have other : field.name ≠ first.name := by
        intro same
        exact distinct.1 (List.mem_map.mpr ⟨field, later, same⟩)
      cases read : first.readIn e <;> simp [Entries.get?_cons, other, ih distinct.2 later]

theorem others_append_others (f : Form) (e read : Section)
    (declared : ∀ key ∈ Entries.keys read, f.declares key = true) :
    f.others (read ++ f.others e) = f.others e := by
  by_cases opened : f.isOpen = true
  next =>
    have dropped : read.filter (fun entry => !f.declares entry.1) = [] := by
      rw [List.filter_eq_nil_iff]
      intro entry inside
      simp [declared entry.1 (List.mem_map_of_mem inside)]
    simp [others, opened, dropped]
  next => simp [others, opened]

theorem others_settled (f : Form) (e : Section) : f.others (f.settled e) = f.others e := by
  apply others_append_others f e
  intro key inside
  simp only [Entries.keys, List.map_map, List.mem_map] at inside
  obtain ⟨field, member, rfl⟩ := inside
  exact declares_of_mem member

theorem settled_congr {f : Form} {e other : Section}
    (declared : ∀ field ∈ f.fields, field.settled e = field.settled other)
    (free : f.others e = f.others other) : f.settled e = f.settled other := by
  rw [settled, settled, free]
  congr 1
  apply List.map_congr_left
  intro field inside
  rw [declared field inside]

theorem fill_of_accepts {f : Form} (wellFormed : f.WellFormed) {e : Section}
    (accepted : f.Accepts e) : f.fill e = .ok (f.settled e) := by
  have declared : ∀ key ∈ Entries.keys (readFields e f.fields), f.declares key = true := by
    intro key inside
    obtain ⟨field, member, rfl⟩ := keys_readFields e f.fields key inside
    exact declares_of_mem member
  have value : ∀ field ∈ f.fields,
      (Entries.get? (readFields e f.fields ++ f.others e) field.name).getD field.default =
        field.settled e := by
    intro field inside
    rw [Entries.get?_append, get?_readFields e wellFormed.distinct inside, get?_others]
    cases found : Entries.get? e field.name with
    | none => simp [Field.settled, Field.readIn, found, declares_of_mem inside]
    | some v => simp [Field.settled, Field.readIn, found, declares_of_mem inside]
  have filled : f.complete (readFields e f.fields ++ f.others e) = f.settled e := by
    simp only [complete, settled, others_append_others f e _ declared]
    congr 1
    exact List.map_congr_left fun field inside => by rw [value field inside]
  simp [fill, given, givenFields_of_accepted e f.fields accepted, Checked.map, filled]

theorem accepts_of_fill {f : Form} {e s : Section} (ok : f.fill e = .ok s) : f.Accepts e := by
  rw [accepts_iff_no_problem, ok, Checked.problems_ok]

theorem given_names {f : Form} (wellFormed : f.WellFormed) {e given : Section}
    (distinct : (Entries.keys e).Nodup) (ok : f.given e = .ok given) :
    (Entries.keys given).Nodup := by
  have filled : f.fill e = .ok (f.complete given) := by rw [fill, ok]; rfl
  obtain ⟨read, found, rfl⟩ := Checked.map_eq_ok_iff.mp ok
  rw [givenFields_of_accepted e f.fields (accepts_of_fill filled)] at found
  injection found with same
  subst same
  have own : (Entries.keys (readFields e f.fields)).Nodup :=
    wellFormed.distinct.sublist (keys_readFields_sublist e f.fields)
  have free : (Entries.keys (f.others e)).Nodup := by
    refine distinct.sublist ?_
    unfold others
    split
    next => exact List.filter_sublist.map _
    next => exact List.nil_sublist _
  have apart (key : String) (inside : key ∈ Entries.keys (readFields e f.fields)) :
      key ∉ Entries.keys (f.others e) := by
    obtain ⟨field, member, rfl⟩ := keys_readFields e f.fields key inside
    rw [← Entries.get?_eq_none_iff, get?_others, declares_of_mem member]
    simp
  rw [Entries.keys, List.map_append, List.nodup_append]
  refine ⟨own, free, ?_⟩
  rintro key inside _ other rfl
  exact apart key inside other

theorem holds_iff {f : Form} (wellFormed : f.WellFormed) (s : Section) :
    f.Holds s ↔ f.Accepts s ∧ f.settled s = s := by
  constructor
  · intro held
    have accepted := accepts_of_fill held
    refine ⟨accepted, ?_⟩
    have filled := fill_of_accepts wellFormed accepted
    rw [held] at filled
    injection filled with same
    exact same.symm
  · rintro ⟨accepted, same⟩
    rw [Holds, fill_of_accepts wellFormed accepted, same]

theorem read_field_settled {f : Form} (wellFormed : f.WellFormed) {e : Section}
    (accepted : f.Accepts e) {field : Field} (inside : field ∈ f.fields) :
    field.kind.read (field.settled e) = .ok (field.settled e) := by
  cases found : Entries.get? e field.name with
  | none => simpa [Field.settled, found] using wellFormed.defaults field inside
  | some v =>
    obtain ⟨w, read⟩ := Kind.read_ok_of_accepts (accepted field inside v found)
    simpa [Field.settled, found, read] using Kind.read_idem read

theorem holds_of_fill {f : Form} (wellFormed : f.WellFormed) {e s : Section}
    (ok : f.fill e = .ok s) : f.Holds s := by
  have accepted := accepts_of_fill ok
  rw [fill_of_accepts wellFormed accepted] at ok
  obtain rfl : f.settled e = s := by injection ok
  rw [holds_iff wellFormed]
  have value : ∀ field ∈ f.fields, field.settled (f.settled e) = field.settled e := by
    intro field inside
    have read := read_field_settled wellFormed accepted inside
    rw [Field.settled, get?_settled wellFormed e inside]
    simp [read]
  constructor
  · intro field inside v found
    rw [get?_settled wellFormed e inside] at found
    obtain rfl : field.settled e = v := by simpa using found
    simp [Kind.accepts, read_field_settled wellFormed accepted inside]
  · exact settled_congr value (others_settled f e)

theorem settled_holds {f : Form} (wellFormed : f.WellFormed) {e : Section}
    (accepted : f.Accepts e) : f.Holds (f.settled e) :=
  holds_of_fill wellFormed (fill_of_accepts wellFormed accepted)

theorem complete_holds {f : Form} (wellFormed : f.WellFormed) {e : Section}
    (shaped : ∀ field ∈ f.fields, ∀ v, Entries.get? e field.name = some v →
      field.kind.read v = .ok v) : f.Holds (f.complete e) := by
  have same : f.complete e = f.settled e := by
    simp only [complete, settled]
    congr 1
    apply List.map_congr_left
    intro field inside
    cases found : Entries.get? e field.name with
    | none => simp [Field.settled, found]
    | some v => simp [Field.settled, found, shaped field inside v found]
  rw [same]
  apply settled_holds wellFormed
  intro field inside v found
  simp [Kind.accepts, shaped field inside v found]

theorem empty_holds {f : Form} (wellFormed : f.WellFormed) : f.Holds f.empty :=
  complete_holds wellFormed (by simp)

theorem Holds.field {f : Form} (wellFormed : f.WellFormed) {s : Section} (held : f.Holds s)
    {field : Field} (inside : field ∈ f.fields) :
    ∃ v, Entries.get? s field.name = some v ∧ field.kind.read v = .ok v := by
  obtain ⟨accepted, same⟩ := (holds_iff wellFormed s).mp held
  have found := get?_settled wellFormed s inside
  rw [same] at found
  obtain ⟨w, read⟩ := Kind.read_ok_of_accepts (accepted field inside _ found)
  have own : field.settled s = w := by
    rw [Field.settled, found]
    simp [read]
  exact ⟨field.settled s, found, by rw [read, own]⟩

end Form

end PromptStudio
