import PromptStudio.Form.Form

set_option autoImplicit false

namespace PromptStudio

namespace Checked

variable {α β : Type}

def problems : Checked α → List Problem
  | .bad ps => ps
  | _ => []

/-- A value, or at least one problem. -/
def Answered : Checked α → Prop
  | .ok _ => True
  | .bad ps => ps ≠ []
  | .stop _ => False

@[simp] theorem answered_ok (a : α) : (Checked.ok a).Answered := trivial

@[simp] theorem answered_wrong (message : String) : (wrong message : Checked α).Answered := by
  simp [wrong, Answered]

@[simp] theorem toOption_ok (a : α) : (Checked.ok a).toOption = some a := rfl

@[simp] theorem problems_ok (a : α) : (Checked.ok a).problems = [] := rfl

@[simp] theorem problems_bad (ps : List Problem) : (Checked.bad ps : Checked α).problems = ps := rfl

@[simp] theorem answered_map (f : α → β) (x : Checked α) : (x.map f).Answered ↔ x.Answered := by
  cases x <;> rfl

@[simp] theorem problems_map (f : α → β) (x : Checked α) : (x.map f).problems = x.problems := by
  cases x <;> rfl

@[simp] theorem answered_under (step : String) (x : Checked α) :
    (x.under step).Answered ↔ x.Answered := by
  cases x <;> simp [under, Answered]

theorem problems_under (step : String) (x : Checked α) :
    (x.under step).problems = x.problems.map fun p => { p with path := step :: p.path } := by
  cases x <;> rfl

theorem answered_seq {f : Checked (α → β)} {x : Unit → Checked α} (first : f.Answered)
    (second : (x ()).Answered) : (f.seq x).Answered := by
  cases f with
  | ok f => simpa [seq] using second
  | bad ps => cases h : x () <;> simp_all [seq, Answered]
  | stop failure => exact first.elim

theorem problems_seq {f : Checked (α → β)} {x : Unit → Checked α} (first : f.Answered)
    (second : (x ()).Answered) : (f.seq x).problems = f.problems ++ (x ()).problems := by
  cases f with
  | ok f => simp [seq]
  | bad ps => cases h : x () <;> simp_all [seq, Answered, problems]
  | stop failure => exact first.elim

theorem ok_of_no_problem {x : Checked α} (answered : x.Answered) (unhindered : x.problems = []) :
    ∃ a, x = .ok a := by
  cases x with
  | ok a => exact ⟨a, rfl⟩
  | bad ps => exact (answered unhindered).elim
  | stop failure => exact answered.elim

theorem map_eq_ok_iff {f : α → β} {x : Checked α} {b : β} :
    x.map f = .ok b ↔ ∃ a, x = .ok a ∧ f a = b := by
  cases x <;> simp [map]

theorem seq_eq_ok_iff {f : Checked (α → β)} {x : Unit → Checked α} {b : β} :
    f.seq x = .ok b ↔ ∃ g a, f = .ok g ∧ x () = .ok a ∧ g a = b := by
  cases f with
  | ok g => simp [seq, map_eq_ok_iff]
  | bad ps => cases h : x () <;> simp [seq, h]
  | stop failure => simp [seq]

theorem under_eq_ok_iff {step : String} {x : Checked α} {a : α} :
    x.under step = .ok a ↔ x = .ok a := by
  cases x <;> simp [under]

theorem toOutcome_eq_ok_iff {x : Checked α} {a : α} : x.toOutcome = .ok a ↔ x = .ok a := by
  cases x <;> simp [toOutcome]

theorem isSome_iff_no_problem {x : Checked α} (answered : x.Answered) :
    x.toOption.isSome = true ↔ x.problems = [] := by
  cases x with
  | ok a => simp [toOption]
  | bad ps =>
    have named : ps ≠ [] := answered
    simp [toOption, named]
  | stop failure => exact answered.elim

theorem answered_items {check : α → Checked β} (answered : ∀ a, (check a).Answered)
    (start : Nat) (as : List α) : (items check start as).Answered := by
  induction as generalizing start with
  | nil => trivial
  | cons a rest ih => exact answered_seq (by simp [answered]) (ih (start + 1))

theorem answered_entries {check : α → Checked β} (answered : ∀ a, (check a).Answered)
    (e : List (String × α)) : (entries check e).Answered := by
  induction e with
  | nil => trivial
  | cons entry rest ih => exact answered_seq (by simp [answered]) ih

end Checked

namespace Reader

theorem text_answered (v : Json) : (text v).Answered := by
  cases v <;> simp [text]

theorem integerOfNumber_answered (x : Binary64) : (integerOfNumber x).Answered := by
  unfold integerOfNumber
  repeat' split
  all_goals simp

theorem integer_answered (v : Json) : (integer v).Answered := by
  cases v with
  | float x => exact integerOfNumber_answered x
  | str s => simp only [integer]; split <;> simp
  | _ => simp [integer]

theorem booleanOfInt_answered (n : Int) : (booleanOfInt n).Answered := by
  unfold booleanOfInt
  repeat' split
  all_goals simp

theorem boolean_answered (v : Json) : (boolean v).Answered := by
  cases v with
  | str s => simp only [boolean]; split <;> simp
  | int n => simp only [boolean]; split <;> simp [booleanOfInt_answered]
  | float x => simp only [boolean]; split <;> simp [booleanOfInt_answered]
  | _ => simp [boolean]

theorem anything_answered (v : Json) : (anything v).Answered := trivial

theorem choice_answered {α : Type} (choices : List (String × α)) (v : Json) :
    (choice choices v).Answered := by
  cases v with
  | str s => simp only [choice]; split <;> simp
  | _ => simp [choice]

theorem choice_single {name found : String} {v : Json}
    (chosen : choice [(name, name)] v = .ok found) : v = .str name ∧ found = name := by
  cases v with
  | str s =>
    by_cases same : s = name
    next =>
      subst same
      simpa [choice, eq_comm] using chosen
    next =>
      have other : (s == name) = false := beq_eq_false_iff_ne.mpr same
      simp [choice, List.lookup_cons, other, Checked.wrong] at chosen
  | _ => simp [choice, Checked.wrong] at chosen

theorem optional_of_ne_null {α : Type} {read : Reader α} {v : Json} (filled : v ≠ .null) :
    optional read v = (read v).map some := by
  cases v with
  | null => exact absurd rfl filled
  | _ => rfl

theorem listOf_answered {α : Type} {read : Reader α} (answered : ∀ v, (read v).Answered)
    (v : Json) : (listOf read v).Answered := by
  cases v with
  | arr items => exact Checked.answered_items answered 0 items
  | _ => simp [listOf]

theorem mapOf_answered {α : Type} {read : Reader α} (answered : ∀ v, (read v).Answered)
    (v : Json) : (mapOf read v).Answered := by
  cases v with
  | obj fields => exact Checked.answered_entries answered fields
  | _ => simp [mapOf]

end Reader

namespace Kind

theorem read_answered (kind : Kind) (v : Json) : (kind.read v).Answered := by
  induction kind with
  | text => simpa [read] using Reader.text_answered v
  | integer => simpa [read] using Reader.integer_answered v
  | boolean => simpa [read] using Reader.boolean_answered v
  | anything => simp [read]
  | texts => simpa [read] using Reader.listOf_answered Reader.text_answered v
  | values => simpa [read] using Reader.listOf_answered Reader.anything_answered v
  | textMap => simpa [read] using Reader.mapOf_answered Reader.text_answered v
  | tag name => simpa [read] using Reader.choice_answered _ v
  | orNull kind ih => cases v <;> simp_all [read]

theorem accepts_iff_no_problem (kind : Kind) (v : Json) :
    kind.accepts v = true ↔ (kind.read v).problems = [] :=
  Checked.isSome_iff_no_problem (kind.read_answered v)

theorem read_ok_of_accepts {kind : Kind} {v : Json} (accepted : kind.accepts v = true) :
    ∃ w, kind.read v = .ok w :=
  Checked.ok_of_no_problem (kind.read_answered v) ((kind.accepts_iff_no_problem v).mp accepted)

theorem texts_read (texts : List String) :
    Kind.texts.read (Json.texts texts) = .ok (Json.texts texts) := by
  have items (start : Nat) : Checked.items Reader.text start (texts.map .str) = .ok texts := by
    induction texts generalizing start with
    | nil => rfl
    | cons s rest ih => simp [Checked.items, Reader.text, ih, Checked.map, Checked.seq]
  simp [read, Json.texts, Reader.listOf, items, Checked.map]

theorem texts_of_items {start : Nat} {values : List Json} {texts : List String}
    (ok : Checked.items Reader.text start values = .ok texts) : values = texts.map .str := by
  induction values generalizing start texts with
  | nil =>
    obtain rfl : [] = texts := by simpa [Checked.items] using ok
    rfl
  | cons v rest ih =>
    obtain ⟨g, later, first, read, rfl⟩ := Checked.seq_eq_ok_iff.mp ok
    obtain ⟨text, found, rfl⟩ := Checked.map_eq_ok_iff.mp first
    cases v with
    | str s =>
      obtain rfl : s = text := by simpa [Reader.text] using found
      simp [ih read]
    | _ => simp [Reader.text, Checked.wrong, Checked.under] at found

theorem texts_read_eq_ok {v w : Json} (ok : Kind.texts.read v = .ok w) :
    ∃ texts, v = Json.texts texts ∧ w = Json.texts texts := by
  obtain ⟨texts, read, rfl⟩ := Checked.map_eq_ok_iff.mp ok
  cases v with
  | arr values => exact ⟨texts, by rw [Json.texts, texts_of_items read], rfl⟩
  | _ => simp [Reader.listOf, Checked.wrong] at read

theorem values_read (values : List Json) : Kind.values.read (.arr values) = .ok (.arr values) := by
  have items (start : Nat) : Checked.items Reader.anything start values = .ok values := by
    induction values generalizing start with
    | nil => rfl
    | cons v rest ih =>
      have kept : Reader.anything v = .ok v := rfl
      simp [Checked.items, kept, ih, Checked.map, Checked.seq]
  simp [read, Reader.listOf, items, Checked.map]

theorem textMap_read (texts : Entries String) :
    Kind.textMap.read (Json.ofTextMap texts) = .ok (Json.ofTextMap texts) := by
  have entries : Checked.entries Reader.text
      (texts.map fun entry => (entry.1, .str entry.2)) = .ok texts := by
    induction texts with
    | nil => rfl
    | cons entry rest ih => simp [Checked.entries, Reader.text, ih, Checked.map, Checked.seq]
  simp [read, Json.ofTextMap, Reader.mapOf, entries, Checked.map]

theorem textMap_of_entries {fields : Entries Json} {texts : Entries String}
    (ok : Checked.entries Reader.text fields = .ok texts) :
    fields = texts.map fun entry => (entry.1, .str entry.2) := by
  induction fields generalizing texts with
  | nil =>
    obtain rfl : [] = texts := by simpa [Checked.entries] using ok
    rfl
  | cons entry rest ih =>
    obtain ⟨key, v⟩ := entry
    cases v with
    | str s =>
      obtain ⟨later, read, rfl⟩ := Checked.map_eq_ok_iff.mp ok
      simp [ih read]
    | _ =>
      have answered := Checked.answered_entries Reader.text_answered rest
      cases read : Checked.entries Reader.text rest <;>
        simp_all [Checked.entries, Reader.text, Checked.wrong, Checked.under, Checked.map,
          Checked.seq]

theorem textMap_of_texts {fields : Entries Json} (each : ∀ entry ∈ fields, ∃ s, entry.2 = .str s) :
    ∃ texts, Json.obj fields = Json.ofTextMap texts := by
  refine ⟨fields.map fun entry => (entry.1, entry.2.asText?.getD ""), ?_⟩
  simp only [Json.ofTextMap, List.map_map, Json.obj.injEq]
  refine (List.map_id fields).symm.trans (List.map_congr_left fun entry inside => ?_)
  obtain ⟨s, text⟩ := each entry inside
  obtain ⟨key, v⟩ := entry
  subst text
  rfl

theorem textMap_read_eq_ok {v w : Json} (ok : Kind.textMap.read v = .ok w) :
    ∃ texts, v = Json.ofTextMap texts := by
  obtain ⟨texts, read, -⟩ := Checked.map_eq_ok_iff.mp ok
  cases v with
  | obj fields => exact ⟨texts, by rw [Json.ofTextMap, textMap_of_entries read]⟩
  | _ => simp [Reader.mapOf, Checked.wrong] at read

theorem textMap_read_self {v w : Json} (ok : Kind.textMap.read v = .ok w) : w = v := by
  obtain ⟨texts, rfl⟩ := textMap_read_eq_ok ok
  rw [textMap_read] at ok
  injection ok with same
  exact same.symm

theorem read_idem {kind : Kind} {v w : Json} (ok : kind.read v = .ok w) : kind.read w = .ok w := by
  induction kind with
  | text | integer | boolean =>
    obtain ⟨a, -, rfl⟩ := Checked.map_eq_ok_iff.mp ok
    rfl
  | anything => rfl
  | texts =>
    obtain ⟨texts, -, rfl⟩ := Checked.map_eq_ok_iff.mp ok
    exact texts_read texts
  | values =>
    obtain ⟨items, -, rfl⟩ := Checked.map_eq_ok_iff.mp ok
    exact values_read items
  | textMap =>
    obtain ⟨texts, -, rfl⟩ := Checked.map_eq_ok_iff.mp ok
    exact textMap_read texts
  | tag name =>
    obtain ⟨found, chosen, rfl⟩ := Checked.map_eq_ok_iff.mp ok
    obtain ⟨rfl, rfl⟩ := Reader.choice_single chosen
    exact ok
  | orNull kind ih =>
    cases v with
    | null =>
      obtain rfl : Json.null = w := by simpa [read] using ok
      rfl
    | _ =>
      have inner : kind.read w = .ok w := ih (by simpa only [read] using ok)
      cases w <;> simp_all [read]

end Kind

end PromptStudio
