import PromptStudio.Proofs.Json.Place
import PromptStudio.Proofs.Template.Paths
import PromptStudio.Template.Condition

set_option autoImplicit false

namespace PromptStudio

variable {a b v w : Json} {place : Option Datum}

namespace Condition

theorem matchesConstant_iff {constant : Json} :
    matchesConstant place constant = true ↔
      ∃ v, place.bind Datum.json? = some v ∧ v.Matches constant := by
  cases place with
  | none => simp [matchesConstant]
  | some d =>
    cases plain : d.json? <;> simp [matchesConstant, plain, strictEquals_some_iff]

theorem matchesConstant_congr (distinct : v.Distinct)
    (same : strictEquals (some v) (some w) = true) (place : Option Datum) :
    matchesConstant place v = matchesConstant place w := by
  have back : strictEquals (some w) (some v) = true :=
    strictEquals_symm (by rintro _ ⟨⟩; exact distinct) same
  unfold matchesConstant
  split
  next => rfl
  next =>
    split
    next =>
      rw [Bool.eq_iff_iff]
      exact ⟨fun held => strictEquals_trans held same, fun held => strictEquals_trans held back⟩
    next => rfl

theorem any_matchesConstant_iff {options : List Json} (plain : place.bind Datum.json? = some a) :
    options.any (matchesConstant place) = true ↔ ∃ o ∈ options, a.Matches o := by
  simp [matchesConstant_iff, plain]

def place? (c : Condition) (context : Option Datum) : Option Json :=
  (c.field.bind fun name => resolve context name.toList).bind Datum.json?

theorem holds_of_place? {c : Condition} {context : Option Datum}
    (found : c.place? context = some a) :
    ∃ place, c.holds context = holdsAt c.operator c.value place ∧
      place.bind Datum.json? = some a := by
  obtain ⟨d, leads, plain⟩ := Option.bind_eq_some_iff.mp found
  obtain ⟨name, named, leads⟩ := Option.bind_eq_some_iff.mp leads
  have filled : name ≠ "" := by
    rintro rfl
    cases leads
  refine ⟨some d, ?_, plain⟩
  simp [holds, named, filled, leads]

/-- Each of the operators that compare gives what the relation to the constant, or to the options of
a list, says. -/
structure DecidedBy (same : Json → Prop) (c : Condition) (context : Option Datum) : Prop where
  equals : c.operator = .equals → (c.holds context = true ↔ same c.value)
  notEquals : c.operator = .notEquals → (c.holds context = true ↔ ¬same c.value)
  isIn : c.operator = .isIn →
    (c.holds context = true ↔ ∃ options, c.value = .arr options ∧ ∃ o ∈ options, same o)
  notIn : c.operator = .notIn →
    (c.holds context = true ↔ ∃ options, c.value = .arr options ∧ ∀ o ∈ options, ¬same o)

theorem decidedBy_matches {c : Condition} {context : Option Datum}
    (found : c.place? context = some a) : c.DecidedBy a.Matches context := by
  obtain ⟨place, verdict, plain⟩ := holds_of_place? found
  have equal : matchesConstant place c.value = true ↔ a.Matches c.value := by
    simp [matchesConstant_iff, plain]
  constructor <;> intro compares <;> rw [verdict, compares]
  case equals => exact equal
  case notEquals => simp only [holdsAt, Bool.not_eq_true', ← Bool.not_eq_true, equal]
  case isIn =>
    cases listed : c.value with
    | arr options => simpa [holdsAt] using any_matchesConstant_iff plain
    | _ => simp [holdsAt]
  case notIn =>
    cases listed : c.value with
    | arr options =>
      have chosen : options.any (matchesConstant place) = true ↔ ∃ o ∈ options, a.Matches o :=
        any_matchesConstant_iff plain
      simpa [holdsAt] using chosen.not
    | _ => simp [holdsAt]

theorem DecidedBy.congr {same other : Json → Prop} {c : Condition} {context : Option Datum}
    (decided : c.DecidedBy same context) (whole : same c.value ↔ other c.value)
    (inside : ∀ o ∈ c.value.parts, same o ↔ other o) : c.DecidedBy other context := by
  constructor <;> intro compares
  case equals => rw [decided.equals compares, whole]
  case notEquals => rw [decided.notEquals compares, whole]
  case isIn =>
    rw [decided.isIn compares]
    refine exists_congr fun options => and_congr_right fun listed => ?_
    rw [listed] at inside
    exact exists_congr fun o => and_congr_right fun member => inside o member
  case notIn =>
    rw [decided.notIn compares]
    refine exists_congr fun options => and_congr_right fun listed => ?_
    rw [listed] at inside
    exact forall₂_congr fun o member => not_congr (inside o member)

end Condition

theorem strictEquals_places (own : a.Distinct) (other : b.Distinct) :
    (strictEquals (some a) (some b) = true ↔ a.AgreesWith b) ∧
      (a.AgreesWith b → a.SameShape b ∧
        ∀ path x y, a.reach? path = some x → b.reach? path = some y → x.Confused y →
          path ≠ [] ∧ x.amount? = y.amount?) ∧
      ∀ (c : Condition) (context : Option Datum), c.place? context = some a → c.value = b →
        c.DecidedBy a.AgreesWith context := by
  refine ⟨strictEquals_some_iff.trans (Json.matches_iff_agreesWith own other), ?_, ?_⟩
  next =>
    intro agrees
    exact ⟨Json.sameShape_of_agree agrees.1, fun path x y => agrees.confused⟩
  next =>
    rintro c context found rfl
    refine (Condition.decidedBy_matches found).congr (Json.matches_iff_agreesWith own other) ?_
    exact fun o inside => Json.matches_iff_agreesWith own (other.part inside)

def switches : Json :=
  .obj [("id", .str "memo"), ("flags", .arr [.bool true, .obj [("n", .int 0)]])]

def counters : Json :=
  .obj [("flags", .arr [.float (.finite 1), .obj [("n", .bool false)]]), ("id", .str "memo")]

theorem strictEquals_switches :
    switches.Distinct ∧ counters.Distinct ∧
      strictEquals (some switches) (some counters) = true ∧ switches.AgreesWith counters ∧
      switches.SameShape counters := by
  have own : switches.Distinct := by simp [switches, Json.Distinct, Json.FieldsDistinct,
    Json.ItemsDistinct, Entries.keys]
  have other : counters.Distinct := by simp [counters, Json.Distinct, Json.FieldsDistinct,
    Json.ItemsDistinct, Entries.keys]
  have same : strictEquals (some switches) (some counters) = true := by decide +kernel
  obtain ⟨exact, shape, -⟩ := strictEquals_places own other
  exact ⟨own, other, same, exact.mp same, (shape (exact.mp same)).1⟩

theorem strictEquals_truthInList :
    strictEquals (some (.arr [.bool true])) (some (.arr [.int 1])) = true ∧
      (Json.arr [.bool true]).reach? [.item 0] = some (.bool true) ∧
      (Json.arr [.int 1]).reach? [.item 0] = some (.int 1) ∧
      (Json.bool true).Confused (.int 1) ∧
      (Condition.mk (some "flags") .equals (.arr [.int 1])).holds
        (some (.plain (.obj [("flags", .arr [.bool true])]))) = true :=
  ⟨rfl, rfl, rfl, .inl ⟨rfl, rfl⟩, by decide +kernel⟩

/-- Each option of either list is strictly equal to one of the other. -/
def Json.SameOptions (v w : Json) : Prop :=
  ∀ options others, v = .arr options → w = .arr others →
    (∀ o ∈ options, ∃ p ∈ others, strictEquals (some o) (some p) = true) ∧
      ∀ p ∈ others, ∃ o ∈ options, strictEquals (some p) (some o) = true

namespace Condition

def Listing (c : Condition) : Prop := c.operator = .isIn ∨ c.operator = .notIn

theorem any_matchesConstant_mono {options others : List Json}
    (each : ∀ o ∈ options, ∃ p ∈ others, strictEquals (some o) (some p) = true)
    (chosen : options.any (matchesConstant place) = true) :
    others.any (matchesConstant place) = true := by
  obtain ⟨o, inside, held⟩ := List.any_eq_true.mp chosen
  obtain ⟨p, other, same⟩ := each o inside
  obtain ⟨v, found, equal⟩ := matchesConstant_iff.mp held
  have first : strictEquals (some v) (some o) = true := strictEquals_some_iff.mpr equal
  have last := strictEquals_some_iff.mp (strictEquals_trans first same)
  exact List.any_eq_true.mpr ⟨p, other, matchesConstant_iff.mpr ⟨v, found, last⟩⟩

-- An option that equals itself is found where it stands, so the other list has to hold an equal.
theorem exists_strictEquals_of_any {options others : List Json}
    (alike : ∀ place, options.any (matchesConstant place) = true →
      others.any (matchesConstant place) = true)
    (self : (Json.arr options).equals (.arr options) = true) :
    ∀ o ∈ options, ∃ p ∈ others, strictEquals (some o) (some p) = true := by
  intro o inside
  have here : (some (.plain o) : Option Datum).bind Datum.json? = some o := rfl
  have chosen : options.any (matchesConstant (some (.plain o))) = true :=
    (any_matchesConstant_iff here).mpr ⟨o, inside, Json.items_match_self self inside⟩
  obtain ⟨p, other, equal⟩ := (any_matchesConstant_iff here).mp (alike _ chosen)
  exact ⟨p, other, strictEquals_some_iff.mpr equal⟩

theorem any_matchesConstant_eq_iff {options others : List Json}
    (distinct : (Json.arr options).Distinct)
    (same : (Json.arr options).equals (.arr others) = true) :
    (∀ place, others.any (matchesConstant place) = options.any (matchesConstant place)) ↔
      (Json.arr options).SameOptions (.arr others) := by
  have back := Json.equals_symm distinct same
  constructor
  next =>
    rintro alike _ _ ⟨⟩ ⟨⟩
    constructor
    next =>
      refine exists_strictEquals_of_any (fun place chosen => ?_) (Json.equals_trans same back)
      rwa [alike place]
    next =>
      refine exists_strictEquals_of_any (fun place chosen => ?_) (Json.equals_trans back same)
      rwa [← alike place]
  next =>
    intro both place
    obtain ⟨own, other⟩ := both _ _ rfl rfl
    rw [Bool.eq_iff_iff]
    exact ⟨any_matchesConstant_mono other, any_matchesConstant_mono own⟩

theorem holdsAt_eq_iff_sameOptions {operator : Operator}
    (listed : operator = .isIn ∨ operator = .notIn) (distinct : v.Distinct)
    (same : v.equals w = true) :
    (∀ place, holdsAt operator w place = holdsAt operator v place) ↔ v.SameOptions w := by
  cases Json.equals_iff_layer.mp same with
  | @items options others =>
    rw [← any_matchesConstant_eq_iff distinct same]
    rcases listed with rfl | rfl <;> simp [holdsAt]
  | fields =>
    refine iff_of_true (fun place => ?_) nofun
    rcases listed with rfl | rfl <;> rfl
  | scalar first second =>
    have unlisted {u : Json} {d : Json.Denotation} (scalar : u.denotes? = some d)
        (place : Option Datum) : holdsAt operator u place = false := by
      cases u with
      | arr => cases scalar
      | _ => rcases listed with rfl | rfl <;> rfl
    refine iff_of_true (fun place => ?_) ?_
    · rw [unlisted first, unlisted second]
    · rintro _ _ rfl
      cases first

theorem holdsAt_congr {operator : Operator} (unlisted : ¬(operator = .isIn ∨ operator = .notIn))
    (distinct : v.Distinct) (same : strictEquals (some v) (some w) = true) (place : Option Datum) :
    holdsAt operator w place = holdsAt operator v place := by
  cases operator with
  | equals | notEquals => simp only [holdsAt, matchesConstant_congr distinct same place]
  | isIn => exact absurd (.inl rfl) unlisted
  | notIn => exact absurd (.inr rfl) unlisted
  | present | truthy | falsey => rfl

theorem holds_eq_iff_holdsAt (c : Condition) (w : Json) :
    (∀ context, { c with value := w }.holds context = c.holds context) ↔
      (c.field.getD "" ≠ "" →
        ∀ place, holdsAt c.operator w place = holdsAt c.operator c.value place) := by
  obtain ⟨field, operator, v⟩ := c
  cases field with
  | none => simp [holds]
  | some name =>
    by_cases empty : name = ""
    next => simp [holds, empty]
    next =>
      have filled : name.toList ≠ [] := fun same => empty (String.toList_eq_nil_iff.mp same)
      simp only [holds, Option.getD_some, beq_eq_false_iff_ne.mpr empty, Bool.false_or]
      constructor
      next =>
        intro alike _ place
        obtain ⟨context, leads⟩ := exists_resolve_eq filled place
        have here := alike context
        rwa [leads] at here
      next => exact fun alike context => alike empty _

theorem holds_eq_iff_sameOptions {c : Condition} (distinct : c.value.Distinct)
    (same : strictEquals (some c.value) (some w) = true) :
    (∀ context, { c with value := w }.holds context = c.holds context) ↔
      (c.field.getD "" ≠ "" → c.Listing → c.value.SameOptions w) := by
  rw [holds_eq_iff_holdsAt]
  refine imp_congr_right fun _ => ?_
  by_cases listed : c.Listing
  next =>
    have equal := (strictEquals_some_iff.mp same).1
    rw [holdsAt_eq_iff_sameOptions listed distinct equal]
    exact ⟨fun alike _ => alike, fun alike => alike listed⟩
  next =>
    exact iff_of_true (holdsAt_congr listed distinct same) fun listing => absurd listing listed

theorem holds_eq_of_option {c : Condition} {before after : List Json} (listing : c.Listing)
    (value : c.value = .arr (before ++ v :: after)) (distinct : v.Distinct)
    (same : strictEquals (some v) (some w) = true) (context : Option Datum) :
    { c with value := .arr (before ++ w :: after) }.holds context = c.holds context := by
  refine (holds_eq_iff_holdsAt c _).mpr (fun _ place => ?_) context
  have equal := matchesConstant_congr distinct same place
  rw [value]
  rcases listing with listed | listed <;> simp [listed, holdsAt, equal]

end Condition

theorem strictEquals_equivalence (c : Condition) (w : Json) :
    Equivalence (fun p q : {p : Option Json // Comparable p} => strictEquals p q = true) ∧
      (∀ x y : Json, x.isNumber = true → y.isNumber = true →
        (strictEquals (some x) (some y) = true ↔
          ∃ amount, x.amount? = some amount ∧ y.amount? = some amount)) ∧
      (∀ a b : Json, a.Distinct → b.Distinct →
        (strictEquals (some a) (some b) = true ↔ a.AgreesWith b)) ∧
      (∀ fields others : Entries Json, Comparable (some (.obj fields)) → fields.Perm others →
        strictEquals (some (.obj fields)) (some (.obj others)) = true) ∧
      (c.value.Distinct → strictEquals (some c.value) (some w) = true →
        ((∀ context, { c with value := w }.holds context = c.holds context) ↔
          (c.field.getD "" ≠ "" → c.Listing → c.value.SameOptions w))) ∧
      ∀ before v after, c.Listing → c.value = .arr (before ++ v :: after) → v.Distinct →
        strictEquals (some v) (some w) = true → ∀ context,
          { c with value := .arr (before ++ w :: after) }.holds context = c.holds context := by
  refine ⟨⟨?refl, ?symm, ?trans⟩, ?exact, ?nested, ?reordered, ?constant, ?option⟩
  case refl => exact fun p => strictEquals_refl p.2
  case symm =>
    intro p q same
    exact strictEquals_symm (fun v inside => (p.2 v inside).1) same
  case trans => exact fun first second => strictEquals_trans first second
  case exact =>
    intro x y first second
    rw [strictEquals_some_iff, Json.matches_iff_amount first second]
  case nested =>
    intro a b own other
    rw [strictEquals_some_iff, Json.matches_iff_agreesWith own other]
  case reordered =>
    intro fields others comparable reordered
    obtain ⟨distinct, defined⟩ := comparable _ rfl
    rw [strictEquals_some_iff]
    exact ⟨Json.equals_of_perm distinct defined reordered, rfl⟩
  case constant => exact fun distinct same => Condition.holds_eq_iff_sameOptions distinct same
  case option =>
    intro before v after listing value distinct same
    exact Condition.holds_eq_of_option listing value distinct same

def roundNumber : Json := .float (.finite 9007199254740992)

theorem strictEquals_neighbours :
    strictEquals (some (.int 9007199254740992)) (some roundNumber) = true ∧
      strictEquals (some (.int 9007199254740993)) (some roundNumber) ≠ true ∧
      ∀ context,
        (Condition.mk (some "n") .isIn (.arr [.str "few", .float (.finite 1)])).holds context =
          (Condition.mk (some "n") .isIn (.arr [.str "few", .int 1])).holds context ∧
        (Condition.mk (some "n") .isIn (.arr [.int 1, .bool true])).holds context =
          (Condition.mk (some "n") .isIn (.arr [.bool true, .int 1])).holds context := by
  obtain ⟨-, exact, -, -, -, option⟩ := strictEquals_equivalence
    ⟨some "n", .isIn, .arr [.str "few", .int 1]⟩ (.float (.finite 1))
  obtain ⟨-, -, -, -, constant, -⟩ := strictEquals_equivalence
    ⟨some "n", .isIn, .arr [.bool true, .int 1]⟩ (.arr [.int 1, .bool true])
  have alike : (Json.arr [.bool true, .int 1]).SameOptions (.arr [.int 1, .bool true]) := by
    rintro _ _ ⟨⟩ ⟨⟩
    decide +kernel
  have kept := (constant ⟨trivial, trivial, trivial⟩ rfl).mpr fun _ _ => alike
  refine ⟨(exact _ _ rfl rfl).mpr ⟨.finite 9007199254740992, rfl, rfl⟩, ?_, ?_⟩
  next =>
    intro same
    obtain ⟨amount, own, other⟩ := (exact _ _ rfl rfl).mp same
    rw [← own] at other
    exact absurd other (by decide +kernel)
  next =>
    intro context
    exact ⟨option [.str "few"] (.int 1) [] (.inl rfl) rfl trivial rfl context, kept context⟩

theorem strictEquals_truthOption :
    (Json.arr [.bool true]).Distinct ∧ (Json.arr [.int 1]).Distinct ∧
      strictEquals (some (.arr [.bool true])) (some (.arr [.int 1])) = true ∧
      ∃ context, (Condition.mk (some "flag") .isIn (.arr [.bool true])).holds context = true ∧
        (Condition.mk (some "flag") .isIn (.arr [.int 1])).holds context = false := by
  refine ⟨⟨trivial, trivial⟩, ⟨trivial, trivial⟩, rfl,
    some (.plain (.obj [("flag", .bool true)])), ?_, ?_⟩
  · decide +kernel
  · decide +kernel

end PromptStudio
