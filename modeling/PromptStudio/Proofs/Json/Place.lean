import PromptStudio.Proofs.Json.Equality

set_option autoImplicit false

namespace PromptStudio.Json

inductive Place where
  | item (position : Nat)
  | name (key : String)
  deriving DecidableEq

def child? : Json → Place → Option Json
  | .arr items, .item position => items[position]?
  | .obj fields, .name key => Entries.get? fields key
  | _, _ => none

def reach? (v : Json) : List Place → Option Json
  | [] => some v
  | place :: path => (v.child? place).bind fun part => reach? part path

variable {a b v w part : Json} {place : Place}

theorem mem_parts_of_child? (found : v.child? place = some part) : part ∈ v.parts := by
  cases v <;> cases place <;> try cases found
  case arr.item items position => exact List.mem_of_getElem? found
  case obj.name fields key => exact parts_of_mem_fields (Entries.mem_of_get? found)

theorem child?_of_denotes {d : Denotation} (scalar : v.denotes? = some d) :
    v.child? place = none := by
  cases v with
  | arr | obj => cases scalar
  | _ => rfl

/-- The same stands at one place, whatever lies below it. -/
inductive Agree : Json → Json → Prop where
  | scalars {a b : Json} {d : Denotation} (first : a.denotes? = some d)
      (second : b.denotes? = some d) : Agree a b
  | lists {xs ys : List Json} : Agree (.arr xs) (.arr ys)
  | maps {xs ys : List (String × Json)} : Agree (.obj xs) (.obj ys)

theorem rel_eq_none_iff {R : Json → Json → Prop} {x y : Option Json}
    (related : Option.Rel R x y) : x = none ↔ y = none := by
  cases related <;> simp

theorem exists_of_rel {R : Json → Json → Prop} {x : Json} {y : Option Json}
    (related : Option.Rel R (some x) y) : ∃ z, y = some z ∧ R x z := by
  cases related with
  | some here => exact ⟨_, rfl, here⟩

theorem layer_iff_child? {R : Json → Json → Prop} (own : a.Distinct) (other : b.Distinct) :
    Layer R a b ↔ Agree a b ∧ ∀ place, Option.Rel R (a.child? place) (b.child? place) := by
  constructor
  next =>
    rintro (⟨first, second⟩ | @⟨xs, ys, size, each⟩ | @⟨xs, ys, size, each⟩)
    next =>
      refine ⟨.scalars first second, fun place => ?_⟩
      rw [child?_of_denotes first, child?_of_denotes second]
      exact .none
    next =>
      refine ⟨.lists, fun place => ?_⟩
      cases place with
      | name key => exact .none
      | item i =>
        change Option.Rel R xs[i]? ys[i]?
        cases found : xs[i]? with
        | none =>
          rw [List.getElem?_eq_none_iff.mpr (size ▸ List.getElem?_eq_none_iff.mp found)]
          exact .none
        | some x =>
          obtain ⟨y, there, related⟩ := each i x found
          rw [there]
          exact .some related
    next =>
      refine ⟨.maps, fun place => ?_⟩
      cases place with
      | item i => exact .none
      | name key =>
        change Option.Rel R (Entries.get? xs key) (Entries.get? ys key)
        cases found : Entries.get? xs key with
        | none =>
          have names := keys_perm own.names size each
          have absent := mt names.mem_iff.mpr ((Entries.get?_eq_none_iff xs key).mp found)
          rw [(Entries.get?_eq_none_iff ys key).mpr absent]
          exact .none
        | some x =>
          obtain ⟨y, there, related⟩ := each key x (Entries.mem_of_get? found)
          rw [there]
          exact .some related
  next =>
    rintro ⟨⟨first, second⟩ | @⟨xs, ys⟩ | @⟨xs, ys⟩, each⟩
    next => exact .scalar first second
    next =>
      have within : ∀ i : Nat, xs.length ≤ i ↔ ys.length ≤ i := by
        intro i
        rw [← List.getElem?_eq_none_iff, ← List.getElem?_eq_none_iff]
        exact rel_eq_none_iff (each (.item i))
      refine .items (Nat.le_antisymm ((within _).mpr le_rfl) ((within _).mp le_rfl)) ?_
      intro i x found
      exact exists_of_rel (found ▸ each (.item i))
    next =>
      have named : ∀ key, key ∈ Entries.keys xs ↔ key ∈ Entries.keys ys := by
        intro key
        rw [← not_iff_not, ← Entries.get?_eq_none_iff, ← Entries.get?_eq_none_iff]
        exact rel_eq_none_iff (each (.name key))
      have names := (List.perm_ext_iff_of_nodup own.names other.names).mpr named
      refine .fields (by simpa [Entries.keys] using names.length_eq) ?_
      intro key x inside
      have found := Entries.get?_of_mem own.names inside
      exact exists_of_rel (found ▸ each (.name key))

theorem equals_iff_agree (own : a.Distinct) (other : b.Distinct) :
    a.equals b = true ↔ ∀ path, Option.Rel Agree (a.reach? path) (b.reach? path) := by
  constructor
  next =>
    intro same path
    induction path generalizing a b with
    | nil =>
      have layer := (layer_iff_child? own other).mp (equals_iff_layer.mp same)
      exact .some layer.1
    | cons place path ih =>
      have layer := (layer_iff_child? own other).mp (equals_iff_layer.mp same)
      have here := layer.2 place
      rw [reach?, reach?]
      generalize first : a.child? place = x, second : b.child? place = y at here
      cases here with
      | none => exact .none
      | some equal =>
        have left := own.part (mem_parts_of_child? first)
        have right := other.part (mem_parts_of_child? second)
        exact ih left right equal
  next =>
    intro agree
    induction a using inductParts generalizing b with
    | step a ih =>
      rw [equals_iff_layer, layer_iff_child? own other]
      have top : Agree a b := by
        cases agree [] with
        | some here => exact here
      refine ⟨top, fun place => ?_⟩
      have here := agree [place]
      have below := fun path => agree (place :: path)
      simp only [reach?] at here below
      generalize first : a.child? place = x, second : b.child? place = y at here below ⊢
      cases x <;> cases y
      case none.none => exact .none
      case some.some x y =>
        have inside := mem_parts_of_child? first
        have right := other.part (mem_parts_of_child? second)
        exact .some (ih x inside (own.part inside) right below)
      all_goals cases here

section Confusion

inductive Outline where
  | leaf
  | list
  | map
  deriving DecidableEq

def outline : Json → Outline
  | .arr _ => .list
  | .obj _ => .map
  | _ => .leaf

def SameShape (a b : Json) : Prop :=
  ∀ path, (a.reach? path).map outline = (b.reach? path).map outline

def isNumber : Json → Bool
  | .int _ => true
  | .float _ => true
  | _ => false

def Confused (a b : Json) : Prop :=
  (a.isTruth = true ∧ b.isNumber = true) ∨ (a.isNumber = true ∧ b.isTruth = true)

theorem outline_of_denotes {d : Denotation} (scalar : v.denotes? = some d) : v.outline = .leaf := by
  cases v with
  | arr | obj => cases scalar
  | _ => rfl

def Denotation.amount? : Denotation → Option Amount
  | .amount x => some x
  | _ => none

theorem amount_of_denotes {d : Denotation} (scalar : v.denotes? = some d) :
    v.amount? = d.amount? := by
  cases v with
  | null | str | bool | int => cases scalar; rfl
  | arr | obj => cases scalar
  | float =>
    obtain ⟨x, held, rfl⟩ := Option.map_eq_some_iff.mp scalar
    exact held

theorem Agree.outline_eq (agree : Agree a b) : a.outline = b.outline := by
  cases agree with
  | scalars first second => rw [outline_of_denotes first, outline_of_denotes second]
  | lists | maps => rfl

theorem Agree.amount_eq (agree : Agree a b) : a.amount? = b.amount? := by
  cases agree with
  | scalars first second => rw [amount_of_denotes first, amount_of_denotes second]
  | lists | maps => rfl

theorem isTruth_of_isNumber (number : v.isNumber = true) : v.isTruth = false := by
  cases v with
  | int | float => rfl
  | _ => cases number

theorem denotes_of_isNumber (number : v.isNumber = true) :
    v.denotes? = v.amount?.map .amount := by
  cases v with
  | int | float => rfl
  | _ => cases number

theorem isNumber_of_amount (truth : a.isTruth = true) (same : a.amount? = b.amount?)
    (other : b.isTruth = false) : b.isNumber = true := by
  cases a with
  | bool =>
    cases b with
    | bool => cases other
    | int | float => rfl
    | null | str | arr | obj => cases same
  | _ => cases truth

theorem Agree.isTruth_eq_iff (agree : Agree a b) : a.isTruth = b.isTruth ↔ ¬a.Confused b := by
  constructor
  next =>
    rintro same (⟨truth, number⟩ | ⟨number, truth⟩)
    · simp [same, isTruth_of_isNumber number] at truth
    · simp [← same, isTruth_of_isNumber number] at truth
  next =>
    intro apart
    cases first : a.isTruth <;> cases second : b.isTruth
    case false.false | true.true => rfl
    case true.false =>
      exact absurd (.inl ⟨first, isNumber_of_amount first agree.amount_eq second⟩) apart
    case false.true =>
      exact absurd (.inr ⟨isNumber_of_amount second agree.amount_eq.symm first, second⟩) apart

theorem sameShape_of_agree (agree : ∀ path, Option.Rel Agree (a.reach? path) (b.reach? path)) :
    SameShape a b := by
  intro path
  have here := agree path
  generalize a.reach? path = x, b.reach? path = y at here ⊢
  cases here with
  | none => rfl
  | some same => exact congrArg some same.outline_eq

theorem matches_iff_amount (first : v.isNumber = true) (second : w.isNumber = true) :
    v.Matches w ↔ ∃ amount, v.amount? = some amount ∧ w.amount? = some amount := by
  have scalars : v.equals w = true ↔ scalarEquals v w = true := by
    cases v with
    | int | float => rfl
    | _ => cases first
  rw [Matches, isTruth_of_isNumber first, isTruth_of_isNumber second,
    and_iff_left rfl, scalars, scalarEquals_iff, denotes_of_isNumber first,
    denotes_of_isNumber second]
  constructor
  next =>
    rintro ⟨d, own, other⟩
    obtain ⟨amount, held, rfl⟩ := Option.map_eq_some_iff.mp own
    obtain ⟨_, there, ⟨⟩⟩ := Option.map_eq_some_iff.mp other
    exact ⟨amount, held, there⟩
  next =>
    rintro ⟨amount, own, other⟩
    exact ⟨.amount amount, by rw [own]; rfl, by rw [other]; rfl⟩

/-- The same stands at every place, a truth value being taken for a number at most below the top. -/
def AgreesWith (a b : Json) : Prop :=
  (∀ path, Option.Rel Agree (a.reach? path) (b.reach? path)) ∧ ¬a.Confused b

theorem matches_iff_agreesWith (own : a.Distinct) (other : b.Distinct) :
    a.Matches b ↔ a.AgreesWith b := by
  rw [Matches, AgreesWith, equals_iff_agree own other]
  refine and_congr_right fun agree => ?_
  cases agree [] with
  | some here => exact here.isTruth_eq_iff

theorem AgreesWith.confused {path : List Place} {x y : Json} (agrees : a.AgreesWith b)
    (first : a.reach? path = some x) (second : b.reach? path = some y) (confused : x.Confused y) :
    path ≠ [] ∧ x.amount? = y.amount? := by
  constructor
  next =>
    rintro rfl
    cases first
    cases second
    exact agrees.2 confused
  next =>
    have here := agrees.1 path
    rw [first, second] at here
    cases here with
    | some agree => exact agree.amount_eq

end Confusion

end PromptStudio.Json
