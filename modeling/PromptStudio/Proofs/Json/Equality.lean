import Mathlib.Algebra.Order.Ring.Rat
import Mathlib.Data.List.Forall2
import Mathlib.Data.List.Perm.Subperm
import PromptStudio.Json.Equality
import PromptStudio.Proofs.Entries
import PromptStudio.Proofs.Json.Distinct

set_option autoImplicit false

/-!
# Equality of values as a relation

Scalars are equal when they denote the same thing, so no comparison rounds. Containers are equal
part by part, and equality of values is symmetric and transitive because it is so one layer at a
time. Only `nan` differs from itself.
-/

namespace PromptStudio

inductive Amount where
  | finite (value : Rat)
  | infinite (negative : Bool)
  deriving DecidableEq

namespace Binary64

variable {x y : Binary64}

def amount? : Binary64 → Option Amount
  | .nan => none
  | .infinity negative => some (.infinite negative)
  | .negativeZero => some (.finite 0)
  | .finite q => some (.finite q)

theorem equals_iff : x.equals y = true ↔ ∃ a, x.amount? = some a ∧ y.amount? = some a := by
  cases x <;> cases y <;> simp only [equals, amount?, toRat?] <;> grind

theorem equalsInt_iff {n : Int} : x.equalsInt n = true ↔ x.amount? = some (.finite n) := by
  cases x <;> simp [equalsInt, amount?, toRat?]

end Binary64

namespace Json

def amount? : Json → Option Amount
  | .bool b => some (.finite (if b then 1 else 0 : Int))
  | .int n => some (.finite n)
  | .float x => x.amount?
  | _ => none

inductive Denotation where
  | nothing
  | text (value : String)
  | amount (value : Amount)
  deriving DecidableEq

def denotes? : Json → Option Denotation
  | .null => some .nothing
  | .str s => some (.text s)
  | v => v.amount?.map .amount

theorem scalarEquals_iff {a b : Json} :
    scalarEquals a b = true ↔ ∃ d, a.denotes? = some d ∧ b.denotes? = some d := by
  cases a <;> cases b <;>
    simp [scalarEquals, denotes?, amount?, Binary64.equals_iff, Binary64.equalsInt_iff]
  case bool.bool p q => cases p <;> cases q <;> simp
  case bool.int p n => cases p <;> simp [eq_comm]
  case int.bool n p => cases p <;> simp [eq_comm]
  case int.int => exact eq_comm
  case str.str => exact eq_comm

/-- Equal one layer deep: scalars by what they denote, and containers by `R` part by part. -/
inductive Layer (R : Json → Json → Prop) : Json → Json → Prop where
  | scalar {a b : Json} {d : Denotation} (first : a.denotes? = some d)
      (second : b.denotes? = some d) : Layer R a b
  | items {xs ys : List Json} (size : xs.length = ys.length)
      (each : ∀ (i : Nat) x, xs[i]? = some x → ∃ y, ys[i]? = some y ∧ R x y) :
      Layer R (.arr xs) (.arr ys)
  | fields {xs ys : List (String × Json)} (size : xs.length = ys.length)
      (each : ∀ key x, (key, x) ∈ xs → ∃ y, Entries.get? ys key = some y ∧ R x y) :
      Layer R (.obj xs) (.obj ys)

theorem equalsItems_iff {xs ys : List Json} :
    equalsItems xs ys = true ↔ xs.length = ys.length ∧
      ∀ (i : Nat) x, xs[i]? = some x → ∃ y, ys[i]? = some y ∧ x.equals y = true := by
  induction xs generalizing ys with
  | nil => cases ys <;> simp [equalsItems]
  | cons x xs ih =>
    cases ys with
    | nil => simp [equalsItems]
    | cons y ys =>
      rw [equalsItems, Bool.and_eq_true, ih]
      constructor
      next =>
        rintro ⟨first, size, each⟩
        refine ⟨congrArg (· + 1) size, fun i => ?_⟩
        cases i with
        | zero => rintro _ ⟨⟩; exact ⟨y, rfl, first⟩
        | succ i => exact each i
      next =>
        rintro ⟨size, each⟩
        obtain ⟨_, ⟨⟩, first⟩ := each 0 x rfl
        exact ⟨first, Nat.succ.inj size, fun i => each (i + 1)⟩

theorem equalsFields_iff {xs ys : List (String × Json)} :
    equalsFields xs ys = true ↔
      ∀ key x, (key, x) ∈ xs → ∃ y, Entries.get? ys key = some y ∧ x.equals y = true := by
  induction xs with
  | nil => simp [equalsFields]
  | cons entry xs ih =>
    obtain ⟨key, x⟩ := entry
    rw [equalsFields, Bool.and_eq_true, ih]
    cases found : Entries.get? ys key <;> simp [found, or_imp, forall_and]

theorem equals_iff_layer {a b : Json} :
    a.equals b = true ↔ Layer (fun x y => x.equals y = true) a b := by
  constructor
  next =>
    intro same
    unfold equals at same
    split at same
    next =>
      obtain ⟨size, each⟩ := equalsItems_iff.mp same
      exact .items size each
    next =>
      obtain ⟨size, each⟩ := Bool.and_eq_true_iff.mp same
      exact .fields (beq_iff_eq.mp size) (equalsFields_iff.mp each)
    next =>
      obtain ⟨d, first, second⟩ := scalarEquals_iff.mp same
      exact .scalar first second
  next =>
    rintro (⟨first, second⟩ | ⟨size, each⟩ | ⟨size, each⟩)
    next =>
      have same := scalarEquals_iff.mpr ⟨_, first, second⟩
      unfold equals
      split
      next => cases first
      next => cases first
      next => exact same
    next => simpa only [equals] using equalsItems_iff.mpr ⟨size, each⟩
    next => simpa [equals, size] using equalsFields_iff.mpr each

def parts : Json → List Json
  | .arr items => items
  | .obj fields => fields.map (·.2)
  | _ => []

theorem parts_of_mem_fields {fields : List (String × Json)} {key : String} {v : Json}
    (inside : (key, v) ∈ fields) : v ∈ (Json.obj fields).parts :=
  List.mem_map.mpr ⟨(key, v), inside, rfl⟩

theorem sizeOf_lt_of_mem_parts {v part : Json} (inside : part ∈ v.parts) :
    sizeOf part < sizeOf v := by
  cases v with
  | arr items =>
    have smaller : sizeOf part < sizeOf items := List.sizeOf_lt_of_mem inside
    simp only [arr.sizeOf_spec]
    omega
  | obj fields =>
    obtain ⟨⟨key, w⟩, member, rfl⟩ := List.mem_map.mp inside
    have smaller := List.sizeOf_lt_of_mem member
    simp only [obj.sizeOf_spec, Prod.mk.sizeOf_spec] at smaller ⊢
    omega
  | _ => cases inside

theorem inductParts {P : Json → Prop} (step : ∀ v, (∀ part ∈ v.parts, P part) → P v) (v : Json) :
    P v :=
  step v fun part inside =>
    have := sizeOf_lt_of_mem_parts inside
    inductParts step part
termination_by sizeOf v

theorem Distinct.part {v part : Json} (distinct : v.Distinct) (inside : part ∈ v.parts) :
    part.Distinct := by
  cases v with
  | arr items =>
    induction items with
    | nil => cases inside
    | cons item items ih =>
      rcases List.mem_cons.mp inside with rfl | later
      · exact distinct.1
      · exact ih distinct.2 later
  | obj fields =>
    obtain ⟨⟨key, w⟩, member, rfl⟩ := List.mem_map.mp inside
    exact distinct.value member
  | _ => cases inside

theorem equals_trans {a b c : Json} (first : a.equals b = true) (second : b.equals c = true) :
    a.equals c = true := by
  induction a using inductParts generalizing b c with
  | step a ih =>
    rw [equals_iff_layer] at first second ⊢
    cases first with
    | scalar own other =>
      cases second with
      | scalar again last => exact .scalar own (by rw [last, ← again, other])
      | items | fields => cases other
    | items size each =>
      cases second with
      | scalar again => cases again
      | items length others =>
        refine .items (size.trans length) fun i x inside => ?_
        obtain ⟨y, found, same⟩ := each i x inside
        obtain ⟨z, last, equal⟩ := others i y found
        exact ⟨z, last, ih x (List.mem_of_getElem? inside) same equal⟩
    | fields size each =>
      cases second with
      | scalar again => cases again
      | fields length others =>
        refine .fields (size.trans length) fun key x inside => ?_
        obtain ⟨y, found, same⟩ := each key x inside
        obtain ⟨z, last, equal⟩ := others key y (Entries.mem_of_get? found)
        exact ⟨z, last, ih x (parts_of_mem_fields inside) same equal⟩

-- Distinct names on the left that all stand on the right, where there are no more of them.
theorem keys_perm {R : Json → Json → Prop} {xs ys : List (String × Json)}
    (distinct : (Entries.keys xs).Nodup) (size : xs.length = ys.length)
    (each : ∀ key x, (key, x) ∈ xs → ∃ y, Entries.get? ys key = some y ∧ R x y) :
    (Entries.keys xs).Perm (Entries.keys ys) := by
  have included : Entries.keys xs ⊆ Entries.keys ys := by
    intro name member
    obtain ⟨⟨key, x⟩, inside, rfl⟩ := List.mem_map.mp member
    obtain ⟨y, found, -⟩ := each key x inside
    exact List.mem_map.mpr ⟨(key, y), Entries.mem_of_get? found, rfl⟩
  have few : (Entries.keys ys).length ≤ (Entries.keys xs).length := by
    simp [Entries.keys, size]
  exact (distinct.subperm included).perm_of_length_le few

theorem equals_symm {a b : Json} (distinct : a.Distinct) (same : a.equals b = true) :
    b.equals a = true := by
  induction a using inductParts generalizing b with
  | step a ih =>
    rw [equals_iff_layer] at same ⊢
    cases same with
    | scalar own other => exact .scalar other own
    | @items xs ys size each =>
      refine .items size.symm fun i y inside => ?_
      have within : i < xs.length := by
        rw [size]
        exact (List.getElem?_eq_some_iff.mp inside).1
      have there : xs[i]? = some xs[i] := List.getElem?_eq_getElem within
      obtain ⟨_, found, equal⟩ := each i xs[i] there
      obtain rfl := Option.some.inj (found.symm.trans inside)
      have part : xs[i] ∈ (Json.arr xs).parts := List.getElem_mem within
      exact ⟨xs[i], there, ih _ part (distinct.part part) equal⟩
    | @fields xs ys size each =>
      refine .fields size.symm fun key y inside => ?_
      have names := keys_perm distinct.names size each
      have named : key ∈ Entries.keys xs := names.mem_iff.mpr (List.mem_map_of_mem inside)
      obtain ⟨x, there⟩ := Entries.get?_of_mem_keys named
      have member := Entries.mem_of_get? there
      obtain ⟨_, found, equal⟩ := each key x member
      have own := Entries.get?_of_mem (names.nodup distinct.names) inside
      obtain rfl := Option.some.inj (found.symm.trans own)
      have part := parts_of_mem_fields member
      exact ⟨x, there, ih x part (distinct.part part) equal⟩

inductive Defined : Json → Prop where
  | intro {v : Json} (own : v ≠ .float .nan) (inner : ∀ part ∈ v.parts, Defined part) : Defined v

theorem equals_refl {v : Json} (distinct : v.Distinct) (defined : v.Defined) :
    v.equals v = true := by
  induction v using inductParts with
  | step v ih =>
    obtain ⟨own, inner⟩ := defined
    have each : ∀ part ∈ v.parts, part.equals part = true := fun part inside =>
      ih part inside (distinct.part inside) (inner part inside)
    rw [equals_iff_layer]
    cases v with
    | arr items =>
      refine .items rfl fun i x inside => ⟨x, inside, ?_⟩
      exact each x (List.mem_of_getElem? inside)
    | obj fields =>
      refine .fields rfl fun key x inside => ⟨x, ?_, each x (parts_of_mem_fields inside)⟩
      exact Entries.get?_of_mem distinct.names inside
    | float x =>
      cases x with
      | nan => exact absurd rfl own
      | _ => exact .scalar rfl rfl
    | _ => exact .scalar rfl rfl

theorem equals_of_perm {fields others : List (String × Json)} (distinct : (obj fields).Distinct)
    (defined : (obj fields).Defined) (reordered : fields.Perm others) :
    (obj fields).equals (obj others) = true := by
  obtain ⟨-, inner⟩ := defined
  refine equals_iff_layer.mpr (.fields reordered.length_eq fun key x inside => ⟨x, ?_, ?_⟩)
  next =>
    have names := (reordered.map Prod.fst).nodup distinct.names
    exact Entries.get?_of_mem names (reordered.mem_iff.mp inside)
  next =>
    have part := parts_of_mem_fields inside
    exact equals_refl (distinct.part part) (inner x part)

def isTruth : Json → Bool
  | .bool _ => true
  | _ => false

end Json

section Strict

variable {p q r : Option Json}

/-- Equal, and both a truth value or neither. -/
def Json.Matches (a b : Json) : Prop := a.equals b = true ∧ a.isTruth = b.isTruth

theorem strictEquals_some_iff {a b : Json} :
    strictEquals (some a) (some b) = true ↔ a.Matches b := by
  cases a <;> cases b <;>
    simp [strictEquals, Json.Matches, Json.equals, Json.scalarEquals, Json.isTruth]

theorem strictEquals_iff : strictEquals p q = true ↔ Option.Rel Json.Matches p q := by
  cases p with
  | none =>
    cases q with
    | none => exact iff_of_true rfl .none
    | some b => cases b <;> exact iff_of_false nofun nofun
  | some a =>
    cases q with
    | none => cases a <;> exact iff_of_false nofun nofun
    | some b =>
      rw [strictEquals_some_iff]
      exact ⟨.some, fun | .some same => same⟩

theorem Json.items_match_self {items : List Json} {o : Json}
    (same : (arr items).equals (arr items) = true) (inside : o ∈ items) : o.Matches o := by
  rw [equals] at same
  obtain ⟨-, each⟩ := equalsItems_iff.mp same
  obtain ⟨i, here⟩ := List.getElem?_of_mem inside
  obtain ⟨_, found, equal⟩ := each i o here
  obtain rfl := Option.some.inj (here.symm.trans found)
  exact ⟨equal, rfl⟩

/-- Nothing, or a value in which every name stands once and no number is `nan`. -/
def Comparable (p : Option Json) : Prop := ∀ v ∈ p, v.Distinct ∧ v.Defined

theorem strictEquals_refl (comparable : Comparable p) : strictEquals p p = true := by
  rw [strictEquals_iff]
  cases p with
  | none => exact .none
  | some v =>
    obtain ⟨distinct, defined⟩ := comparable v rfl
    exact .some ⟨Json.equals_refl distinct defined, rfl⟩

theorem strictEquals_symm (distinct : ∀ v ∈ p, v.Distinct) (same : strictEquals p q = true) :
    strictEquals q p = true := by
  rw [strictEquals_iff] at same ⊢
  cases same with
  | none => exact .none
  | some both => exact .some ⟨Json.equals_symm (distinct _ rfl) both.1, both.2.symm⟩

theorem strictEquals_trans (first : strictEquals p q = true) (second : strictEquals q r = true) :
    strictEquals p r = true := by
  rw [strictEquals_iff] at first second ⊢
  cases first with
  | none => exact second
  | some own =>
    cases second with
    | some other => exact .some ⟨Json.equals_trans own.1 other.1, own.2.trans other.2⟩

end Strict

end PromptStudio
