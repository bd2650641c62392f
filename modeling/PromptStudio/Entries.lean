set_option autoImplicit false

/-!
# Ordered maps

An ordered map is a list of named entries. A new name goes to the end and a known name keeps its
place, so `keys` shows the order in which names first appeared.
-/

namespace PromptStudio

abbrev Entries (α : Type) := List (String × α)

namespace Entries

variable {α : Type}

def keys (e : Entries α) : List String := e.map (·.1)

def get? (e : Entries α) (key : String) : Option α := e.lookup key

def has (e : Entries α) (key : String) : Bool := (get? e key).isSome

def put : Entries α → String → α → Entries α
  | [], key, value => [(key, value)]
  | (k, v) :: rest, key, value =>
    if k = key then (k, value) :: rest else (k, v) :: put rest key value

-- Entries of `updates` replace those of `base` in place or follow them.
def overlay (base updates : Entries α) : Entries α :=
  updates.foldl (fun e (key, value) => put e key value) base

def drop (e : Entries α) (key : String) : Entries α := e.filter (fun entry => entry.1 != key)

-- Each name once, at its first place and with its last value.
def ofPairs (pairs : List (String × α)) : Entries α := overlay [] pairs

@[simp] theorem get?_nil (key : String) : get? ([] : Entries α) key = none := rfl

theorem get?_cons (k : String) (v : α) (rest : Entries α) (key : String) :
    get? ((k, v) :: rest) key = if key = k then some v else get? rest key := by
  simp only [get?, List.lookup_cons]
  by_cases h : key = k
  next => simp [h]
  next => simp [h, beq_eq_false_iff_ne.mpr h]

theorem get?_put (e : Entries α) (key : String) (value : α) (other : String) :
    get? (put e key value) other = if other = key then some value else get? e other := by
  induction e with
  | nil => simp [put, get?_cons]
  | cons entry rest ih =>
    obtain ⟨k, v⟩ := entry
    by_cases h : k = key
    next =>
      subst h
      by_cases same : other = k <;> simp [put, get?_cons, same]
    next =>
      by_cases same : other = k
      next => subst same; simp [put, h, get?_cons]
      next => simp [put, h, get?_cons, same, ih]

@[simp] theorem overlay_nil (base : Entries α) : overlay base [] = base := rfl

@[simp] theorem overlay_cons (base : Entries α) (key : String) (value : α) (rest : Entries α) :
    overlay base ((key, value) :: rest) = overlay (put base key value) rest := rfl

end Entries

end PromptStudio
