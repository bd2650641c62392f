import Mathlib.Data.List.Induction
import Mathlib.Data.List.Nodup
import PromptStudio.Entries

set_option autoImplicit false

namespace PromptStudio.Entries

variable {α β : Type}

theorem get?_eq_none_iff (e : Entries α) (key : String) : get? e key = none ↔ key ∉ keys e := by
  induction e with
  | nil => simp [keys]
  | cons entry rest ih =>
    obtain ⟨k, v⟩ := entry
    by_cases same : key = k
    next => simp [get?_cons, keys, same]
    next => simpa [get?_cons, keys, same] using ih

theorem get?_of_mem_keys {e : Entries α} {key : String} (inside : key ∈ keys e) :
    ∃ v, get? e key = some v := by
  rw [← Option.ne_none_iff_exists', Ne, get?_eq_none_iff, not_not]
  exact inside

theorem has_iff {e : Entries α} {key : String} : has e key = true ↔ key ∈ keys e := by
  rw [has, ← not_iff_not, ← get?_eq_none_iff]
  cases get? e key <;> simp

theorem mem_of_get? {e : Entries α} {key : String} {value : α} (found : get? e key = some value) :
    (key, value) ∈ e := by
  obtain ⟨before, after, rfl, -⟩ := List.lookup_eq_some_iff.mp found
  simp

theorem get?_of_mem {e : Entries α} (distinct : (keys e).Nodup) {key : String} {value : α}
    (inside : (key, value) ∈ e) : get? e key = some value := by
  induction e with
  | nil => simp at inside
  | cons entry rest ih =>
    obtain ⟨k, v⟩ := entry
    simp only [keys, List.map_cons, List.nodup_cons] at distinct
    rcases List.mem_cons.mp inside with first | later
    · simp_all [get?_cons]
    · have other : key ≠ k := by
        rintro rfl
        exact distinct.1 (List.mem_map_of_mem later)
      simp [get?_cons, other, ih distinct.2 later]

theorem get?_append (front back : Entries α) (key : String) :
    get? (front ++ back) key = (get? front key).or (get? back key) := by
  induction front with
  | nil => simp
  | cons entry rest ih =>
    obtain ⟨k, v⟩ := entry
    by_cases same : key = k <;> simp [get?_cons, same, ih]

theorem get?_filter (e : Entries α) (keep : String → Bool) (key : String) :
    get? (e.filter fun entry => keep entry.1) key = if keep key then get? e key else none := by
  induction e with
  | nil => simp
  | cons entry rest ih =>
    obtain ⟨k, v⟩ := entry
    by_cases same : key = k
    next =>
      subst same
      by_cases kept : keep key <;> simp [get?_cons, kept, ih]
    next =>
      by_cases kept : keep k <;> simp [get?_cons, kept, same, ih]

theorem get?_drop (e : Entries α) (key other : String) :
    get? (drop e key) other = if other = key then none else get? e other := by
  have filtered := get?_filter e (· != key) other
  by_cases same : other = key <;> simpa [drop, same] using filtered

theorem get?_mapValues (e : Entries α) (f : α → β) (key : String) :
    get? (e.map fun entry => (entry.1, f entry.2)) key = (get? e key).map f := by
  induction e with
  | nil => rfl
  | cons entry rest ih =>
    obtain ⟨k, v⟩ := entry
    by_cases same : key = k <;> simp [get?_cons, same, ih]

theorem keys_put_of_mem (e : Entries α) (key : String) (value : α) (inside : key ∈ keys e) :
    keys (put e key value) = keys e := by
  induction e with
  | nil => simp [keys] at inside
  | cons entry rest ih =>
    obtain ⟨k, v⟩ := entry
    by_cases same : k = key
    next => simp [put, keys, same]
    next =>
      have later : key ∈ keys rest := by
        simpa [keys, Ne.symm same] using inside
      simpa [put, same, keys] using ih later

theorem put_mapValues (e : Entries α) (f : α → β) (key : String) (value : α) :
    put (e.map fun entry => (entry.1, f entry.2)) key (f value) =
      (put e key value).map fun entry => (entry.1, f entry.2) := by
  induction e with
  | nil => rfl
  | cons entry rest ih =>
    obtain ⟨k, v⟩ := entry
    by_cases same : k = key <;> simp [put, same, ih]

theorem overlay_mapValues (base updates : Entries α) (f : α → β) :
    overlay (base.map fun entry => (entry.1, f entry.2))
        (updates.map fun entry => (entry.1, f entry.2)) =
      (overlay base updates).map fun entry => (entry.1, f entry.2) := by
  induction updates generalizing base with
  | nil => rfl
  | cons entry rest ih =>
    obtain ⟨k, v⟩ := entry
    simp only [List.map_cons, overlay_cons, put_mapValues, ih]

theorem put_of_get? (e : Entries α) (key : String) (value : α) (held : get? e key = some value) :
    put e key value = e := by
  induction e with
  | nil => simp at held
  | cons entry rest ih =>
    obtain ⟨k, v⟩ := entry
    by_cases same : k = key
    next =>
      subst same
      have equal : v = value := by simpa [get?_cons] using held
      simp [put, equal]
    next =>
      have inside : get? rest key = some value := by
        simpa [get?_cons, Ne.symm same] using held
      simp [put, same, ih inside]

theorem put_of_not_mem (e : Entries α) (key : String) (value : α) (fresh : key ∉ keys e) :
    put e key value = e ++ [(key, value)] := by
  induction e with
  | nil => rfl
  | cons entry rest ih =>
    obtain ⟨k, v⟩ := entry
    simp only [keys, List.map_cons, List.mem_cons, not_or] at fresh
    simp [put, Ne.symm fresh.1, ih fresh.2]

theorem get?_overlay (base updates : Entries α) (distinct : (keys updates).Nodup) (key : String) :
    get? (overlay base updates) key = (get? updates key).or (get? base key) := by
  induction updates generalizing base with
  | nil => simp
  | cons entry rest ih =>
    obtain ⟨k, v⟩ := entry
    simp only [keys, List.map_cons, List.nodup_cons] at distinct
    rw [overlay_cons, ih (put base k v) distinct.2, get?_put, get?_cons]
    by_cases same : key = k
    next =>
      subst same
      have absent : get? rest key = none := (get?_eq_none_iff rest key).mpr distinct.1
      simp [absent]
    next => simp [same]

theorem mem_of_get?_overlay {base updates : Entries α} {key : String} {value : α}
    (found : get? (overlay base updates) key = some value) :
    get? base key = some value ∨ (key, value) ∈ updates := by
  induction updates generalizing base with
  | nil => exact .inl found
  | cons entry rest ih =>
    obtain ⟨k, v⟩ := entry
    rcases ih found with before | later
    · rw [get?_put] at before
      by_cases same : key = k
      next =>
        rw [if_pos same] at before
        injection before with equal
        exact .inr (by simp [same, equal])
      next => exact .inl (by rwa [if_neg same] at before)
    · exact .inr (List.mem_cons_of_mem _ later)

theorem overlay_fresh (base updates : Entries α) (distinct : (keys (base ++ updates)).Nodup) :
    overlay base updates = base ++ updates := by
  induction updates generalizing base with
  | nil => simp
  | cons entry rest ih =>
    obtain ⟨k, v⟩ := entry
    have fresh : k ∉ keys base := by
      simp only [keys, List.map_append, List.map_cons, List.nodup_append] at distinct
      intro inside
      exact distinct.2.2 k inside k (by simp) rfl
    have rest := ih (base ++ [(k, v)]) (by simpa using distinct)
    rw [overlay_cons, put_of_not_mem base k v fresh, rest]
    simp

theorem ofPairs_of_nodup (pairs : List (String × α)) (distinct : (keys pairs).Nodup) :
    ofPairs pairs = pairs :=
  overlay_fresh [] pairs distinct

theorem keys_put (e : Entries α) (key : String) (value : α) :
    keys (put e key value) = if key ∈ keys e then keys e else keys e ++ [key] := by
  by_cases inside : key ∈ keys e
  next => rw [if_pos inside, keys_put_of_mem e key value inside]
  next =>
    rw [if_neg inside, put_of_not_mem e key value inside]
    simp [keys]

theorem nodup_keys_put {e : Entries α} (distinct : (keys e).Nodup) (key : String) (value : α) :
    (keys (put e key value)).Nodup := by
  rw [keys_put]
  split
  next => exact distinct
  next fresh =>
    rw [← List.concat_eq_append]
    exact distinct.concat fresh

theorem nodup_keys_overlay {base : Entries α} (distinct : (keys base).Nodup) (updates : Entries α) :
    (keys (overlay base updates)).Nodup := by
  induction updates generalizing base with
  | nil => exact distinct
  | cons entry rest ih => exact ih (nodup_keys_put distinct entry.1 entry.2)

theorem keys_mapValues (e : Entries α) (f : α → β) :
    keys (e.map fun entry => (entry.1, f entry.2)) = keys e := by
  simp [keys]

theorem keys_overlay_mapValues {base : Entries α} {other : Entries β}
    (same : keys other = keys base) (updates : Entries α) (f : α → β) :
    keys (overlay other (updates.map fun entry => (entry.1, f entry.2))) =
      keys (overlay base updates) := by
  induction updates generalizing base other with
  | nil => exact same
  | cons entry rest ih =>
    have put : keys (put other entry.1 (f entry.2)) = keys (put base entry.1 entry.2) := by
      rw [keys_put, keys_put, same]
    exact ih put

theorem mem_iff_get? {e : Entries α} (distinct : (keys e).Nodup) {key : String} {value : α} :
    (key, value) ∈ e ↔ get? e key = some value :=
  ⟨get?_of_mem distinct, mem_of_get?⟩

theorem mem_keys_put (e : Entries α) (key : String) (value : α) (other : String) :
    other ∈ keys (put e key value) ↔ other ∈ keys e ∨ other = key := by
  rw [keys_put]
  split
  next inside =>
    constructor
    · exact .inl
    · rintro (there | rfl)
      · exact there
      · exact inside
  next => simp

theorem mem_keys_overlay (base updates : Entries α) (key : String) :
    key ∈ keys (overlay base updates) ↔ key ∈ keys base ∨ key ∈ keys updates := by
  induction updates generalizing base with
  | nil => simp [keys]
  | cons entry rest ih =>
    obtain ⟨k, v⟩ := entry
    rw [overlay_cons, ih, mem_keys_put]
    simp [keys, or_assoc]

theorem put_put (e : Entries α) (key : String) (first second : α) :
    put (put e key first) key second = put e key second := by
  induction e with
  | nil => simp [put]
  | cons entry rest ih =>
    obtain ⟨k, v⟩ := entry
    by_cases same : k = key <;> simp [put, same, ih]

-- A name that is there keeps its place, so another entry may come before or after it.
theorem put_comm {e : Entries α} {key other : String} (apart : key ≠ other)
    (inside : key ∈ keys e) (v w : α) :
    put (put e other w) key v = put (put e key v) other w := by
  induction e with
  | nil => simp [keys] at inside
  | cons entry rest ih =>
    obtain ⟨k, x⟩ := entry
    by_cases same : k = key
    next =>
      subst same
      simp [put, apart]
    next =>
      have later : key ∈ keys rest := by simpa [keys, Ne.symm same] using inside
      by_cases third : k = other
      next => simp [put, third, Ne.symm apart]
      next => simp [put, same, third, ih later]

theorem put_overlay_put {base updates : Entries α}
    (inside : ∀ other ∈ keys updates, other ∈ keys base) (key : String) (v w : α) :
    put (overlay (put base key v) updates) key w = put (overlay base updates) key w := by
  induction updates generalizing base with
  | nil => exact put_put base key v w
  | cons entry rest ih =>
    obtain ⟨k, x⟩ := entry
    have there : k ∈ keys base := inside k (by simp [keys])
    have later : ∀ other ∈ keys rest, other ∈ keys (put base k x) := fun other member =>
      (mem_keys_put base k x other).mpr (.inl (inside other (List.mem_cons_of_mem _ member)))
    rw [overlay_cons, overlay_cons]
    by_cases same : k = key
    next => rw [same, put_put]
    next => rw [put_comm same there, ih later]

theorem overlay_concat (base updates : Entries α) (entry : String × α) :
    overlay base (updates ++ [entry]) = put (overlay base updates) entry.1 entry.2 := by
  simp [overlay]

theorem overlay_overlay (base updates : Entries α) :
    overlay (overlay base updates) updates = overlay base updates := by
  induction updates using List.reverseRecOn with
  | nil => rfl
  | append_singleton front entry ih =>
    have inside : ∀ other ∈ keys front, other ∈ keys (overlay base front) := fun other member =>
      (mem_keys_overlay base front other).mpr (.inr member)
    rw [overlay_concat, overlay_concat, put_overlay_put inside, ih]

theorem filter_put (e : Entries α) (key : String) (value : α) (keep : String → Bool) :
    (put e key value).filter (fun entry => keep entry.1) =
      if keep key then put (e.filter fun entry => keep entry.1) key value
      else e.filter fun entry => keep entry.1 := by
  induction e with
  | nil => cases kept : keep key <;> simp [put, kept]
  | cons entry rest ih =>
    obtain ⟨k, v⟩ := entry
    by_cases same : k = key
    next =>
      subst same
      cases kept : keep k <;> simp [put, kept]
    next =>
      cases there : keep k <;> cases kept : keep key <;> simp [put, same, there, kept, ih]

theorem filter_overlay (base updates : Entries α) (keep : String → Bool) :
    (overlay base updates).filter (fun entry => keep entry.1) =
      overlay (base.filter fun entry => keep entry.1)
        (updates.filter fun entry => keep entry.1) := by
  induction updates generalizing base with
  | nil => rfl
  | cons entry rest ih =>
    obtain ⟨k, v⟩ := entry
    rw [overlay_cons, ih, filter_put]
    cases kept : keep k <;> simp [kept]

theorem get?_overlay_ofPairs (base updates : Entries α) (key : String) :
    get? (overlay base updates) key = (get? (ofPairs updates) key).or (get? base key) := by
  induction updates using List.reverseRecOn with
  | nil => simp [ofPairs]
  | append_singleton front entry ih =>
    rw [ofPairs, overlay_concat, overlay_concat, get?_put, get?_put, ih, ofPairs]
    split <;> simp

end PromptStudio.Entries
