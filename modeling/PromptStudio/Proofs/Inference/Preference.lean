import PromptStudio.Inference.Choices
import PromptStudio.Proofs.Entries

set_option autoImplicit false

namespace PromptStudio

namespace Choices

variable {explicit inferred : Entries Json} {key : String} {v : Json}

def chosen (explicit : Entries Json) : Entries Json := explicit.filter fun entry => isChoice entry.2

theorem merge_eq (explicit inferred : Entries Json) :
    merge explicit inferred =
      ⟨Entries.overlay inferred (chosen explicit),
        Entries.overlay (inferred.map fun entry => (entry.1, .inferred))
          ((chosen explicit).map fun entry => (entry.1, .explicit))⟩ := by
  have folded (s : Choices) : explicit.foldl choose s =
      ⟨Entries.overlay s.values (chosen explicit),
        Entries.overlay s.sources ((chosen explicit).map fun entry => (entry.1, .explicit))⟩ := by
    induction explicit generalizing s with
    | nil => rfl
    | cons entry rest ih =>
      rw [List.foldl_cons, ih]
      cases choice : isChoice entry.2 <;> simp [chosen, choose, choice, Entries.overlay]
  exact folded (ofInferred inferred)

theorem chosen_names (distinct : (Entries.keys explicit).Nodup) :
    (Entries.keys (chosen explicit)).Nodup :=
  distinct.sublist (List.filter_sublist.map _)

theorem get?_chosen_eq_some_iff (distinct : (Entries.keys explicit).Nodup) :
    Entries.get? (chosen explicit) key = some v ↔ (key, v) ∈ explicit ∧ isChoice v = true := by
  rw [← Entries.mem_iff_get? (chosen_names distinct), chosen, List.mem_filter]

theorem get?_values (distinct : (Entries.keys explicit).Nodup) (inferred : Entries Json)
    (key : String) :
    Entries.get? (merge explicit inferred).values key =
      (Entries.get? (chosen explicit) key).or (Entries.get? inferred key) := by
  rw [merge_eq, Entries.get?_overlay _ _ (chosen_names distinct)]

theorem get?_sources (distinct : (Entries.keys explicit).Nodup) (inferred : Entries Json)
    (key : String) :
    Entries.get? (merge explicit inferred).sources key =
      ((Entries.get? (chosen explicit) key).map fun _ => .explicit).or
        ((Entries.get? inferred key).map fun _ => .inferred) := by
  have names :
      (Entries.keys ((chosen explicit).map fun entry => (entry.1, Source.explicit))).Nodup := by
    rw [Entries.keys_mapValues (chosen explicit) fun _ => Source.explicit]
    exact chosen_names distinct
  rw [merge_eq, Entries.get?_overlay _ _ names,
    Entries.get?_mapValues (chosen explicit) fun _ => Source.explicit,
    Entries.get?_mapValues inferred fun _ => Source.inferred]

theorem source_cases (distinct : (Entries.keys explicit).Nodup) (inferred : Entries Json)
    (key : String) :
    key ∈ Entries.keys (chosen explicit) ∧
        Entries.get? (merge explicit inferred).sources key = some .explicit ∨
      key ∉ Entries.keys (chosen explicit) ∧ key ∈ Entries.keys inferred ∧
        Entries.get? (merge explicit inferred).sources key = some .inferred ∨
      key ∉ Entries.keys (chosen explicit) ∧ key ∉ Entries.keys inferred ∧
        Entries.get? (merge explicit inferred).sources key = none := by
  rw [get?_sources distinct]
  by_cases own : key ∈ Entries.keys (chosen explicit)
  next =>
    obtain ⟨v, held⟩ := Entries.get?_of_mem_keys own
    exact .inl ⟨own, by rw [held]; rfl⟩
  next =>
    rw [(Entries.get?_eq_none_iff _ key).mpr own]
    by_cases used : key ∈ Entries.keys inferred
    next =>
      obtain ⟨v, held⟩ := Entries.get?_of_mem_keys used
      exact .inr (.inl ⟨own, used, by rw [held]; rfl⟩)
    next =>
      rw [(Entries.get?_eq_none_iff _ key).mpr used]
      exact .inr (.inr ⟨own, used, rfl⟩)

theorem mem_keys_chosen :
    key ∈ Entries.keys (chosen explicit) ↔ ∃ v, (key, v) ∈ explicit ∧ isChoice v = true := by
  simp [Entries.keys, chosen]

theorem values_names (explicit : Entries Json) (distinct : (Entries.keys inferred).Nodup) :
    (Entries.keys (merge explicit inferred).values).Nodup := by
  rw [merge_eq]
  exact Entries.nodup_keys_overlay distinct _

theorem sources_names (explicit inferred : Entries Json) :
    Entries.keys (merge explicit inferred).sources =
      Entries.keys (merge explicit inferred).values := by
  rw [merge_eq]
  exact Entries.keys_overlay_mapValues (Entries.keys_mapValues inferred fun _ => Source.inferred)
    (chosen explicit) fun _ => Source.explicit

end Choices

end PromptStudio
