import PromptStudio.Matrix.Combo

set_option autoImplicit false

namespace PromptStudio

theorem distinct_texts (seen texts : List String) :
    distinct (seen.map .str) (texts.map .str) = (texts.removeAll seen).eraseDups.map .str := by
  induction texts generalizing seen with
  | nil => rfl
  | cons text texts ih =>
    have known : (seen.map Json.str).any (·.equals (.str text)) = seen.contains text := by
      rw [List.any_map, List.contains_eq_any_beq]
      refine List.any_congr rfl fun other => ?_
      change (other == text) = (text == other)
      exact Bool.beq_comm
    rw [List.map_cons, distinct, known, List.cons_removeAll]
    cases seen.contains text with
    | true => exact ih seen
    | false =>
      have later := ih (text :: seen)
      rw [List.map_cons] at later
      have others : texts.removeAll (text :: seen) =
          (texts.removeAll seen).filter (fun other => !other == text) := by
        rw [List.removeAll, List.removeAll, List.filter_filter]
        refine List.filter_congr fun other _ => ?_
        rw [List.elem_cons]
        cases other == text <;> rfl
      simp [List.eraseDups_cons, later, others]

theorem axisValues_texts (texts : List String) :
    axisValues (texts.map .str) = .ok (texts.eraseDups.map .str) := by
  have kept := distinct_texts [] texts
  rw [List.removeAll_nil] at kept
  simp [axisValues, ← kept]
  rfl

theorem product_map {α β : Type} (f : α → β) (axes : List (List α)) :
    product (axes.map (·.map f)) = (product axes).map (·.map f) := by
  induction axes with
  | nil => rfl
  | cons axis axes ih => simp [product, ih, List.map_flatMap, List.flatMap_map, Function.comp_def]

theorem length_of_mem_product {α : Type} {axes : List (List α)} {values : List α}
    (inside : values ∈ product axes) : values.length = axes.length := by
  induction axes generalizing values with
  | nil => simp_all [product]
  | cons axis axes ih =>
    simp only [product, List.mem_flatMap, List.mem_map] at inside
    obtain ⟨a, -, rest, member, rfl⟩ := inside
    rw [List.length_cons, List.length_cons, ih member]

def Combo.ofTexts : List String → Combo
  | [tone, length, format] => ⟨tone, length, format⟩
  | _ => default

theorem comboOf_texts {texts : List String} (three : texts.length = 3) :
    comboOf (texts.map .str) = .ok (.ofTexts texts) := by
  match texts, three with
  | [_, _, _], _ => rfl

theorem mapM_comboOf {rows : List (List String)} (three : ∀ row ∈ rows, row.length = 3) :
    (rows.map (·.map Json.str)).mapM comboOf = .ok (rows.map .ofTexts) := by
  induction rows with
  | nil => rfl
  | cons row rows ih =>
    have later := ih fun row inside => three row (by simp [inside])
    rw [List.map_cons, List.mapM_cons, comboOf_texts (three row (by simp)), later]
    rfl

def TextAxes (config : Json) : Prop :=
  ∃ fields, config = .obj fields ∧
    ∀ name ∈ axisNames, ∃ texts : List String, axisOf fields name = some (texts.map .str)

theorem combos_of_axes {fields : Entries Json} {tones lengths formats : List String}
    (toneAxis : axisOf fields "tones" = some (tones.map .str))
    (lengthAxis : axisOf fields "lengths" = some (lengths.map .str))
    (formatAxis : axisOf fields "formats" = some (formats.map .str)) :
    combos (.obj fields) =
      .ok ((product [tones.eraseDups, lengths.eraseDups, formats.eraseDups]).map .ofTexts) := by
  have rows := product_map Json.str [tones.eraseDups, lengths.eraseDups, formats.eraseDups]
  have three : ∀ row ∈ product [tones.eraseDups, lengths.eraseDups, formats.eraseDups],
      row.length = 3 := fun row inside => length_of_mem_product inside
  have given : axisNames.mapM (axisOf fields) =
      some [tones.map .str, lengths.map .str, formats.map .str] := by
    simp [axisNames, toneAxis, lengthAxis, formatAxis]
  have kept : [tones.map Json.str, lengths.map .str, formats.map .str].mapM axisValues =
      .ok ([tones.eraseDups, lengths.eraseDups, formats.eraseDups].map (·.map .str)) := by
    simp only [List.mapM_cons, List.mapM_nil, axisValues_texts]
    rfl
  simp only [combos, given, kept]
  change (product ([tones.eraseDups, lengths.eraseDups, formats.eraseDups].map
    (·.map Json.str))).mapM comboOf = _
  rw [rows, mapM_comboOf three]

theorem combos_texts {config : Json} (axes : TextAxes config) :
    ∃ cells, combos config = .ok cells := by
  obtain ⟨fields, rfl, given⟩ := axes
  obtain ⟨tones, toneAxis⟩ := given "tones" (by decide)
  obtain ⟨lengths, lengthAxis⟩ := given "lengths" (by decide)
  obtain ⟨formats, formatAxis⟩ := given "formats" (by decide)
  exact ⟨_, combos_of_axes toneAxis lengthAxis formatAxis⟩

end PromptStudio
