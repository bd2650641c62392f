import PromptStudio.Json.Printer
import PromptStudio.Proofs.Json.Scalar
import PromptStudio.Proofs.Text.Digits

set_option autoImplicit false

namespace PromptStudio

namespace Json

theorem readNamed?_eq_none {text : List Char}
    (plain : ∀ c ∈ text, c.isDigit = true ∨ c = '-') : readNamed? text = none := by
  have letter : ∀ entry ∈ namedValues,
      entry.1.toList.any (fun c => !(c.isDigit || c == '-')) = true := by decide
  unfold readNamed?
  rw [List.findSome?_eq_none_iff]
  intro entry inside
  have absent : ¬(entry.1.toList.isPrefixOf text = true) := by
    intro start
    obtain ⟨c, member, other⟩ := List.any_eq_true.mp (letter entry inside)
    have own := plain c ((List.isPrefixOf_iff_prefix.mp start).subset member)
    simp_all
  simp [afterWord?, absent]

theorem unsignedNumber?_decimalDigits {n : Nat} (short : (decimalDigits n).length ≤ digitLimit)
    (negative : Bool) :
    unsignedNumber? negative (decimalDigits n) = some (.int (signed negative n), []) := by
  have digits : ∀ c ∈ decimalDigits n, c.isDigit = true := fun c => isDigit_of_mem_decimalDigits
  have whole : readWhole? (decimalDigits n) = some (decimalDigits n, []) := by
    rcases Nat.eq_zero_or_pos n with rfl | positive
    · rfl
    · rw [readWhole?_of_ne (head?_decimalDigits positive), List.takeWhile_eq_self_iff.mpr digits,
        List.dropWhile_eq_nil_iff.mpr digits]
      simp [decimalDigits]
  simp [unsignedNumber?, whole, readFraction, readPower, short, digitsValue_decimalDigits]

theorem readScalar?_intChars {n : Int} (short : (decimalDigits n.natAbs).length ≤ digitLimit) :
    readScalar? (intChars n) = some (.int n, []) := by
  have digit : ∀ c ∈ decimalDigits n.natAbs, c.isDigit = true := fun c =>
    isDigit_of_mem_decimalDigits
  have plain : ∀ c ∈ intChars n, c.isDigit = true ∨ c = '-' := by
    unfold intChars
    split
    next => simpa using fun c inside => Or.inl (digit c inside)
    next => exact fun c inside => Or.inl (digit c inside)
  rw [readScalar?, readNamed?_eq_none plain, Option.none_or, intChars]
  split
  next negative =>
    rw [readNumber?_negative, unsignedNumber?_decimalDigits short]
    have same : signed true n.natAbs = n := by simp only [signed, if_true]; omega
    rw [same]
  next positive =>
    have first : (decimalDigits n.natAbs).head? ≠ some '-' := by
      intro minus
      exact absurd (digit '-' (List.mem_of_head? minus)) (by decide)
    rw [readNumber?_unsigned first, unsignedNumber?_decimalDigits short]
    have same : signed false n.natAbs = n := by simp [signed]; omega
    rw [same]

theorem inNumber_figures (s : Scaled) : ∀ c ∈ s.figures, inNumber c = true := by
  intro c inside
  unfold Scaled.figures at inside
  split at inside
  next =>
    obtain rfl : c = '0' := by simpa using inside
    decide
  next =>
    have member : c ∈ decimalDigits s.digits := by
      have dropped := List.mem_reverse.mp inside
      exact List.mem_reverse.mp ((List.dropWhile_suffix _).subset dropped)
    exact inNumber_of_isDigit (isDigit_of_mem_decimalDigits member)

theorem inNumber_exponentText (e : Int) :
    ∀ c ∈ (Layout.exponentText e).toList, inNumber c = true := by
  intro c inside
  simp only [Layout.exponentText, String.toList_append, String.toList_ofList, List.mem_append]
    at inside
  rcases inside with (mark | padding) | digit
  · exact List.all_eq_true.mp (by split <;> decide) c mark
  · exact List.all_eq_true.mp (by split <;> decide) c padding
  · exact inNumber_of_isDigit (isDigit_of_mem_decimalDigits digit)

theorem inNumber_replicate (count : Nat) : ∀ c ∈ List.replicate count '0', inNumber c = true := by
  intro c inside
  rw [(List.mem_replicate.mp inside).2]
  decide

theorem inNumber_append {front back : List Char} (first : ∀ c ∈ front, inNumber c = true)
    (later : ∀ c ∈ back, inNumber c = true) : ∀ c ∈ front ++ back, inNumber c = true :=
  List.forall_mem_append.mpr ⟨first, later⟩

theorem inNumber_write (l : Layout) (mark : ∀ c ∈ l.wholeMark.toList, inNumber c = true)
    (s : Scaled) : ∀ c ∈ (l.write s).toList, inNumber c = true := by
  have figures := inNumber_figures s
  have point : ∀ c ∈ ".".toList, inNumber c = true := List.all_eq_true.mp (by decide)
  have start : ∀ c ∈ "0.".toList, inNumber c = true := List.all_eq_true.mp (by decide)
  have front (count : Nat) : ∀ c ∈ s.figures.take count, inNumber c = true :=
    fun c inside => figures c (List.mem_of_mem_take inside)
  have back (count : Nat) : ∀ c ∈ s.figures.drop count, inNumber c = true :=
    fun c inside => figures c (List.mem_of_mem_drop inside)
  unfold Layout.write
  simp only
  split
  next =>
    split
    next =>
      simp only [String.toList_append, String.toList_ofList]
      exact inNumber_append start (inNumber_append (inNumber_replicate _) figures)
    next =>
      split
      next =>
        simp only [String.toList_append, String.toList_ofList]
        exact inNumber_append (inNumber_append figures (inNumber_replicate _)) mark
      next =>
        simp only [String.toList_append, String.toList_ofList]
        exact inNumber_append (inNumber_append (front _) point) (back _)
  next =>
    simp only [String.toList_append, String.toList_ofList]
    refine inNumber_append (inNumber_append (front _) ?_) (inNumber_exponentText s.leading)
    split
    next => simp
    next =>
      simp only [String.toList_append, String.toList_ofList]
      exact inNumber_append point (back _)

theorem figures_ne_nil (s : Scaled) : s.figures ≠ [] := by
  unfold Scaled.figures
  split
  next => exact List.cons_ne_nil _ _
  next filled => exact filled

theorem write_ne_nil (l : Layout) (s : Scaled) : (l.write s).toList ≠ [] := by
  have figures := figures_ne_nil s
  unfold Layout.write
  simp only
  split
  next =>
    split
    next => simp
    next => split <;> simp [figures]
  next => simp [figures]

theorem jsonText_ne_nil (x : Binary64) : x.jsonText.toList ≠ [] := by
  have written := write_ne_nil Layout.json
  unfold Binary64.jsonText Layout.writeNumber
  split
  next => decide
  next negative => cases negative <;> decide
  next => decide
  next q =>
    split
    next => decide
    next => split <;> simp [written]

theorem inNumber_jsonText (x : Binary64) : ∀ c ∈ x.jsonText.toList, inNumber c = true := by
  have mark : ∀ c ∈ Layout.json.wholeMark.toList, inNumber c = true :=
    List.all_eq_true.mp (by decide)
  have written := inNumber_write Layout.json mark
  unfold Binary64.jsonText Layout.writeNumber
  split
  next => exact List.all_eq_true.mp (by decide)
  next negative => exact List.all_eq_true.mp (by cases negative <;> decide)
  next => exact List.all_eq_true.mp (by decide)
  next q =>
    split
    next => exact List.all_eq_true.mp (by decide)
    next =>
      split
      next =>
        intro c inside
        rcases List.mem_cons.mp (by simpa using inside) with rfl | later
        · decide
        · exact written _ c later
      next => exact written _

theorem readScalar?_jsonText {x : Binary64} (back : read? x.jsonText = some (.float x)) :
    readScalar? x.jsonText.toList = some (.float x, []) := by
  have number := inNumber_jsonText x
  rw [read?, readChars?] at back
  generalize x.jsonText.toList = text at back number ⊢
  rw [skipGap_of_inNumber number] at back
  cases text with
  | nil => exact nomatch (show none = some (float x) from back)
  | cons c text =>
    have whole := readValue?_scalar number (2 * (c :: text).length + 1) [] (by simp)
    rw [List.append_nil] at whole
    rw [whole] at back
    split at back
    next v rest found =>
      have suffix := readScalar?_suffix found
      rw [skipGap_of_inNumber fun c inside => number c (suffix.subset inside)] at back
      split at back
      next empty =>
        injection back with same
        rw [found, same, List.isEmpty_iff.mp empty]
      next => simp at back
    next => simp at back

end Json

end PromptStudio
