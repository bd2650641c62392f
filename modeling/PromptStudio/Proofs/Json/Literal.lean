import PromptStudio.Json.Printer
import PromptStudio.Json.Reader

set_option autoImplicit false

namespace PromptStudio.Json

theorem hexValue?_hexDigit : ∀ n < 16, hexValue? (hexDigit n) = some n := by decide

theorem readUnit?_hexText {n : Nat} (bound : n < 65536) (rest : List Char) :
    readUnit? (hexText 4 n ++ rest) = some (n, rest) := by
  have digits : hexText 4 n = [hexDigit (n / 16 / 16 / 16 % 16), hexDigit (n / 16 / 16 % 16),
      hexDigit (n / 16 % 16), hexDigit (n % 16)] := rfl
  have value (k : Nat) : hexValue? (hexDigit (k % 16)) = some (k % 16) :=
    hexValue?_hexDigit (k % 16) (Nat.mod_lt k (by decide))
  have joined : 16 * (16 * (16 * (16 * 0 + n / 16 / 16 / 16 % 16) + n / 16 / 16 % 16) + n / 16 % 16) +
      n % 16 = n := by omega
  simp only [digits, List.cons_append, List.nil_append, readUnit?, List.mapM_cons, value,
    List.mapM_nil, Option.pure_def, Option.bind_eq_bind, Option.bind_some, List.foldl_cons,
    List.foldl_nil, joined]

theorem isSurrogate_false {c : Char} : isHighUnit c.toNat = false ∧ isLowUnit c.toNat = false := by
  have valid := c.valid
  simp only [UInt32.isValidChar, Nat.isValidChar, Char.toNat, isHighUnit, isLowUnit] at valid ⊢
  grind

theorem unitChar_toNat (c : Char) : unitChar c.toNat = c := by
  simp [unitChar, isSurrogate_false]

theorem readPiece?_unitEscape {c : Char} (bound : c.toNat < 65536) (rest : List Char) :
    readPiece? (unitEscape c.toNat ++ rest) = some (.char c rest) := by
  simp only [unitEscape, List.cons_append, readPiece?, readUnit?_hexText bound rest,
    Option.bind_eq_bind, Option.bind_some, isSurrogate_false, unitChar_toNat]
  split <;> simp_all

theorem readPiece?_pair {high low : Nat} (isHigh : isHighUnit high = true)
    (isLow : isLowUnit low = true) (rest : List Char) :
    readPiece? (unitEscape high ++ unitEscape low ++ rest) =
      some (.char (joinUnits high low) rest) := by
  have highBound : high < 65536 := by
    simp only [isHighUnit, Bool.and_eq_true, decide_eq_true_eq] at isHigh
    omega
  have lowBound : low < 65536 := by
    simp only [isLowUnit, Bool.and_eq_true, decide_eq_true_eq] at isLow
    omega
  simp only [unitEscape, List.cons_append, List.append_assoc, readPiece?,
    readUnit?_hexText highBound, readUnit?_hexText lowBound, Option.bind_eq_bind, Option.bind_some,
    isHigh, isLow, if_true]

theorem readPiece?_escapeWide (c : Char) (rest : List Char) :
    readPiece? (escapeWide c ++ rest) = some (.char c rest) := by
  unfold escapeWide
  split
  next bound => exact readPiece?_unitEscape bound rest
  next wide =>
    have last : c.toNat < 0x110000 := by
      have valid := c.valid
      simp only [UInt32.isValidChar, Nat.isValidChar] at valid
      simp only [Char.toNat]
      omega
    have isHigh : isHighUnit (0xD800 + (c.toNat - 0x10000) / 1024) = true := by
      simp only [isHighUnit, Bool.and_eq_true, decide_eq_true_eq]
      omega
    have isLow : isLowUnit (0xDC00 + (c.toNat - 0x10000) % 1024) = true := by
      simp only [isLowUnit, Bool.and_eq_true, decide_eq_true_eq]
      omega
    have joined : 0x10000 + (0xD800 + (c.toNat - 0x10000) / 1024 - 0xD800) * 1024 +
        (0xDC00 + (c.toNat - 0x10000) % 1024 - 0xDC00) = c.toNat := by omega
    rw [readPiece?_pair isHigh isLow, joinUnits, joined, Char.ofNat_toNat]

theorem readPiece?_plain {c : Char} (quote : c ≠ '"') (backslash : c ≠ '\\')
    (visible : ¬c.toNat < 32) (rest : List Char) :
    readPiece? (c :: rest) = some (.char c rest) := by
  unfold readPiece?
  split <;> simp_all

theorem eq_ofNat {c : Char} {n : Nat} (same : (c.toNat == n) = true) : c = Char.ofNat n := by
  rw [← beq_iff_eq.mp same, Char.ofNat_toNat]

def escapeMarks : List (Char × Char) :=
  [('"', '"'), ('\\', '\\'), ('\n', 'n'), ('\r', 'r'), ('\t', 't'), (Char.ofNat 8, 'b'),
    (Char.ofNat 12, 'f')]

/-- What a character is written as: by its mark, by its code units, or as it is. -/
inductive Escapes (c : Char) : List Char → Prop where
  | marked {mark : Char} (own : (c, mark) ∈ escapeMarks) : Escapes c ['\\', mark]
  | units : Escapes c (escapeWide c)
  | plain (quote : c ≠ '"') (backslash : c ≠ '\\') (visible : ¬c.toNat < 32) : Escapes c [c]

theorem escapes_escapeChar (ascii : Bool) (c : Char) : Escapes c (escapeChar ascii c) := by
  unfold escapeChar
  split
  next same => exact .marked (by rw [beq_iff_eq.mp same]; decide)
  next quote =>
    split
    next same => exact .marked (by rw [beq_iff_eq.mp same]; decide)
    next backslash =>
      split
      next same => exact .marked (beq_iff_eq.mp same ▸ by decide)
      split
      next same => exact .marked (beq_iff_eq.mp same ▸ by decide)
      split
      next same => exact .marked (beq_iff_eq.mp same ▸ by decide)
      split
      next same => exact .marked (eq_ofNat same ▸ by decide)
      split
      next same => exact .marked (eq_ofNat same ▸ by decide)
      split
      next control =>
        have narrow : escapeWide c = unitEscape c.toNat := if_pos (by omega)
        exact narrow ▸ .units
      next visible =>
        split
        next => exact .units
        next => exact .plain (quote ∘ beq_iff_eq.mpr) (backslash ∘ beq_iff_eq.mpr) visible

theorem readPiece?_escapes {c : Char} {text : List Char} (escapes : Escapes c text)
    (rest : List Char) : readPiece? (text ++ rest) = some (.char c rest) := by
  cases escapes with
  | marked own =>
    simp only [escapeMarks, List.mem_cons, Prod.mk.injEq, List.not_mem_nil, or_false] at own
    rcases own with ⟨rfl, rfl⟩ | ⟨rfl, rfl⟩ | ⟨rfl, rfl⟩ | ⟨rfl, rfl⟩ | ⟨rfl, rfl⟩ | ⟨rfl, rfl⟩ |
      ⟨rfl, rfl⟩ <;> rfl
  | units => exact readPiece?_escapeWide c rest
  | plain quote backslash visible => exact readPiece?_plain quote backslash visible rest

theorem readPiece?_escapeChar (ascii : Bool) (c : Char) (rest : List Char) :
    readPiece? (escapeChar ascii c ++ rest) = some (.char c rest) :=
  readPiece?_escapes (escapes_escapeChar ascii c) rest

theorem readString?_literal (ascii : Bool) (text rest : List Char) {fuel : Nat}
    (enough : text.length < fuel) :
    readString? fuel (text.flatMap (escapeChar ascii) ++ '"' :: rest) = some (text, rest) := by
  induction text generalizing fuel with
  | nil =>
    cases fuel with
    | zero => simp at enough
    | succ fuel => rfl
  | cons c text ih =>
    cases fuel with
    | zero => simp at enough
    | succ fuel =>
      have shorter : text.length < fuel := by simpa using enough
      rw [List.flatMap_cons, List.append_assoc, readString?, readPiece?_escapeChar]
      simp only [ih shorter]

theorem escapeChar_ne_nil (ascii : Bool) (c : Char) : escapeChar ascii c ≠ [] := by
  intro empty
  have read := readPiece?_escapeChar ascii c []
  rw [empty] at read
  simp [readPiece?] at read

theorem length_le_escaped (ascii : Bool) (text : List Char) :
    text.length ≤ (text.flatMap (escapeChar ascii)).length := by
  induction text with
  | nil => simp
  | cons c text ih =>
    have positive := List.length_pos_iff.mpr (escapeChar_ne_nil ascii c)
    simp only [List.flatMap_cons, List.length_append, List.length_cons]
    omega

theorem readString?_closed (ascii : Bool) (text rest : List Char) :
    readString? ((text.flatMap (escapeChar ascii) ++ '"' :: rest).length + 1)
        (text.flatMap (escapeChar ascii) ++ '"' :: rest) = some (text, rest) := by
  have shorter := length_le_escaped ascii text
  apply readString?_literal ascii text rest
  rw [List.length_append]
  omega

end PromptStudio.Json
