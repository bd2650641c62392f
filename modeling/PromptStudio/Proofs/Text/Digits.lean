import Mathlib.Data.List.Induction
import Mathlib.Data.Nat.Digits.Defs
import PromptStudio.Text.Numeral

set_option autoImplicit false

namespace PromptStudio

theorem asciiDigit?_digitChar {n : Nat} (small : n < 10) : asciiDigit? (Nat.digitChar n) = some n := by
  simp [asciiDigit?, small, Nat.toNat_digitChar_of_lt_ten small]

theorem asciiDigit?_lt {c : Char} {digit : Nat} (read : asciiDigit? c = some digit) : digit < 10 := by
  unfold asciiDigit? at read
  split at read
  next figure =>
    cases read
    have last : c.toNat ≤ '9'.toNat := by
      simp only [Char.isDigit, Bool.and_eq_true, decide_eq_true_eq] at figure
      exact figure.2
    have : '9'.toNat = 57 := rfl
    omega
  next => cases read

theorem digitsValue_append (digits : List Nat) (digit : Nat) :
    digitsValue (digits ++ [digit]) = 10 * digitsValue digits + digit := by
  simp [digitsValue]

theorem digitsValue_lt {digits : List Nat} (small : ∀ digit ∈ digits, digit < 10) :
    digitsValue digits < 10 ^ digits.length := by
  induction digits using List.reverseRecOn with
  | nil => exact Nat.one_pos
  | append_singleton front last ih =>
    have before := ih fun digit inside => small digit (List.mem_append_left _ inside)
    have figure := small last (by simp)
    rw [digitsValue_append, List.length_append, List.length_singleton, Nat.pow_succ]
    omega

theorem digitsValue_decimalDigits (n : Nat) :
    digitsValue ((decimalDigits n).filterMap asciiDigit?) = n := by
  induction n using Nat.strongRecOn with
  | ind n ih =>
    rw [decimalDigits, Nat.toDigits_eq_if (by decide)]
    split
    next small => simp [asciiDigit?_digitChar small, digitsValue]
    next large =>
      have last := asciiDigit?_digitChar (Nat.mod_lt n (show 0 < 10 by decide))
      have front := ih (n / 10) (by omega)
      rw [decimalDigits] at front
      rw [List.filterMap_append, List.filterMap_cons, last, List.filterMap_nil, digitsValue_append,
        front]
      omega

theorem isDigit_of_mem_decimalDigits {n : Nat} {c : Char} (inside : c ∈ decimalDigits n) :
    c.isDigit = true :=
  Nat.isDigit_of_mem_toDigits (by decide) (by decide) inside

theorem head?_decimalDigits {n : Nat} (positive : 0 < n) : (decimalDigits n).head? ≠ some '0' := by
  induction n using Nat.strongRecOn with
  | ind n ih =>
    rw [decimalDigits, Nat.toDigits_eq_if (by decide)]
    split
    next => simpa using Nat.ne_of_gt positive
    next large =>
      have front := ih (n / 10) (by omega) (by omega)
      rw [decimalDigits] at front
      rw [List.head?_append]
      cases first : (Nat.toDigits 10 (n / 10)).head? with
      | none => simp [List.head?_eq_none_iff] at first
      | some c => simpa [first] using front

end PromptStudio
