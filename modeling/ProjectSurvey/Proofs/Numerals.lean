import Mathlib.Algebra.Group.Nat.Defs
import ProjectSurvey.Text.Basic

/-! Numbers written in digits and read back: decimal ones without zeros in front, and hexadecimal ones
that are filled up to a fixed width. -/

namespace ProjectSurvey

theorem isDecimalDigit_of_isDigit {c : Char} (digit : c.isDigit = true) : isDecimalDigit c = true := by
  simp only [Char.isDigit, Bool.and_eq_true, decide_eq_true_eq, ge_iff_le] at digit
  simp only [isDecimalDigit, Bool.and_eq_true, decide_eq_true_eq]
  exact digit

theorem isDecimalDigit_of_mem {n : Nat} {c : Char} (member : c ∈ Nat.toDigits 10 n) :
    isDecimalDigit c = true :=
  isDecimalDigit_of_isDigit (Nat.isDigit_of_mem_toDigits (by decide) (by decide) member)

theorem mem_toDigits {base n : Nat} (large : 1 < base) {c : Char} (member : c ∈ Nat.toDigits base n) :
    ∃ digit < base, c = Nat.digitChar digit := by
  induction n using Nat.strongRecOn with
  | ind n ih =>
    rw [Nat.toDigits_eq_if large] at member
    split at member
    · next small => exact ⟨n, small, by simpa using member⟩
    · next reached =>
      rcases List.mem_append.mp member with front | last
      · exact ih (n / base) (Nat.div_lt_self (by omega) large) front
      · exact ⟨n % base, Nat.mod_lt _ (by omega), by simpa using last⟩

private theorem decimal_digitChar : ∀ digit < 10, (Nat.digitChar digit).toNat - '0'.toNat = digit := by
  decide

private theorem hexadecimal_digitChar :
    ∀ digit < 16, hexadecimalDigit? (Nat.digitChar digit) = some digit := by
  decide

theorem decimalValue_append (digits : Text) (digit : Char) :
    decimalValue (digits ++ [digit]) = 10 * decimalValue digits + (digit.toNat - '0'.toNat) := by
  simp only [decimalValue, List.foldl_append, List.foldl_cons, List.foldl_nil]

theorem decimalValue_toDigits (n : Nat) : decimalValue (Nat.toDigits 10 n) = n := by
  induction n using Nat.strongRecOn with
  | ind n ih =>
    rw [Nat.toDigits_eq_if (by decide)]
    split
    · next small => simpa [decimalValue] using decimal_digitChar n small
    · next large =>
      rw [decimalValue_append, ih (n / 10) (by omega), decimal_digitChar (n % 10) (by omega)]
      omega

theorem head_toDigits {n : Nat} (positive : 0 < n) : (Nat.toDigits 10 n).head? ≠ some '0' := by
  induction n using Nat.strongRecOn with
  | ind n ih =>
    rw [Nat.toDigits_eq_if (by decide)]
    split
    · next small =>
      have nonzero : ∀ digit < 10, 0 < digit → Nat.digitChar digit ≠ '0' := by decide
      simpa using nonzero n small positive
    · next large =>
      have front := ih (n / 10) (by omega) (by omega)
      cases digits : Nat.toDigits 10 (n / 10) with
      | nil => exact False.elim (Nat.toDigits_ne_nil digits)
      | cons first rest => rw [digits] at front; exact front

theorem hexadecimalValue_toDigits (n : Nat) : hexadecimalValue? (Nat.toDigits 16 n) = some n := by
  induction n using Nat.strongRecOn with
  | ind n ih =>
    rw [Nat.toDigits_eq_if (by decide)]
    split
    · next small => simp [hexadecimalValue?, hexadecimal_digitChar n small]
    · next large =>
      have front := ih (n / 16) (by omega)
      simp only [hexadecimalValue?] at front
      simp only [hexadecimalValue?, List.foldlM_append, front, List.foldlM_cons, List.foldlM_nil,
        hexadecimal_digitChar (n % 16) (by omega)]
      simp only [bind, Option.bind, Option.map, pure]
      congr 1
      omega

/-- A number below the power of the base has so many digits when it is filled up with zeros. -/
theorem length_padded {base width n : Nat} (large : 1 < base) (some : 0 < width)
    (fits : n < base ^ width) : (Text.padded base width n).length = width := by
  have short := (Nat.length_toDigits_le_iff large some).mpr fits
  simp only [Text.padded, List.length_append, List.length_replicate]
  omega

theorem hexadecimalValue_padded (width n : Nat) :
    hexadecimalValue? (Text.padded 16 width n) = some n := by
  have zeros (count : Nat) (digits : Text) :
      hexadecimalValue? (List.replicate count '0' ++ digits) = hexadecimalValue? digits := by
    induction count with
    | zero => rfl
    | succ count ih =>
      rw [List.replicate_succ, List.cons_append, ← ih]
      rfl
  rw [Text.padded, zeros, hexadecimalValue_toDigits]

end ProjectSurvey
