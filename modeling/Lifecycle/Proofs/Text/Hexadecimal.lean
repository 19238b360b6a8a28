import Lifecycle.Text.Hex
import Mathlib.Algebra.Group.Nat.Defs

/-!
# Hexadecimal digits

Every value below sixteen has a digit, `Hex.value?` takes it back, and a number that fits its width
is spelled by its padded digits.
-/

namespace Lifecycle

namespace Text

namespace Hex

/-- A digit has the value that it was made of. -/
theorem value?_digit : ∀ value < 16, value? (digit value) = some value := by
  decide

theorem digit_ne_hyphen : ∀ value < 16, digit value ≠ '-' := by
  decide

@[simp]
theorem length_padded (width number : Nat) : (padded width number).length = width := by
  induction width generalizing number with
  | zero => rfl
  | succ width ih => simp [padded, ih]

theorem exists_digit_of_mem_padded {width number : Nat} {c : Char} (h : c ∈ padded width number) :
    ∃ value < 16, c = digit value := by
  induction width generalizing number with
  | zero => simp [padded] at h
  | succ width ih =>
    rcases List.mem_append.1 h with hleading | hlast
    · exact ih hleading
    · exact ⟨number % 16, Nat.mod_lt _ (by decide), List.mem_singleton.1 hlast⟩

/-- The padded digits of a number spell what of it fits the width. -/
theorem number?_padded (width number : Nat) :
    number? (padded width number) = some (number % 16 ^ width) := by
  induction width generalizing number with
  | zero => simp [padded, number?, Nat.mod_one]
  | succ width ih =>
    have hleading := ih (number / 16)
    rw [number?] at hleading
    rw [padded, number?, List.foldlM_append, hleading]
    have hlast : 16 * (number / 16 % 16 ^ width) + number % 16 = number % 16 ^ (width + 1) := by
      rw [Nat.pow_succ, Nat.mul_comm _ 16, Nat.mod_mul]
      omega
    simp [value?_digit _ (Nat.mod_lt number (by decide : 0 < 16)), hlast]

end Hex

end Text

end Lifecycle
