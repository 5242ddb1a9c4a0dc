/-!
# Integers of 64 bits

The ranges of the integers that fit a word, with a sign and without.
-/

namespace DeclTree.Word

/-- Two to the power of 63. -/
def half : Nat := 9223372036854775808

/-- Two to the power of 64. -/
def size : Nat := 2 * half

/-- Whether an integer fits a word with a sign. -/
def isSigned (n : Int) : Bool := -(half : Int) ≤ n && n < half

/-- Whether an integer fits a word without a sign. -/
def isUnsigned (n : Int) : Bool := 0 ≤ n && n < size

/-- The integer, when it fits a word with a sign. -/
def signed? (n : Int) : Option Int := if isSigned n then some n else none

/-- The natural number, when the integer fits a word without a sign. -/
def unsigned? (n : Int) : Option Nat := if isUnsigned n then some n.toNat else none

theorem isSigned_iff (n : Int) :
    isSigned n = true ↔ -9223372036854775808 ≤ n ∧ n ≤ 9223372036854775807 := by
  unfold isSigned half
  rw [Bool.and_eq_true, decide_eq_true_iff, decide_eq_true_iff]
  omega

theorem isUnsigned_iff (n : Int) :
    isUnsigned n = true ↔ 0 ≤ n ∧ n ≤ 18446744073709551615 := by
  unfold isUnsigned size half
  rw [Bool.and_eq_true, decide_eq_true_iff, decide_eq_true_iff]
  omega

end DeclTree.Word
