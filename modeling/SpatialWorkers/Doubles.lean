import Mathlib.Data.BitVec
import Mathlib.Tactic

/-!
# Doubles as bits

A `double` is kept as its 64 bits: what is written to an object is read back
bit by bit, and the comparisons are those of the standard, in which a value that
is not a number is neither below nor equal to any other.
-/
namespace SpatialWorkers.Doubles

/-- The bits of a `double`. -/
abbrev Double := BitVec 64

namespace Double

def infinity : Double := 0x7FF0000000000000

/-- The bits without the sign; numbers of one sign are ordered by them. -/
def magnitude (x : Double) : ℕ := x.toNat % 2 ^ 63

def isNaN (x : Double) : Bool := infinity.toNat < x.magnitude

/-- The place of a number in the order of the numbers; both zeros have the same. -/
def rank (x : Double) : ℤ := if x.msb then -x.magnitude else x.magnitude

/-- `x <= y`, which is false when one of them is not a number. -/
def le (x y : Double) : Bool := !x.isNaN && !y.isNaN && x.rank ≤ y.rank

/-- `x == y`. -/
def eq (x y : Double) : Bool := !x.isNaN && !y.isNaN && x.rank = y.rank

/-- An `int` that is converted, without rounding as long as it is below `2 ^ 53`:
the exponent is that of its leading bit, and the bits behind that are kept. -/
def ofNat (n : ℕ) : Double :=
  if n = 0 then 0
  else BitVec.ofNat 64 ((1023 + n.log2) * 2 ^ 52 + (n - 2 ^ n.log2) * 2 ^ (52 - n.log2))

example : ofNat 5 = 0x4014000000000000 := by decide

theorem isNaN_infinity : infinity.isNaN = false := by decide

theorem rank_infinity : infinity.rank = infinity.toNat := by decide

theorem le_infinity {x : Double} (h : x.isNaN = false) : x.le infinity = true := by
  have hmagnitude : x.magnitude ≤ infinity.toNat := by simpa [isNaN] using h
  have hrank : x.rank ≤ infinity.rank := by
    rw [rank_infinity, rank]
    split_ifs <;> omega
  rw [le, h, isNaN_infinity, decide_eq_true hrank]
  rfl

theorem le_of_eq_infinity {x y : Double} (h : y.eq infinity = true) : x.le y = x.le infinity := by
  simp only [eq, Bool.and_eq_true, Bool.not_eq_true', decide_eq_true_eq] at h
  obtain ⟨⟨hy, hinfinity⟩, hrank⟩ := h
  rw [le, le, hy, hinfinity, hrank]

end Double

end SpatialWorkers.Doubles
