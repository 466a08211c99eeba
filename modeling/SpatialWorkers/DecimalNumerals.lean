import Mathlib.Data.BitVec
import Mathlib.Data.List.TakeWhile
import Mathlib.Tactic

/-!
# Decimal numerals and `atoi`

A numeral is a nonempty string of decimal digits. `atoi` reads more: it skips
white space, takes a sign, stops at the first character that is no digit, and
reads no digit at all as zero. What it returns when the value does not fit an
`int` is undefined, and a parameter here.
-/
namespace SpatialWorkers.DecimalNumerals

def digitValue (c : Char) : ℕ := c.toNat - '0'.toNat

def value (cs : List Char) : ℕ := cs.foldl (fun v c => 10 * v + digitValue c) 0

/-- The number that a string denotes, if it is a decimal numeral. -/
def numeral? (s : String) : Option ℕ :=
  if s.toList ≠ [] ∧ s.toList.all Char.isDigit = true then some (value s.toList) else none

/-- `isspace` in the C locale. -/
def isspace (c : Char) : Bool := c = ' ' || (9 ≤ c.toNat && c.toNat ≤ 13)

/-- The value of the digits that a sequence of characters starts with. -/
def leadingValue (cs : List Char) : ℕ := value (cs.takeWhile Char.isDigit)

/-- The integer that `atoi` reads, whether it fits an `int` or not. -/
def subjectValue (cs : List Char) : ℤ :=
  match cs.dropWhile isspace with
  | '-' :: cs => -leadingValue cs
  | '+' :: cs => leadingValue cs
  | cs => leadingValue cs

def INT_MIN : ℤ := -2 ^ 31
def INT_MAX : ℤ := 2 ^ 31 - 1

/-- `atoi`, given what it returns for values that do not fit. -/
def atoi (undefined : String → ℤ) (s : String) : ℤ :=
  let v := subjectValue s.toList
  if INT_MIN ≤ v ∧ v ≤ INT_MAX then v else undefined s

theorem numeral?_eq_some {s : String} {n : ℕ} :
    numeral? s = some n ↔
      s.toList ≠ [] ∧ (∀ c ∈ s.toList, c.isDigit = true) ∧ value s.toList = n := by
  rw [← List.all_eq_true, numeral?]
  split_ifs with hs
  · exact ⟨fun h => ⟨hs.1, hs.2, Option.some.inj h⟩, fun h => congrArg some h.2.2⟩
  · constructor
    · intro h
      cases h
    · rintro ⟨hne, hdigits, -⟩
      exact absurd ⟨hne, hdigits⟩ hs

/-- Digits are neither white space nor signs. -/
theorem digit_plain {c : Char} (h : c.isDigit = true) : isspace c = false ∧ c ≠ '-' ∧ c ≠ '+' := by
  have hbounds : 48 ≤ c.toNat ∧ c.toNat ≤ 57 := by
    simpa [Char.isDigit, UInt32.le_iff_toNat_le] using h
  refine ⟨?_, ?_, ?_⟩
  · have hspace : c ≠ ' ' := by
      rintro rfl
      simp at hbounds
    simp only [isspace, hspace, decide_false, Bool.false_or, Bool.and_eq_false_iff,
      decide_eq_false_iff_not]
    omega
  · rintro rfl
    simp at hbounds
  · rintro rfl
    simp at hbounds

/-- On a numeral `atoi` reads the number it denotes. -/
theorem subjectValue_numeral {s : String} {n : ℕ} (h : numeral? s = some n) :
    subjectValue s.toList = n := by
  obtain ⟨hne, hdigits, hvalue⟩ := numeral?_eq_some.mp h
  cases hs : s.toList with
  | nil => exact absurd hs hne
  | cons c cs =>
    rw [hs] at hdigits hvalue
    obtain ⟨hspace, hminus, hplus⟩ := digit_plain (hdigits c List.mem_cons_self)
    have hscan : (c :: cs).dropWhile isspace = c :: cs :=
      List.dropWhile_cons_of_neg (by simp [hspace])
    have hlead : leadingValue (c :: cs) = n := by
      rw [leadingValue, List.takeWhile_eq_self_iff.mpr hdigits, hvalue]
    unfold subjectValue
    rw [hscan]
    split
    · rename_i heq
      exact absurd (List.cons.inj heq).1 hminus
    · rename_i heq
      exact absurd (List.cons.inj heq).1 hplus
    · rw [hlead]

theorem atoi_numeral {undefined : String → ℤ} {s : String} {n : ℕ} (h : numeral? s = some n)
    (hn : (n : ℤ) ≤ INT_MAX) : atoi undefined s = n := by
  have hmin : INT_MIN ≤ (n : ℤ) := by
    unfold INT_MIN
    omega
  rw [atoi, subjectValue_numeral h]
  exact if_pos ⟨hmin, hn⟩

/-- Narrowed to `w` bits, an `int` numeral is reduced modulo `2 ^ w`. -/
theorem narrow_atoi {undefined : String → ℤ} {s : String} {n : ℕ} (w : ℕ)
    (h : numeral? s = some n) (hn : (n : ℤ) ≤ INT_MAX) :
    (BitVec.ofInt w (atoi undefined s)).toNat = n % 2 ^ w := by
  rw [atoi_numeral h hn, BitVec.ofInt_natCast, BitVec.toNat_ofNat]

end SpatialWorkers.DecimalNumerals
