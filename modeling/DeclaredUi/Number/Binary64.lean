/-! Finite double-precision numbers, exactly. Every finite double is a whole
multiple of the smallest positive one, `2⁻¹⁰⁷⁴`, so a sign and that multiple
describe it without rounding. `Binary64.ofDecimal?` finds the double nearest to
a decimal, a half going to the even neighbour. -/

namespace DeclaredUi

/-- A finite double: a sign and a magnitude counted in units of `2⁻¹⁰⁷⁴`. -/
structure Binary64 where
  negative : Bool
  units : Nat
deriving DecidableEq, Repr, Inhabited

namespace Binary64

def unitsPerOne : Nat := Nat.pow 2 1074

/-- Binary exponent of the gap between a magnitude and the next double above:
doubles carry 53 significant bits, and none are closer than one unit. -/
def gapExponent (units : Nat) : Nat := units.log2 - 52

/-- The quotient to the nearest whole number, a half going to the even one. -/
def roundDiv (num den : Nat) : Nat :=
  let quotient := num / den
  let remainder := num % den
  if 2 * remainder < den then quotient
  else if den < 2 * remainder then quotient + 1
  else quotient + quotient % 2

/-- Magnitude, in units, of the double nearest to `num / den`. -/
def nearestUnits (num den : Nat) : Nat :=
  let gap := Nat.pow 2 (gapExponent (num * unitsPerOne / den))
  roundDiv (num * unitsPerOne) (den * gap) * gap

/-- Magnitudes from here on are too large to be finite. -/
def overflow : Nat := Nat.pow 2 1024 * unitsPerOne

/-- The double nearest to `digits · 10^exponent`, with the given sign; none if
the nearest is not finite. Exponents that settle the answer by themselves are
decided before any power of ten is formed. -/
def ofDecimal? (negative : Bool) (digits : Nat) (exponent : Int) : Option Binary64 :=
  let magnitude : Int := (Nat.toDigits 10 digits).length + exponent
  if digits = 0 ∨ magnitude < -400 then some ⟨negative, 0⟩
  else if 400 < magnitude then none
  else
    let units :=
      if 0 ≤ exponent then nearestUnits (digits * Nat.pow 10 exponent.toNat) 1
      else nearestUnits digits (Nat.pow 10 (-exponent).toNat)
    if units < overflow then some ⟨negative, units⟩ else none

/-- Equality of the numbers: the two zeros are equal, other numbers need equal
signs. -/
def beq (a b : Binary64) : Bool :=
  a.units == b.units && (a.units == 0 || a.negative == b.negative)

instance : BEq Binary64 := ⟨beq⟩

theorem beq_iff {a b : Binary64} :
    (a == b) = true ↔ a.units = b.units ∧ (a.units = 0 ∨ a.negative = b.negative) := by
  change beq a b = true ↔ _
  simp [beq]

example : ofDecimal? false 1 0 = some ⟨false, unitsPerOne⟩ := by decide +kernel
example : ofDecimal? false 5 (-324) = some ⟨false, 1⟩ := by decide +kernel
example : ofDecimal? false 2 (-324) = some ⟨false, 0⟩ := by decide +kernel
example : ofDecimal? true 0 0 = some ⟨true, 0⟩ := by decide +kernel
example : ofDecimal? false 18 307 = none := by decide +kernel

end Binary64

end DeclaredUi
