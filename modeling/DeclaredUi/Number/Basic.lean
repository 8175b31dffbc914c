import DeclaredUi.Number.Shortest

/-! Numbers of documents and values: whole numbers of 64 bits and finite
doubles. The two kinds are never equal to each other. -/

namespace DeclaredUi

inductive Number where
  | integer (value : Int)
  | float (value : Binary64)
deriving DecidableEq, Repr, Inhabited

namespace Number

def beq : Number → Number → Bool
  | .integer a, .integer b => a == b
  | .float a, .float b => a == b
  | _, _ => false

instance : BEq Number := ⟨beq⟩

@[simp] theorem integer_beq (a b : Int) : (integer a == integer b) = (a == b) := rfl

@[simp] theorem float_beq (a b : Binary64) : (float a == float b) = (a == b) := rfl

@[simp] theorem integer_beq_float (a : Int) (b : Binary64) : (integer a == float b) = false := rfl

@[simp] theorem float_beq_integer (a : Binary64) (b : Int) : (float a == integer b) = false := rfl

/-- Whole numbers in decimal, doubles by their shortest digits. -/
def text : Number → String
  | .integer value => toString value
  | .float value => value.text

/-- The whole number of a sign and digits, if it fits 64 bits: unsigned, or
signed after a minus sign. Where zero has a sign, minus zero is not among them. -/
def integer? (signedZero negative : Bool) (value : Nat) : Option Int :=
  if negative then
    if (0 < value ∨ ¬signedZero) ∧ value ≤ 0x8000000000000000 then some (-value) else none
  else if value < 0x10000000000000000 then some value else none

/-- The number a literal stands for: its sign, its digits before the point and
after it, and its exponent. It is an integer when it is written with neither
point nor exponent and fits, and a double otherwise; none if the double would
not be finite. -/
def ofLiteral? (signedZero negative : Bool) (whole : List Char) (fraction : Option (List Char))
    (exponent : Option Int) : Option Number :=
  let integer := if fraction.isNone ∧ exponent.isNone then
      integer? signedZero negative (Nat.ofDigitChars 10 whole 0) else none
  match integer with
  | some value => some (.integer value)
  | none =>
    let after := fraction.getD []
    let digits := Nat.ofDigitChars 10 (whole ++ after) 0
    (Binary64.ofDecimal? negative digits (exponent.getD 0 - after.length)).map .float

end Number

end DeclaredUi
