import DeclaredUi.Number.Binary64

/-! The fewest decimal digits that read back as a given double, and the text
written from them. For one digit, two digits and so on, the two points of that
decimal grid around the value are tried in exact arithmetic; the first grid
with a point that rounds to the value wins, and of two such points the nearer,
an exact tie going to the even one. -/

namespace DeclaredUi

structure Decimal where
  digits : Nat
  exponent : Int
deriving DecidableEq, Repr, Inhabited

namespace Binary64

/-- Position of the leading decimal digit of a positive magnitude: `x` when it
lies in `[10^x, 10^(x+1))`. Scaled by `10^400` no magnitude is below one. -/
def leadingPlace (units : Nat) : Int :=
  (Nat.toDigits 10 (units * Nat.pow 10 400 / unitsPerOne)).length - 401

/-- The interval of magnitudes that round to `units`, in half units; the ends
belong to it when the significand is even. -/
structure RoundingInterval where
  low : Nat
  high : Nat
  closed : Bool

/-- The gap below a power of two is half the gap above it, except among the
smallest doubles. -/
def roundingInterval (units : Nat) : RoundingInterval :=
  let gap := gapExponent units
  let below := if 0 < gap ∧ units = Nat.pow 2 (gap + 52) then gap - 1 else gap
  ⟨2 * units - Nat.pow 2 below, 2 * units + Nat.pow 2 gap, units / Nat.pow 2 gap % 2 == 0⟩

/-- Whether `point / scale` half units lie in the interval. -/
def RoundingInterval.contains (interval : RoundingInterval) (point scale : Nat) : Bool :=
  let low := interval.low * scale
  let high := interval.high * scale
  if interval.closed then low ≤ point && point ≤ high else low < point && point < high

/-- The point of the grid `10^place` that reads back as `units`, if its two
points around the value hold one. Half units are scaled by `10^(-place)` where
the place is negative, so that all is whole. -/
def gridPoint? (units : Nat) (place : Int) : Option Nat :=
  let scale := Nat.pow 10 (-place).toNat
  let step := 2 * unitsPerOne * Nat.pow 10 place.toNat
  let value := 2 * units * scale
  let interval := roundingInterval units
  let below := value / step
  let above := below + 1
  let short := value - below * step
  let beyond := above * step - value
  match interval.contains (below * step) scale, interval.contains (above * step) scale with
  | true, false => some below
  | false, true => some above
  | true, true =>
    if short < beyond then some below
    else if beyond < short then some above
    else some (below + below % 2)
  | false, false => none

/-- Drops the trailing zeros of the digits; the second argument bounds how many
there may be. -/
def trimZeros (digits : Nat) (exponent : Int) : Nat → Decimal
  | 0 => ⟨digits, exponent⟩
  | bound + 1 =>
    if digits % 10 = 0 then trimZeros (digits / 10) (exponent + 1) bound else ⟨digits, exponent⟩

/-- The shortest decimal that reads back as the positive magnitude `units`.
Seventeen digits always suffice. -/
def shortest (units : Nat) : Decimal :=
  let leading := leadingPlace units
  let found := (List.range 17).findSome? fun (further : Nat) =>
    let place := leading - further
    (gridPoint? units place).map fun point => trimZeros point place 17
  found.getD ⟨0, 0⟩

/-- How the digits of a number are laid out. -/
structure Layout where
  /-- Least place of the leading digit that is written positionally. -/
  lowest : Int
  /-- Greatest place of the leading digit that is written positionally. -/
  highest : Int

/-- Numbers from `10⁻⁵` up to `10¹⁶` are written positionally, others with an
exponent. -/
def layout : Layout := ⟨-5, 15⟩

private def zeros (count : Nat) : String := String.ofList (List.replicate count '0')

@[simp] theorem toList_zeros (count : Nat) :
    (zeros count).toList = List.replicate count '0' := by
  simp [zeros]

/-- Positional text: always a point, and a digit on both sides of it. -/
def positional (digits : List Char) (exponent leading : Int) : String :=
  if 0 ≤ exponent then String.ofList digits ++ zeros exponent.toNat ++ ".0"
  else if 0 ≤ leading then
    let whole := leading.toNat + 1
    String.ofList (digits.take whole) ++ "." ++ String.ofList (digits.drop whole)
  else "0." ++ zeros (-leading - 1).toNat ++ String.ofList digits

/-- Text with an exponent: a point only if more than one digit is written, and
the sign of the exponent always. -/
def scientific (digits : List Char) (leading : Int) : String :=
  let fraction := digits.drop 1
  let point := if fraction.isEmpty then "" else "." ++ String.ofList fraction
  let sign := if leading < 0 then "-" else "+"
  String.ofList (digits.take 1) ++ point ++ "e" ++ sign ++ toString leading.natAbs

def magnitudeText (units : Nat) : String :=
  if units = 0 then "0.0"
  else
    let decimal := shortest units
    let digits := Nat.toDigits 10 decimal.digits
    let leading := digits.length - 1 + decimal.exponent
    if layout.lowest ≤ leading ∧ leading ≤ layout.highest then
      positional digits decimal.exponent leading
    else scientific digits leading

def text (x : Binary64) : String :=
  (if x.negative then "-" else "") ++ magnitudeText x.units

end Binary64

end DeclaredUi
