import DeclaredUi.Json.Basic

/-! References to values of an environment by dotted path. Only the parts
between the dots count: empty ones are skipped, so leading, trailing and doubled
dots change nothing. -/

namespace DeclaredUi

/-- A reference by path. The declaration is the map it was read from, `null` for
one built by hand. -/
structure Bind where
  path : String
  declaration : Json := .null
deriving Inhabited

namespace Bind

/-- The steps of a dotted path. -/
def segmentsOf (path : String) : List String :=
  ((path.toList.splitOn '.').filter (!·.isEmpty)).map String.ofList

def segments (bind : Bind) : List String := segmentsOf bind.path

/-- The first number that does not fit 64 bits. -/
def indexLimit : Nat := 0x10000000000000000

/-- The array index that a step denotes: ASCII digits, leading zeros allowed, of
a value that fits 64 bits. -/
def arrayIndex? (segment : String) : Option Nat :=
  let digits := segment.toList
  if digits.isEmpty ∨ ¬digits.all Char.isDigit then none
  else
    let index := Nat.ofDigitChars 10 digits 0
    if index < indexLimit then some index else none

/-- Equality of references, their declarations compared up to key order. -/
def beq (a b : Bind) : Bool :=
  a.path == b.path && a.declaration == b.declaration

instance : BEq Bind := ⟨beq⟩

end Bind

end DeclaredUi
