import DeclaredUi.Number.Basic
import Mathlib.Data.List.Basic

/-! What numbers are written with: digits, a point, signs and the letter of an exponent.
None of it means anything to markup. -/

namespace DeclaredUi

/-- A digit, a point, a sign or the letter of an exponent. -/
def isNumeric (c : Char) : Bool := c.isDigit || ['.', '-', '+', 'e'].contains c

/-- A text of such characters alone. -/
def Numeric (text : String) : Prop := text.toList.all isNumeric = true

instance (text : String) : Decidable (Numeric text) :=
  inferInstanceAs (Decidable (text.toList.all isNumeric = true))

namespace Numeric

theorem append {a b : String} (ha : Numeric a) (hb : Numeric b) : Numeric (a ++ b) := by
  unfold Numeric
  rw [String.toList_append, List.all_append, ha, hb]
  rfl

theorem digits {text : List Char} (h : ∀ c ∈ text, c.isDigit) :
    Numeric (String.ofList text) := by
  unfold Numeric
  rw [String.toList_ofList, List.all_eq_true]
  intro c hc
  rw [isNumeric, h c hc]
  rfl

theorem part {text part : List Char} (h : ∀ c ∈ text, c.isDigit) (hsub : part ⊆ text) :
    Numeric (String.ofList part) :=
  digits fun c hc => h c (hsub hc)

theorem nat (value : Nat) : Numeric (toString value) := by
  rw [Nat.toString_eq_ofList_toDigits]
  exact digits fun c hc => Nat.isDigit_of_mem_toDigits (by decide) (by decide) hc

theorem int (value : Int) : Numeric (toString value) := by
  rw [Int.toString_eq_repr, Int.repr_eq_if]
  split
  · exact nat _
  · exact append (by decide) (nat _)

end Numeric

namespace Binary64

theorem numeric_positional {digits : List Char} (h : ∀ c ∈ digits, c.isDigit)
    (exponent leading : Int) : Numeric (positional digits exponent leading) := by
  have hzeros : ∀ count text, text.toList = List.replicate count '0' → Numeric text := by
    intro count text htext
    rw [← String.ofList_toList (s := text), htext]
    refine .digits fun c hc => ?_
    rw [List.eq_of_mem_replicate hc]
    rfl
  unfold positional
  split
  · exact ((Numeric.digits h).append (hzeros _ _ (toList_zeros _))).append (by decide)
  · split
    · exact ((Numeric.part h (List.take_subset _ _)).append (by decide)).append
        (.part h (List.drop_subset _ _))
    · have hstart : Numeric "0." := by decide
      exact (hstart.append (hzeros _ _ (toList_zeros _))).append (.digits h)

theorem numeric_scientific {digits : List Char} (h : ∀ c ∈ digits, c.isDigit) (leading : Int) :
    Numeric (scientific digits leading) := by
  have htake : Numeric (String.ofList (digits.take 1)) := .part h (List.take_subset _ _)
  have hpoint : Numeric (if (digits.drop 1).isEmpty then "" else
      "." ++ String.ofList (digits.drop 1)) := by
    split
    · decide
    · have hdot : Numeric "." := by decide
      exact hdot.append (.part h (List.drop_subset _ _))
  have hsign : Numeric (if leading < 0 then "-" else "+") := by
    split <;> decide
  exact (((htake.append hpoint).append (by decide)).append hsign).append (.nat _)

theorem numeric_text (x : Binary64) : Numeric x.text := by
  have hmagnitude : Numeric (magnitudeText x.units) := by
    have hdigits : ∀ c ∈ Nat.toDigits 10 (shortest x.units).digits, c.isDigit := by
      intro c hc
      exact Nat.isDigit_of_mem_toDigits (by decide) (by decide) hc
    unfold magnitudeText
    split
    · decide
    · dsimp only
      split
      · exact numeric_positional hdigits _ _
      · exact numeric_scientific hdigits _
  have hsign : Numeric (if x.negative then "-" else "") := by
    split <;> decide
  exact hsign.append hmagnitude

end Binary64

theorem Number.numeric_text (number : Number) : Numeric number.text := by
  cases number with
  | integer value => exact .int value
  | float value => exact value.numeric_text

end DeclaredUi
