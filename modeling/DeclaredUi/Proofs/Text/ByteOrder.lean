import Mathlib.Data.String.Basic
import Mathlib.Data.List.Lex

/-! Texts in order of the bytes that they are encoded by. A character that comes first has the
smaller byte where the encodings of the two first differ, and neither encoding begins with the
other, so texts that are in order by their characters are in order by their bytes. -/

namespace DeclaredUi

namespace Utf8

/-- The bytes that encode a text. -/
def bytes (text : String) : List UInt8 := text.toUTF8.data.toList

theorem bytes_eq_flatMap (text : String) :
    bytes text = text.toList.flatMap String.utf8EncodeChar := by
  rw [bytes, String.toUTF8_eq_toByteArray, ← String.utf8Encode_toList]
  exact List.toList_data_toByteArray

/-- Two lists differ somewhere, and where they first do, one has the smaller byte. -/
inductive Below : List UInt8 → List UInt8 → Prop
  | here {byte other : UInt8} {rest others : List UInt8} : byte < other →
      Below (byte :: rest) (other :: others)
  | later {byte : UInt8} {rest others : List UInt8} : Below rest others →
      Below (byte :: rest) (byte :: others)

/-- Whatever follows, the order is settled. -/
theorem Below.append_lt_append {before others : List UInt8} (h : Below before others)
    (after afterwards : List UInt8) : before ++ after < others ++ afterwards := by
  induction h with
  | here hlt => exact .rel hlt
  | later _ ih => exact .cons ih

theorem below_of_lt {byte other : Nat} {rest others : List UInt8} (hother : other < 256)
    (hlt : byte < other) : Below (UInt8.ofNat byte :: rest) (UInt8.ofNat other :: others) := by
  refine .here ?_
  rw [UInt8.lt_iff_toNat_lt, UInt8.toNat_ofNat', UInt8.toNat_ofNat']
  omega

/-- The first bytes are in order, and if they are equal the rest decides. -/
theorem below_cons {byte other : Nat} {rest others : List UInt8} (hother : other < 256)
    (hle : byte ≤ other) (hrest : byte = other → Below rest others) :
    Below (UInt8.ofNat byte :: rest) (UInt8.ofNat other :: others) := by
  rcases Nat.lt_or_eq_of_le hle with hlt | rfl
  · exact below_of_lt hother hlt
  · exact .later (hrest rfl)

/-- The encodings of two characters are in the order of the characters. A longer encoding
starts with the larger byte, and in encodings of one length the first digit to differ, counting
in base 64, decides. -/
theorem utf8EncodeChar_below {c d : Char} (h : c < d) :
    Below (String.utf8EncodeChar c) (String.utf8EncodeChar d) := by
  have hlt : c.val.toNat < d.val.toNat := h
  have hmax : d.val.toNat < 0x110000 := by
    have hvalid : d.val.isValidChar := d.valid
    unfold UInt32.isValidChar Nat.isValidChar at hvalid
    omega
  unfold String.utf8EncodeChar
  generalize c.val.toNat = v, d.val.toNat = w at hlt hmax
  dsimp only
  split
  case isTrue hone =>
    split
    · exact below_of_lt (by omega) (by omega)
    · split
      · exact below_of_lt (by omega) (by omega)
      · split <;> exact below_of_lt (by omega) (by omega)
  case isFalse hmore =>
    rw [if_neg (by omega : ¬w ≤ 0x7f)]
    split
    case isTrue htwo =>
      split
      · refine below_cons (by omega) (by omega) fun _ => ?_
        exact below_of_lt (by omega) (by omega)
      · split <;> exact below_of_lt (by omega) (by omega)
    case isFalse hmore' =>
      rw [if_neg (by omega : ¬w ≤ 0x7ff)]
      split
      case isTrue hthree =>
        split
        · refine below_cons (by omega) (by omega) fun _ => ?_
          refine below_cons (by omega) (by omega) fun _ => ?_
          exact below_of_lt (by omega) (by omega)
        · exact below_of_lt (by omega) (by omega)
      case isFalse hfour =>
        rw [if_neg (by omega : ¬w ≤ 0xffff)]
        refine below_cons (by omega) (by omega) fun _ => ?_
        refine below_cons (by omega) (by omega) fun _ => ?_
        refine below_cons (by omega) (by omega) fun _ => ?_
        exact below_of_lt (by omega) (by omega)

/-- Texts in order by their characters are in order by their bytes. -/
theorem bytes_lt_of_lt {a b : String} (h : a < b) : bytes a < bytes b := by
  rw [String.lt_iff] at h
  rw [bytes_eq_flatMap, bytes_eq_flatMap]
  generalize a.toList = before, b.toList = after at h
  induction h with
  | @nil c rest =>
    -- No encoding is empty, so a text that ends here comes first in bytes as well.
    obtain ⟨byte, others, hencoded⟩ := List.exists_cons_of_ne_nil
      (@String.utf8EncodeChar_ne_nil c)
    rw [List.flatMap_cons, hencoded]
    exact .nil
  | rel hlt =>
    rw [List.flatMap_cons, List.flatMap_cons]
    exact (utf8EncodeChar_below hlt).append_lt_append _ _
  | @cons c rest others _ ih =>
    rw [List.flatMap_cons, List.flatMap_cons]
    exact List.append_left_lt ih

end Utf8

end DeclaredUi
