import DeclaredUi.Text.CharClass.Combining
import DeclaredUi.Text.CharClass.Unassigned

/-! Which characters are seen on their own. Quoted text writes the others by
number: those that show nothing, those that attach to their neighbour, and code
points that stand for no character. -/

namespace DeclaredUi

namespace CharClass

/-- Controls, format characters, separators other than the plain blank, blank
fillers and private use. -/
def invisible : List (Nat × Nat) :=
  [(0x0000, 0x001f), (0x007f, 0x00a0), (0x00ad, 0x00ad), (0x0600, 0x0605), (0x061c, 0x061c),
   (0x06dd, 0x06dd), (0x070f, 0x070f), (0x0890, 0x0891), (0x08e2, 0x08e2), (0x115f, 0x1160),
   (0x1680, 0x1680), (0x180e, 0x180e), (0x2000, 0x200f), (0x2028, 0x202f), (0x205f, 0x2064),
   (0x2066, 0x206f), (0x3000, 0x3000), (0x3164, 0x3164), (0xe000, 0xf8ff), (0xfeff, 0xfeff),
   (0xffa0, 0xffa0), (0xfff9, 0xfffb), (0x110bd, 0x110bd), (0x110cd, 0x110cd), (0x13430, 0x1343f),
   (0x1bca0, 0x1bca3), (0x1d173, 0x1d17a), (0xe0001, 0xe0001), (0xe0020, 0xe007f),
   (0xf0000, 0xffffd), (0x100000, 0x10fffd)]

/-- Whether a code point lies in one of the ranges. -/
def within (ranges : List (Nat × Nat)) (point : Nat) : Bool :=
  ranges.any fun range => range.1 ≤ point && point ≤ range.2

/-- Whether a character is seen on its own. -/
def isVisible (c : Char) : Bool :=
  !(within invisible c.toNat || within combining c.toNat || within unassigned c.toNat)

end CharClass

end DeclaredUi
