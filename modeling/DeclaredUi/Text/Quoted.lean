import DeclaredUi.Text.CharClass

/-! Names quoted in messages: a list of names is written `["a", "b"]`, and what
would not be seen in it is written by number. -/

namespace DeclaredUi

namespace Quoted

/-- A code point in braces, in hexadecimal. -/
def byNumber (c : Char) : List Char :=
  ['\\', 'u', '\x7b'] ++ Nat.toDigits 16 c.toNat ++ ['\x7d']

def char (c : Char) : List Char :=
  if c = '"' then ['\\', '"']
  else if c = '\\' then ['\\', '\\']
  else if c = '\n' then ['\\', 'n']
  else if c = '\r' then ['\\', 'r']
  else if c = '\t' then ['\\', 't']
  else if c = '\x00' then ['\\', '0']
  else if CharClass.isVisible c then [c]
  else byNumber c

def name (text : String) : String :=
  "\"" ++ String.ofList (text.toList.flatMap char) ++ "\""

def names (texts : List String) : String :=
  "[" ++ ", ".intercalate (texts.map name) ++ "]"

end Quoted

end DeclaredUi
