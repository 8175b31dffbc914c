import DeclaredUi.Json.Basic
import DeclaredUi.Text.Folding

/-! The words of a document's text. A lexer reads one character at a time and
gives out a token when one is complete; a number or a word ends at the first
character that cannot belong to it. -/

namespace DeclaredUi

namespace Json

/-- Where a text comes from, which decides how some of it is read. -/
inductive Dialect where
  /-- One line of its own: `-0` is the double with that sign, and a string is
  what stands between its quotes. -/
  | message
  /-- A file: `-0` is the whole number zero, line separators end lines and are
  folded in strings, and a byte order mark may begin the text or a line. Control
  characters, surrogates, whole numbers of more than 64 and up to 128 bits and
  deep nesting are refused, and a number beyond the doubles is a text. -/
  | file
deriving DecidableEq, Repr

namespace Dialect

/-- Whether two surrogates in a row stand for one character. -/
def pairsSurrogates : Dialect → Bool
  | .message => true
  | .file => false

/-- How many arrays and objects may be open at one time, if there is a limit. -/
def deepest? : Dialect → Option Nat
  | .message => none
  | .file => some 128

/-- Whether a character may stand in a string as it is. -/
def admits (dialect : Dialect) (c : Char) : Bool :=
  0x20 ≤ c.toNat &&
    match dialect with
    | .message => true
    | .file =>
      c.toNat < 0x7f || c == '\u0085' || (0xa0 ≤ c.toNat && c != '\ufffe' && c != '\uffff')

def stringText : Dialect → List Char → List Char
  | .message, text => text
  | .file, text => Folding.fold text

def endsLine (dialect : Dialect) (c : Char) : Bool :=
  c == '\n' || c == '\r' || (dialect == .file && Folding.isSeparator c)

def isMark (dialect : Dialect) (c : Char) : Bool := dialect == .file && c == '\ufeff'

/-- The characters of a text, without the mark that it may begin with. -/
def body (dialect : Dialect) : List Char → List Char
  | [] => []
  | c :: rest => if dialect.isMark c then rest else c :: rest

end Dialect

/-- A word of the text: a bracket, a separator or a scalar. -/
inductive Token where
  | openObject
  | closeObject
  | openArray
  | closeArray
  | colon
  | comma
  | scalar (value : Json)

namespace Token

/-- The characters of a string from its code points. A surrogate stands for no
character; where they are paired, a high and a low one together do. -/
def decodePoints (pairs : Bool) : List Nat → Option (List Char)
  | [] => some []
  | point :: rest =>
    if pairs ∧ 0xD800 ≤ point ∧ point < 0xDC00 then
      match rest with
      | low :: rest' =>
        if 0xDC00 ≤ low ∧ low < 0xE000 then
          (decodePoints pairs rest').map
            (Char.ofNat (0x10000 + (point - 0xD800) * 0x400 + (low - 0xDC00)) :: ·)
        else none
      | [] => none
    else if h : point.isValidChar then (decodePoints pairs rest).map (Char.ofNatAux point h :: ·)
    else none

def hexValue? (c : Char) : Option Nat :=
  if '0' ≤ c ∧ c ≤ '9' then some (c.toNat - 48)
  else if 'a' ≤ c ∧ c ≤ 'f' then some (c.toNat - 87)
  else if 'A' ≤ c ∧ c ≤ 'F' then some (c.toNat - 55)
  else none

/-- The character that a letter after a backslash stands for. -/
def escaped? : Char → Option Char
  | '"' => some '"'
  | '\\' => some '\\'
  | '/' => some '/'
  | 'b' => some '\x08'
  | 'f' => some '\x0c'
  | 'n' => some '\n'
  | 'r' => some '\r'
  | 't' => some '\t'
  | _ => none

def signed : List Char → Bool × List Char
  | '-' :: rest => (true, rest)
  | text => (false, text)

/-- Digits, at least one, with or without a sign. -/
def exponentValue? (text : List Char) : Option Int :=
  let (negative, digits) := match text with
    | '+' :: rest => (false, rest)
    | _ => signed text
  if digits.isEmpty ∨ ¬digits.all Char.isDigit then none
  else
    let value : Int := Nat.ofDigitChars 10 digits 0
    some (if negative then -value else value)

/-- The exponent at the end of a number literal, if one is written. -/
def exponent? : List Char → Option (Option Int)
  | [] => some none
  | mark :: rest =>
    if mark = 'e' ∨ mark = 'E' then (exponentValue? rest).map some else none

/-- The digits after the point of a number literal, if one is written, and what
follows them. -/
def fraction? : List Char → Option (Option (List Char) × List Char)
  | '.' :: rest =>
    let (digits, rest) := rest.span Char.isDigit
    if digits.isEmpty then none else some (some digits, rest)
  | rest => some (none, rest)

/-- A number literal: a minus sign or none, digits without a leading zero, and
optionally a point with digits and an exponent. -/
structure Literal where
  negative : Bool
  whole : List Char
  fraction : Option (List Char)
  exponent : Option Int

def literal? (text : List Char) : Option Literal := do
  let (negative, unsigned) := signed text
  let (whole, rest) := unsigned.span Char.isDigit
  if whole.isEmpty ∨ (whole.head? = some '0' ∧ whole ≠ ['0']) then none
  let (fraction, rest) ← fraction? rest
  let exponent ← exponent? rest
  return ⟨negative, whole, fraction, exponent⟩

namespace Literal

def number? (signedZero : Bool) (literal : Literal) : Option Number :=
  Number.ofLiteral? signedZero literal.negative literal.whole literal.fraction literal.exponent

/-- A whole number that fits 128 bits and not 64. -/
def isWide (literal : Literal) : Bool :=
  let value := Nat.ofDigitChars 10 literal.whole 0
  literal.fraction.isNone && literal.exponent.isNone &&
    if literal.negative then Nat.pow 2 63 < value && value ≤ Nat.pow 2 127
    else Nat.pow 2 64 ≤ value && value < Nat.pow 2 128

/-- What a literal, written as this text, is read as. -/
def scalar? (dialect : Dialect) (text : List Char) (literal : Literal) : Option Json :=
  match dialect with
  | .message => (literal.number? true).map .number
  | .file =>
    if literal.isWide then none
    else some ((literal.number? false).elim (.string (String.ofList text)) .number)

end Literal

/-- The scalar that a run of letters, digits and signs spells. -/
def bare? (dialect : Dialect) (text : List Char) : Option Json :=
  if text = ['n', 'u', 'l', 'l'] then some .null
  else if text = ['t', 'r', 'u', 'e'] then some (.bool true)
  else if text = ['f', 'a', 'l', 's', 'e'] then some (.bool false)
  else (literal? text).bind (Literal.scalar? dialect text)

def isBare (c : Char) : Bool :=
  c.isAlphanum || c == '+' || c == '-' || c == '.'

/-- What the lexer is in the middle of. The collected text is in reverse. -/
inductive Lexing where
  /-- Between two tokens, at the start of a line. -/
  | lineStart
  /-- Between two tokens, further on. -/
  | between
  | bare (done : List Char)
  | text (done : List Nat)
  /-- In a string, after a backslash. -/
  | escape (done : List Nat)
  /-- In a string, in a character given by number, with digits still missing. -/
  | unicode (done : List Nat) (missing value : Nat)

/-- Begins a new token; punctuation is complete at once. -/
def start (dialect : Dialect) (tokens : List Token) (c : Char) : Option (List Token × Lexing) :=
  if dialect.endsLine c then some (tokens, .lineStart)
  else if c = ' ' ∨ c = '\t' then some (tokens, .between)
  else if c = '"' then some (tokens, .text [])
  else if isBare c then some (tokens, .bare [c])
  else match c with
    | '[' => some (.openArray :: tokens, .between)
    | ']' => some (.closeArray :: tokens, .between)
    | ':' => some (.colon :: tokens, .between)
    | ',' => some (.comma :: tokens, .between)
    | _ =>
      if c = '\x7b' then some (.openObject :: tokens, .between)
      else if c = '\x7d' then some (.closeObject :: tokens, .between)
      else none

/-- Reads one character; the tokens found so far are in reverse. -/
def step (dialect : Dialect) : List Token × Lexing → Char → Option (List Token × Lexing)
  | (tokens, .lineStart), c =>
    if dialect.isMark c then some (tokens, .between) else start dialect tokens c
  | (tokens, .between), c => start dialect tokens c
  | (tokens, .bare done), c =>
    if isBare c then some (tokens, .bare (c :: done))
    else (bare? dialect done.reverse).bind fun value => start dialect (.scalar value :: tokens) c
  | (tokens, .text done), c =>
    if c = '"' then
      (decodePoints dialect.pairsSurrogates done.reverse).map fun chars =>
        (.scalar (.string (String.ofList (dialect.stringText chars))) :: tokens, .between)
    else if c = '\\' then some (tokens, .escape done)
    else if dialect.admits c then some (tokens, .text (c.toNat :: done))
    else none
  | (tokens, .escape done), c =>
    if c = 'u' then some (tokens, .unicode done 4 0)
    else (escaped? c).map fun meant => (tokens, .text (meant.toNat :: done))
  | (tokens, .unicode done missing value), c =>
    (hexValue? c).map fun digit =>
      let value := value * 16 + digit
      if missing ≤ 1 then (tokens, .text (value :: done))
      else (tokens, .unicode done (missing - 1) value)

def scan? (dialect : Dialect) (text : String) : Option (List Token) :=
  match (dialect.body text.toList).foldlM (step dialect) ([], .lineStart) with
  | some (tokens, .lineStart) | some (tokens, .between) => some tokens.reverse
  | some (tokens, .bare done) =>
    (bare? dialect done.reverse).map fun value => (.scalar value :: tokens).reverse
  | _ => none

end Token

end Json

end DeclaredUi
