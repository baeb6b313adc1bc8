/-!
A place in a YAML text and the character classes that its syntax uses. Lines end at a line feed, a
carriage return or both together, and at the three Unicode breaks; the end of the text counts as a
break and as a blank.
-/
namespace Gatehouse.Yaml

/-- What is left of the text, and where that begins. -/
structure Cursor where
  rest : List Char
  index : Nat
  line : Nat
  column : Nat

def isBreakChar (c : Char) : Bool :=
  c = '\n' || c = '\r' || c.toNat = 0x85 || c.toNat = 0x2028 || c.toNat = 0x2029

def isBlankChar (c : Char) : Bool := c = ' ' || c = '\t'

/-- Letters, digits, the hyphen and the underscore. -/
def isWordChar (c : Char) : Bool := c.isAlphanum || c = '_' || c = '-'

/-- The characters that a YAML text may hold. -/
def isPrintable (c : Char) : Bool :=
  let n := c.toNat
  n = 0x09 || n = 0x0A || n = 0x0D || (0x20 ≤ n && n ≤ 0x7E) || n = 0x85
    || (0xA0 ≤ n && n ≤ 0xD7FF) || (0xE000 ≤ n && n ≤ 0xFFFD) || 0x10000 ≤ n

namespace Cursor

def start (cs : List Char) : Cursor := ⟨cs, 0, 0, 0⟩

def peek? (c : Cursor) : Option Char := c.rest.head?

def peekAt? (c : Cursor) (n : Nat) : Option Char := c.rest[n]?

def atEnd (c : Cursor) : Bool := c.rest.isEmpty

def sees (c : Cursor) (p : Char → Bool) : Bool := c.peek?.any p

def seesAt (c : Cursor) (n : Nat) (p : Char → Bool) : Bool := (c.peekAt? n).any p

def isBlank (c : Cursor) : Bool := c.sees isBlankChar
def isBreak (c : Cursor) : Bool := c.sees isBreakChar
def isBreakOrEnd (c : Cursor) : Bool := c.atEnd || c.isBreak

/-- A blank, a break or the end, `n` characters ahead. -/
def isSpaceAt (c : Cursor) (n : Nat) : Bool :=
  match c.peekAt? n with
  | none => true
  | some ch => isBlankChar ch || isBreakChar ch

def isSpace (c : Cursor) : Bool := c.isSpaceAt 0

def skip (c : Cursor) : Cursor := ⟨c.rest.drop 1, c.index + 1, c.line, c.column + 1⟩

def skipBy (c : Cursor) (n : Nat) : Cursor := ⟨c.rest.drop n, c.index + n, c.line, c.column + n⟩

/-- Moves over a line break; stays at the end of the text. -/
def skipBreak (c : Cursor) : Cursor :=
  match c.rest with
  | '\r' :: '\n' :: rest => ⟨rest, c.index + 2, c.line + 1, 0⟩
  | ch :: rest => if isBreakChar ch then ⟨rest, c.index + 1, c.line + 1, 0⟩ else c
  | [] => c

/-- The break under the cursor as it counts in a scalar: a line feed, or the Unicode separator kept. -/
def breakText (c : Cursor) : List Char :=
  match c.peek? with
  | none => []
  | some ch => if ch.toNat = 0x2028 || ch.toNat = 0x2029 then [ch] else if isBreakChar ch then ['\n'] else []

def skipWhile (c : Cursor) (p : Char → Bool) : Cursor := c.skipBy (c.rest.takeWhile p).length

def takeWhile (c : Cursor) (p : Char → Bool) : List Char := c.rest.takeWhile p

/-- A document marker, three equal characters at the start of a line with a blank behind them. -/
def isMarker (c : Cursor) (ch : Char) : Bool :=
  c.column = 0 && c.rest.take 3 == [ch, ch, ch] && c.isSpaceAt 3

end Cursor
end Gatehouse.Yaml
