import Gatehouse.Text.Decimal

/-!
Texts inside messages: a list of strings is shown in brackets, each string between quotes, with the
quote, the backslash and control characters escaped.
-/
namespace Gatehouse.Text.Quoted

/-- Lower-case hexadecimal digits of `n`, at least one. -/
def hexDigits (n : Nat) : List Char :=
  let digit (d : Nat) : Char := if d < 10 then Char.ofNat (48 + d) else Char.ofNat (87 + d)
  if _h : n < 16 then [digit n] else hexDigits (n / 16) ++ [digit (n % 16)]
termination_by n
decreasing_by omega

/-- A control character is shown by its code point in braces. -/
def isControl (c : Char) : Bool := c.toNat < 0x20 || (0x7F ≤ c.toNat && c.toNat < 0xA0)

def encodeChar (c : Char) : List Char :=
  if c = '"' then ['\\', '"']
  else if c = '\\' then ['\\', '\\']
  else if c = '\n' then ['\\', 'n']
  else if c = '\t' then ['\\', 't']
  else if c = '\r' then ['\\', 'r']
  else if c.toNat = 0 then ['\\', '0']
  else if isControl c then '\\' :: 'u' :: '\x7b' :: hexDigits c.toNat ++ ['\x7d']
  else [c]

def encode (s : String) : String :=
  String.ofList ('"' :: (s.toList.flatMap encodeChar) ++ ['"'])

def list (items : List String) : String :=
  "[" ++ ", ".intercalate (items.map encode) ++ "]"

end Gatehouse.Text.Quoted
