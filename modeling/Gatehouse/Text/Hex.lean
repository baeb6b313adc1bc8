import Gatehouse.Text.Quoted

/-!
Bytes as text: two hexadecimal digits for each byte, or four characters of a safe alphabet for each three.
-/
namespace Gatehouse.Text.Hex

def digit? (c : Char) : Option Nat :=
  if '0' ≤ c ∧ c ≤ '9' then some (c.toNat - 48)
  else if 'a' ≤ c ∧ c ≤ 'f' then some (c.toNat - 87)
  else if 'A' ≤ c ∧ c ≤ 'F' then some (c.toNat - 55)
  else none

def decode : List Char → Option (List Nat)
  | [] => some []
  | [_] => none
  | a :: b :: rest => do
    let high ← digit? a
    let low ← digit? b
    let others ← decode rest
    some ((16 * high + low) :: others)

def encode (bytes : List Nat) : List Char :=
  bytes.flatMap fun b => Quoted.hexDigits (b / 16 % 16) ++ Quoted.hexDigits (b % 16)

/-- The sixty-four characters that need no quoting in a URL. -/
def safeChar (n : Nat) : Char :=
  if n < 26 then Char.ofNat (65 + n)
  else if n < 52 then Char.ofNat (71 + n)
  else if n < 62 then Char.ofNat (n - 4)
  else if n = 62 then '-'
  else '_'

/-- Three bytes as four characters each, and no filling at the end. -/
def encodeSafe : List Nat → List Char
  | [] => []
  | [a] => [safeChar (a / 4), safeChar (a % 4 * 16)]
  | [a, b] => [safeChar (a / 4), safeChar (a % 4 * 16 + b / 16), safeChar (b % 16 * 4)]
  | a :: b :: c :: rest =>
    safeChar (a / 4) :: safeChar (a % 4 * 16 + b / 16) :: safeChar (b % 16 * 4 + c / 64) ::
      safeChar (c % 64) :: encodeSafe rest

end Gatehouse.Text.Hex
