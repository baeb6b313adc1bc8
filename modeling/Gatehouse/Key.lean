import Gatehouse.Key.Curve
import Gatehouse.Text.Blank
import Gatehouse.Text.Hex

/-!
Keys that sign tokens. A key is known by an id that only depends on its public part.
-/
namespace Gatehouse

structure Key where
  id : String
  publicHex : String
  privateHex : String
  deriving DecidableEq, Repr, Inhabited

namespace Key

def utf8 (s : String) : List Nat := s.toUTF8.toList.map UInt8.toNat

/-- The id of a public key: twelve bytes of the hash of its hexadecimal text, in safe characters. -/
def idOf (publicHex : String) : String :=
  String.ofList (Text.Hex.encodeSafe ((Digest.sha256 (utf8 publicHex)).take 12))

def ofBytes (privateKey : List Nat) : Key :=
  let publicHex := String.ofList (Text.Hex.encode (Curve.publicKey privateKey))
  ⟨idOf publicHex, publicHex, String.ofList (Text.Hex.encode privateKey)⟩

/-- Reads a private key of 32 bytes in hexadecimal digits; blanks around it are ignored. -/
def ofHex? (s : String) : Option Key :=
  match Text.Hex.decode (Text.trimChars s.toList) with
  | some bytes => if bytes.length = 32 then some (ofBytes bytes) else none
  | none => none

end Key
end Gatehouse
