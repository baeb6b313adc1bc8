import Gatehouse.Token.Envelope

/-!
The text of an envelope: its records in base 64, each record with its length in front, and at the end up
to two characters that fill up the last group of four. Those say nothing and may be left out; without any
other character the text is no envelope.
-/
namespace Gatehouse.Token

/-- The bytes of a length, seven bits in each. -/
def lengthBytes (n : Nat) : Nat := if _h : n < 128 then 1 else 1 + lengthBytes (n / 128)
termination_by n
decreasing_by omega

/-- The bytes of a record with `n` bytes of content: a tag and the length come first. -/
def recordBytes (n : Nat) : Nat := 1 + lengthBytes n + n

/-- The bytes of an envelope around a text of `n` bytes. The text stands in a block, the block beside the
public part of the next key and a signature, and those beside the private part of the next key. -/
def envelopeBytes (n : Nat) : Nat :=
  let block := recordBytes 6 + recordBytes n + 2 + recordBytes 10
  let signed := recordBytes block + recordBytes 36 + recordBytes 64
  recordBytes signed + recordBytes 34

/-- The characters that fill up the text of an envelope. -/
def Envelope.fill (e : Envelope) : Nat :=
  match e.content with
  | some (.claims c) => (3 - envelopeBytes c.render.utf8ByteSize % 3) % 3
  | _ => 0

/-- A bearer value without its last characters. -/
def Bearer.dropLast (b : Bearer) (n : Nat) : Bearer :=
  match b with
  | envelope e => if n ≤ e.fill then b else .text ""
  | text s => .text (String.ofList (s.toList.take (s.length - n)))

end Gatehouse.Token
