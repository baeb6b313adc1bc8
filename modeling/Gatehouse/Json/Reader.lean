import Gatehouse.Json
import Gatehouse.Text.Decimal

/-!
Reading JSON text. Integers that fit 64 bits, signed or unsigned, stay integers; every other number is
floating, and one too large for that is an error. Arrays and objects nest at most 127 deep. Objects
keep their entries as written, so that a reader of records can see a key given twice.
-/
namespace Gatehouse.Json

/-- A reader takes what it needs from the front and returns the rest. -/
abbrev Read (α : Type) := List Char → Option (α × List Char)

def isSpace (c : Char) : Bool := c = ' ' || c = '\n' || c = '\t' || c = '\r'

def skipSpace (cs : List Char) : List Char := cs.dropWhile isSpace

def hexValue? (c : Char) : Option Nat :=
  let n := c.toNat
  if 48 ≤ n ∧ n ≤ 57 then some (n - 48)
  else if 97 ≤ n ∧ n ≤ 102 then some (n - 87)
  else if 65 ≤ n ∧ n ≤ 70 then some (n - 55)
  else none

def readHex4 : Read Nat
  | a :: b :: c :: d :: rest => do
    let a ← hexValue? a
    let b ← hexValue? b
    let c ← hexValue? c
    let d ← hexValue? d
    some (((a * 16 + b) * 16 + c) * 16 + d, rest)
  | _ => none

/-- An escaped code unit; a leading surrogate needs a trailing one behind it. -/
def readUnicodeEscape (cs : List Char) : Option (Char × List Char) := do
  let (unit, rest) ← readHex4 cs
  if 0xDC00 ≤ unit ∧ unit ≤ 0xDFFF then none
  else if 0xD800 ≤ unit ∧ unit ≤ 0xDBFF then
    match rest with
    | '\\' :: 'u' :: rest =>
      let (low, rest) ← readHex4 rest
      if 0xDC00 ≤ low ∧ low ≤ 0xDFFF then
        some (Char.ofNat (0x10000 + (unit - 0xD800) * 0x400 + (low - 0xDC00)), rest)
      else none
    | _ => none
  else some (Char.ofNat unit, rest)

/-- The rest of a string after its opening quote; `fuel` bounds the number of characters. -/
def readString : Nat → List Char → Read String
  | 0, _, _ => none
  | fuel + 1, acc, cs =>
    match cs with
    | [] => none
    | '"' :: rest => some (String.ofList acc.reverse, rest)
    | '\\' :: e :: rest =>
      match e with
      | '"' => readString fuel ('"' :: acc) rest
      | '\\' => readString fuel ('\\' :: acc) rest
      | '/' => readString fuel ('/' :: acc) rest
      | 'b' => readString fuel (Char.ofNat 8 :: acc) rest
      | 'f' => readString fuel (Char.ofNat 12 :: acc) rest
      | 'n' => readString fuel ('\n' :: acc) rest
      | 'r' => readString fuel ('\r' :: acc) rest
      | 't' => readString fuel ('\t' :: acc) rest
      | 'u' =>
        match readUnicodeEscape rest with
        | some (c, rest) => readString fuel (c :: acc) rest
        | none => none
      | _ => none
    | c :: rest => if c.toNat < 0x20 then none else readString fuel (c :: acc) rest

/-- A significand of at most 64 bits: the digits kept, and how many more followed. -/
structure Significand where
  kept : Nat
  dropped : Nat
  deriving Repr

def wordLimit : Nat := Nat.pow 2 64

/-- Appends digits while they fit a word. From the first that does not, the rest only count. -/
def Significand.push (s : Significand) (d : Nat) : Significand :=
  if s.dropped = 0 ∧ s.kept * 10 + d < wordLimit then ⟨s.kept * 10 + d, 0⟩
  else ⟨s.kept, s.dropped + 1⟩

def digitsOf (cs : List Char) : List Nat := cs.map fun c => c.toNat - 48

/-- Scales by powers of ten in floating arithmetic; `none` beyond the range. -/
def scaleTen : Nat → Binary64 → Int → Option Binary64
  | 0, f, _ => some f
  | fuel + 1, f, exponent =>
    if exponent.natAbs ≤ 308 then
      let power := Binary64.ofDecimal false 1 exponent.natAbs
      if 0 ≤ exponent then
        let product := f.mul power
        if product.isFinite then some product else none
      else some (f.div power)
    else if f.same Binary64.zero then some f
    else if 0 ≤ exponent then none
    else scaleTen fuel (f.div (Binary64.ofDecimal false 1 308)) (exponent + 308)

def floatOf (negative : Bool) (significand : Nat) (exponent : Int) : Option Json :=
  (scaleTen 400 (Binary64.ofNat significand) exponent).map fun f =>
    .float (if negative then f.neg else f)

/-- An exponent part: `none` when there is none, and the rest fails without a digit. -/
def readExponent (cs : List Char) : Option (Option Int × List Char) :=
  match cs with
  | e :: rest =>
    if e = 'e' ∨ e = 'E' then
      let (negative, rest) :=
        match rest with
        | '+' :: rest => (false, rest)
        | '-' :: rest => (true, rest)
        | rest => (false, rest)
      let ds := rest.takeWhile Text.Decimal.isDigit
      if ds.isEmpty then none
      else
        let n := Text.Decimal.value ds
        some (some (if negative then -(n : Int) else n), rest.dropWhile Text.Decimal.isDigit)
    else some (none, cs)
  | [] => some (none, cs)

/-- An exponent of more than 31 bits: nought stays nought, small goes to nought, large is refused. -/
def floatWithExponent (negative : Bool) (significand : Nat) (before exponent : Int) : Option Json :=
  if exponent.natAbs < Nat.pow 2 31 then floatOf negative significand (before + exponent)
  else if significand ≠ 0 ∧ 0 < exponent then none
  else some (.float (.finite negative 0 0))

def readNumber (cs : List Char) : Option (Json × List Char) := do
  let (negative, cs) :=
    match cs with
    | '-' :: rest => (true, rest)
    | cs => (false, cs)
  let whole := cs.takeWhile Text.Decimal.isDigit
  let rest := cs.dropWhile Text.Decimal.isDigit
  if whole.isEmpty || (whole.length > 1 && whole.head? = some '0') then none
  else
    let s := (digitsOf whole).foldl Significand.push ⟨0, 0⟩
    let (fraction, hasPoint, rest) :=
      match rest with
      | '.' :: rest => (rest.takeWhile Text.Decimal.isDigit, true, rest.dropWhile Text.Decimal.isDigit)
      | rest => ([], false, rest)
    if hasPoint && fraction.isEmpty then none
    else
      let (exponent, rest) ← readExponent rest
      if !hasPoint && exponent.isNone then
        if s.dropped = 0 then
          if !negative then some (.int s.kept, rest)
          else if s.kept = 0 ∨ Nat.pow 2 63 < s.kept then
            some (.float (Binary64.ofNat s.kept).neg, rest)
          else some (.int (-(s.kept : Int)), rest)
        else
          let value ← floatOf negative s.kept s.dropped
          some (value, rest)
      else
        let t := (digitsOf fraction).foldl Significand.push ⟨s.kept, 0⟩
        let before : Int := s.dropped - ((fraction.length : Int) - t.dropped)
        let value ← match exponent with
          | none => floatOf negative t.kept before
          | some e => floatWithExponent negative t.kept before e
        some (value, rest)

mutual

/-- A value, at most `depth` arrays and objects deep; `fuel` bounds the characters read. -/
def readValue (fuel : Nat) (depth : Nat) (cs : List Char) : Option (Json × List Char) :=
  match fuel with
  | 0 => none
  | fuel + 1 =>
    match skipSpace cs with
    | 'n' :: 'u' :: 'l' :: 'l' :: rest => some (.null, rest)
    | 't' :: 'r' :: 'u' :: 'e' :: rest => some (.bool true, rest)
    | 'f' :: 'a' :: 'l' :: 's' :: 'e' :: rest => some (.bool false, rest)
    | '"' :: rest => (readString (rest.length + 1) [] rest).map fun (s, rest) => (.text s, rest)
    | '[' :: rest =>
      if depth ≤ 1 then none
      else
        match skipSpace rest with
        | ']' :: rest => some (.array [], rest)
        | rest => (readItems fuel (depth - 1) rest).map fun (items, rest) => (.array items, rest)
    | '\x7b' :: rest =>
      if depth ≤ 1 then none
      else
        match skipSpace rest with
        | '\x7d' :: rest => some (.object [], rest)
        | rest => (readEntries fuel (depth - 1) rest).map fun (es, rest) => (.object es, rest)
    | rest => readNumber rest

def readItems (fuel : Nat) (depth : Nat) (cs : List Char) : Option (List Json × List Char) :=
  match fuel with
  | 0 => none
  | fuel + 1 =>
    match readValue fuel depth cs with
    | none => none
    | some (item, rest) =>
      match skipSpace rest with
      | ',' :: rest => (readItems fuel depth rest).map fun (items, rest) => (item :: items, rest)
      | ']' :: rest => some ([item], rest)
      | _ => none

def readEntries (fuel : Nat) (depth : Nat) (cs : List Char) :
    Option (List (String × Json) × List Char) :=
  match fuel with
  | 0 => none
  | fuel + 1 =>
    match skipSpace cs with
    | '"' :: rest =>
      match readString (rest.length + 1) [] rest with
      | none => none
      | some (key, rest) =>
        match skipSpace rest with
        | ':' :: rest =>
          match readValue fuel depth rest with
          | none => none
          | some (value, rest) =>
            match skipSpace rest with
            | ',' :: rest =>
              (readEntries fuel depth rest).map fun (es, rest) => ((key, value) :: es, rest)
            | '\x7d' :: rest => some ([(key, value)], rest)
            | _ => none
        | _ => none
    | _ => none

end

def maxDepth : Nat := 128

/-- Reads one value and nothing behind it, entries as written. -/
def parseEntries (s : String) : Option Json :=
  let cs := s.toList
  match readValue (cs.length + 1) maxDepth cs with
  | some (value, rest) => if (skipSpace rest).isEmpty then some value else none
  | none => none

def parse (s : String) : Option Json := (parseEntries s).map canonical

end Gatehouse.Json
