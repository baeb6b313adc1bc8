import Gatehouse.Yaml.Token
import Gatehouse.Value

/-!
What plain scalars mean. Null and the booleans have three spellings each; integers are decimal or have
one of the leads `0x`, `0o`, `0b`; decimal digits with a nought in front stay text. An integer that
no 64 bits hold is refused as long as 128 bits would hold it, and is floating beyond.
-/
namespace Gatehouse.Yaml.Scalar

def isNull (s : String) : Bool := ["null", "Null", "NULL", "~"].contains s

def bool? (s : String) : Option Bool :=
  if ["true", "True", "TRUE"].contains s then some true
  else if ["false", "False", "FALSE"].contains s then some false
  else none

def digitOf? (radix : Nat) (c : Char) : Option Nat :=
  let n := c.toNat
  let d? :=
    if 48 ≤ n ∧ n ≤ 57 then some (n - 48)
    else if 97 ≤ n ∧ n ≤ 122 then some (n - 87)
    else if 65 ≤ n ∧ n ≤ 90 then some (n - 55)
    else none
  d?.filter (· < radix)

def natOf? (radix : Nat) (cs : List Char) : Option Nat :=
  if cs.isEmpty then none
  else cs.foldlM (fun n c => (digitOf? radix c).map (radix * n + ·)) 0

/-- A magnitude behind its lead, or decimal. -/
def leadOf? (cs : List Char) : Option (Nat × List Char) :=
  match cs with
  | '0' :: 'x' :: rest => some (16, rest)
  | '0' :: 'o' :: rest => some (8, rest)
  | '0' :: 'b' :: rest => some (2, rest)
  | _ => none

/-- Digits only, and a nought before others. -/
def hasLeadingNought (cs : List Char) : Bool :=
  let cs := match cs with
    | '-' :: rest => rest
    | '+' :: rest => rest
    | cs => cs
  1 < cs.length && cs.head? = some '0' && cs.all Text.Decimal.isDigit

def int? (s : String) : Option Int :=
  let cs := s.toList
  let magnitude (cs : List Char) : Option Nat :=
    match leadOf? cs with
    | some (radix, rest) => natOf? radix rest
    | none => if hasLeadingNought s.toList then none else natOf? 10 cs
  match cs with
  | '-' :: rest => (magnitude rest).map fun n => -(n : Int)
  | '+' :: rest => (magnitude rest).map fun n => (n : Int)
  | cs => (magnitude cs).map fun n => (n : Int)

/-- The significant digits and the exponent of a decimal number. -/
def decimal? (cs : List Char) : Option (Nat × Int) :=
  let whole := cs.takeWhile Text.Decimal.isDigit
  let rest := cs.dropWhile Text.Decimal.isDigit
  let (fraction, rest) :=
    match rest with
    | '.' :: rest => (rest.takeWhile Text.Decimal.isDigit, rest.dropWhile Text.Decimal.isDigit)
    | rest => ([], rest)
  if whole.isEmpty && fraction.isEmpty then none
  else
    let digits := Text.Decimal.value (whole ++ fraction)
    match rest with
    | [] => some (digits, -(fraction.length : Int))
    | e :: rest =>
      if e = 'e' ∨ e = 'E' then
        let (negative, rest) :=
          match rest with
          | '+' :: rest => (false, rest)
          | '-' :: rest => (true, rest)
          | rest => (false, rest)
        (Text.Decimal.value? rest).map fun n =>
          (digits, (if negative then -(n : Int) else n) - fraction.length)
      else none

/-- The floating number that a scalar spells; finite unless it is spelt as infinite or as no number. -/
def float? (s : String) : Option Binary64 :=
  let cs := s.toList
  let unsigned? : Option (List Char) :=
    match cs with
    | '+' :: '+' :: _ => none
    | '+' :: '-' :: _ => none
    | '+' :: rest => some rest
    | cs => some cs
  match unsigned? with
  | none => none
  | some rest =>
    let isInfinite (cs : List Char) : Bool := [".inf", ".Inf", ".INF"].contains (String.ofList cs)
    if isInfinite rest then some (.infinity false)
    else if cs.head? = some '-' && isInfinite (cs.drop 1) then some (.infinity true)
    else if [".nan", ".NaN", ".NAN"].contains s then some .nan
    else
      let (negative, digits) :=
        match rest with
        | '-' :: digits => (true, digits)
        | digits => (false, digits)
      match decimal? digits with
      | none => none
      | some (digits, exponent) =>
        let f := Binary64.ofDecimal negative digits exponent
        if f.isFinite then some f else none

def intValue? (i : Int) : Option Value :=
  if -Nat.pow 2 63 ≤ i ∧ i < Nat.pow 2 64 then some (.int i) else none

/-- True of an integer that is kept apart from the floating numbers. -/
def isSized (i : Int) : Bool := -Nat.pow 2 127 ≤ i && i < Nat.pow 2 128

/-- The value of a plain scalar without a tag. -/
def plain? (s : String) : Option Value :=
  if s.isEmpty || isNull s then some .null
  else
    match bool? s, (int? s).filter isSized with
    | some b, _ => some (.bool b)
    | none, some i => intValue? i
    | none, none =>
      if hasLeadingNought s.toList then some (.text s)
      else
        match float? s with
        | some f => some (.float f)
        | none => some (.text s)

/-- The standard tags that fix a kind. -/
def coreTag (name : String) : String := "tag:yaml.org,2002:" ++ name

/-- The value of a scalar. A standard tag asks for its kind, any other leaves text. -/
def value? (tag : Option String) (style : Style) (s : String) : Option Value :=
  match tag with
  | none => if style = .plain then plain? s else some (.text s)
  | some t =>
    if t = coreTag "bool" then (bool? s).map .bool
    else if t = coreTag "int" then ((int? s).filter isSized).bind intValue?
    else if t = coreTag "float" then (float? s).map .float
    else if t = coreTag "null" then if isNull s then some .null else none
    else some (.text s)

end Gatehouse.Yaml.Scalar
