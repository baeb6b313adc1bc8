import Gatehouse.Yaml.Cursor
import Gatehouse.Yaml.Token
import Gatehouse.Text.Decimal
import Gatehouse.Json.Reader

/-!
The text of scalars. Every reader returns the text and the cursor behind it, or nothing if the text is
malformed. Lines of a flow scalar fold: one break becomes a blank, more breaks stay less one.
-/
namespace Gatehouse.Yaml

/-- Blanks and breaks collected since the last character of a scalar. -/
structure Fold where
  blanks : List Char
  leading : List Char
  trailing : List Char
  broken : Bool

namespace Fold

def none : Fold := ⟨[], [], [], false⟩

def joined (f : Fold) : List Char :=
  if f.broken then
    if f.leading.head? = some '\n' then
      if f.trailing.isEmpty then [' '] else f.trailing
    else f.leading ++ f.trailing
  else f.blanks

def pushBreak (f : Fold) (text : List Char) : Fold :=
  if f.broken then { f with trailing := f.trailing ++ text }
  else { f with blanks := [], leading := text, broken := true }

end Fold

/-- Collects blanks and breaks. In a plain scalar a tab may not stand in the indentation of a line. -/
def collectFold (fuel : Nat) (tabBelow : Option Nat) (f : Fold) (c : Cursor) :
    Option (Fold × Cursor) :=
  match fuel with
  | 0 => some (f, c)
  | fuel + 1 =>
    if c.isBlank then
      if f.broken then
        if c.sees (· = '\t') && tabBelow.any (c.column < ·) then .none
        else collectFold fuel tabBelow f c.skip
      else collectFold fuel tabBelow { f with blanks := f.blanks ++ c.rest.take 1 } c.skip
    else if c.isBreak then collectFold fuel tabBelow (f.pushBreak c.breakText) c.skipBreak
    else some (f, c)

/-- The characters that end a plain scalar inside a flow collection. -/
def isFlowIndicator (ch : Char) : Bool :=
  ch = ',' || ch = '[' || ch = ']' || ch = '\x7b' || ch = '\x7d'

/-- A run of characters of a plain scalar up to a blank or its end; inside a flow collection a colon
before an indicator is refused. -/
def plainRun (fuel : Nat) (inFlow : Bool) (acc : List Char) (c : Cursor) :
    Option (List Char × Cursor) :=
  match fuel with
  | 0 => some (acc, c)
  | fuel + 1 =>
    match c.peek? with
    | none => some (acc, c)
    | some ch =>
      if isBlankChar ch || isBreakChar ch then some (acc, c)
      else if inFlow && ch = ':' && c.seesAt 1 (fun d => isFlowIndicator d || d = '?') then none
      else if (ch = ':' && c.isSpaceAt 1) || (inFlow && isFlowIndicator ch) then some (acc, c)
      else plainRun fuel inFlow (acc ++ [ch]) c.skip

/-- A plain scalar: its text, the cursor behind what was looked at, and whether a break came last. -/
def plainScalar (fuel : Nat) (inFlow : Bool) (indent : Nat) (text : List Char) (f : Fold)
    (c : Cursor) : Option (List Char × Cursor × Bool) :=
  match fuel with
  | 0 => none
  | fuel + 1 =>
    if c.isMarker '-' || c.isMarker '.' || c.sees (· = '#') then some (text, c, f.broken)
    else do
      let (run, d) ← plainRun (c.rest.length + 1) inFlow [] c
      let (text, f) := if run.isEmpty then (text, f) else (text ++ f.joined ++ run, Fold.none)
      if !(d.isBlank || d.isBreak) then some (text, d, f.broken)
      else
        let (f, d) ← collectFold (d.rest.length + 1) (some indent) f d
        if !inFlow && d.column < indent then some (text, d, f.broken)
        else plainScalar fuel inFlow indent text f d

/-- The character that a one-letter escape stands for. -/
def escapeChar? : Char → Option Char
  | '0' => some (Char.ofNat 0)
  | 'a' => some (Char.ofNat 7)
  | 'b' => some (Char.ofNat 8)
  | 't' => some '\t'
  | '\t' => some '\t'
  | 'n' => some '\n'
  | 'v' => some (Char.ofNat 11)
  | 'f' => some (Char.ofNat 12)
  | 'r' => some '\r'
  | 'e' => some (Char.ofNat 27)
  | ' ' => some ' '
  | '"' => some '"'
  | '/' => some '/'
  | '\\' => some '\\'
  | 'N' => some (Char.ofNat 0x85)
  | '_' => some (Char.ofNat 0xA0)
  | 'L' => some (Char.ofNat 0x2028)
  | 'P' => some (Char.ofNat 0x2029)
  | _ => none

/-- The number of hexadecimal digits behind an escape letter. -/
def escapeWidth? : Char → Option Nat
  | 'x' => some 2
  | 'u' => some 4
  | 'U' => some 8
  | _ => none

def hexValue? (cs : List Char) : Option Nat :=
  cs.foldlM (fun n ch => (Json.hexValue? ch).map (16 * n + ·)) 0

/-- A run of a quoted scalar up to blanks or the closing quote. The flag tells that the run ended at an
escaped line break. -/
def quotedRun (fuel : Nat) (single : Bool) (acc : List Char) (c : Cursor) :
    Option (List Char × Cursor × Bool) :=
  match fuel with
  | 0 => some (acc, c, false)
  | fuel + 1 =>
    if c.isSpace then some (acc, c, false)
    else
      match c.rest with
      | [] => some (acc, c, false)
      | ch :: rest =>
        if single then
          if ch = '\'' then
            if rest.head? = some '\'' then quotedRun fuel single (acc ++ ['\'']) (c.skipBy 2)
            else some (acc, c, false)
          else quotedRun fuel single (acc ++ [ch]) c.skip
        else if ch = '"' then some (acc, c, false)
        else if ch = '\\' then
          match rest with
          | [] => none
          | e :: rest =>
            if isBreakChar e then some (acc, c.skip.skipBreak, true)
            else
              match escapeChar? e, escapeWidth? e with
              | some d, _ => quotedRun fuel single (acc ++ [d]) (c.skipBy 2)
              | none, some width =>
                let ds := rest.take width
                match hexValue? ds with
                | none => none
                | some n =>
                  if ds.length < width || (0xD800 ≤ n && n ≤ 0xDFFF) || 0x10FFFF < n then none
                  else quotedRun fuel single (acc ++ [Char.ofNat n]) (c.skipBy (2 + width))
              | none, none => none
        else quotedRun fuel single (acc ++ [ch]) c.skip

/-- A quoted scalar from behind its opening quote. -/
def quotedScalar (fuel : Nat) (single : Bool) (text : List Char) (c : Cursor) :
    Option (List Char × Cursor) :=
  match fuel with
  | 0 => none
  | fuel + 1 =>
    if c.isMarker '-' || c.isMarker '.' || c.atEnd then none
    else do
      let (run, d, escaped) ← quotedRun (c.rest.length + 1) single [] c
      let text := text ++ run
      if d.sees (· = (if single then '\'' else '"')) then some (text, d.skip)
      else
        let (f, d) ← collectFold (d.rest.length + 1) none { Fold.none with broken := escaped } d
        quotedScalar fuel single (text ++ f.joined) d

/-- How a block scalar treats the breaks at its end. -/
inductive Chomping where
  | strip | clip | keep
  deriving DecidableEq

/-- Skips indentation and empty lines of a block scalar. An indentation of nought is not known yet;
the deepest one seen is returned. A tab may not stand where indentation is wanted. -/
def blockBreaks (fuel indent deepest : Nat) (breaks : List Char) (c : Cursor) :
    Option (List Char × Nat × Cursor) :=
  match fuel with
  | 0 => some (breaks, deepest, c)
  | fuel + 1 =>
    let room := if indent = 0 then c.rest.length else indent - c.column
    let blanks := ((c.rest.takeWhile (· = ' ')).take room).length
    let d := c.skipBy blanks
    let deepest := Nat.max deepest d.column
    if (indent = 0 || d.column < indent) && d.sees (· = '\t') then none
    else if d.isBreak then blockBreaks fuel indent deepest (breaks ++ d.breakText) d.skipBreak
    else some (breaks, deepest, d)

def blockLines (fuel : Nat) (literal : Bool) (indent : Nat) (text leading trailing : List Char)
    (leadingBlank : Bool) (c : Cursor) : Option (List Char × List Char × List Char × Cursor) :=
  match fuel with
  | 0 => none
  | fuel + 1 =>
    if c.column ≠ indent || c.atEnd then some (text, leading, trailing, c)
    else do
      let blank := c.isBlank
      let text :=
        if !literal && leading.head? = some '\n' && !leadingBlank && !blank then
          if trailing.isEmpty then text ++ [' '] else text ++ trailing
        else text ++ leading ++ trailing
      let line := c.takeWhile fun ch => !isBreakChar ch
      let d := c.skipBy line.length
      let (trailing, _, e) ← blockBreaks (d.rest.length + 1) indent 0 [] d.skipBreak
      blockLines fuel literal indent (text ++ line) d.breakText trailing blank e

/-- The header of a block scalar: chomping and indentation, in either order. -/
def blockHeader (c : Cursor) : Option (Chomping × Nat × Cursor) :=
  let chomping (c : Cursor) : Option (Chomping × Cursor) :=
    if c.sees (· = '+') then some (.keep, c.skip)
    else if c.sees (· = '-') then some (.strip, c.skip)
    else none
  let digit (c : Cursor) : Option (Option Nat × Cursor) :=
    match c.peek?.bind Text.Decimal.digitValue? with
    | some 0 => none
    | some d => some (some d, c.skip)
    | none => some (none, c)
  match chomping c with
  | some (chomp, c) => (digit c).map fun (d, c) => (chomp, d.getD 0, c)
  | none =>
    match digit c with
    | none => none
    | some (none, c) => some (.clip, 0, c)
    | some (some d, c) =>
      match chomping c with
      | some (chomp, c) => some (chomp, d, c)
      | none => some (.clip, d, c)

/-- A block scalar from behind its indicator, inside a collection indented by `parent`. -/
def blockScalar (literal : Bool) (parent : Int) (c : Cursor) : Option (List Char × Cursor) := do
  let (chomp, increment, c) ← blockHeader c
  let c := c.skipWhile isBlankChar
  let c := if c.sees (· = '#') then c.skipWhile fun ch => !isBreakChar ch else c
  if !c.isBreakOrEnd then none
  else
    let c := c.skipBreak
    let fixed := if increment = 0 then 0 else if 0 ≤ parent then parent.toNat + increment else increment
    let (trailing, deepest, c) ← blockBreaks (c.rest.length + 1) fixed 0 [] c
    let indent := if fixed = 0 then Nat.max deepest (Nat.max (parent + 1).toNat 1) else fixed
    let (text, leading, trailing, c) ←
      blockLines (c.rest.length + 2) literal indent [] [] trailing false c
    match chomp with
    | .strip => some (text, c)
    | .clip => some (text ++ leading, c)
    | .keep => some (text ++ leading ++ trailing, c)

end Gatehouse.Yaml
