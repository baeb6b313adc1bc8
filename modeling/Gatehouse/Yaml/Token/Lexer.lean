import Gatehouse.Yaml.ScalarText

/-!
From text to tokens. The lexer keeps the columns of the open block collections and, for every level of
flow collections, the place where a key may have begun; a colon that ends such a key puts the marks in
front of it. Each step moves over at least one character, so a text has fewer steps than characters.
-/
namespace Gatehouse.Yaml

/-- A place where a key may have begun. A required one stands at the column of its collection. -/
structure PossibleKey where
  required : Bool
  position : Nat
  index : Nat
  line : Nat
  column : Nat

structure Lexer where
  cursor : Cursor
  tokens : Array Token
  indent : Int
  indents : List Int
  keyAllowed : Bool
  /-- The possible key of the innermost level. -/
  possible : Option PossibleKey
  /-- The possible keys of the levels around it, one for each open flow collection. -/
  outer : List (Option PossibleKey)

namespace Lexer

def inFlow (l : Lexer) : Bool := !l.outer.isEmpty

def push (l : Lexer) (t : Token) : Lexer := { l with tokens := l.tokens.push t }

def moveTo (l : Lexer) (c : Cursor) : Lexer := { l with cursor := c }

/-- The longest distance from a key to its colon. -/
def keyReach : Nat := 1024

def isStale (c : Cursor) (k : PossibleKey) : Bool :=
  k.line < c.line || k.index + keyReach < c.index

def refreshKey (c : Cursor) : Option PossibleKey → Option (Option PossibleKey)
  | none => some none
  | some k => if isStale c k then (if k.required then none else some none) else some (some k)

/-- Forgets keys that ended with their line or went on too long; a required one has to have its colon. -/
def refreshKeys (l : Lexer) : Option Lexer := do
  let possible ← refreshKey l.cursor l.possible
  let outer ← l.outer.mapM (refreshKey l.cursor)
  some { l with possible, outer }

def dropKey (l : Lexer) : Option Lexer :=
  if l.possible.any (·.required) then none else some { l with possible := none }

def saveKey (l : Lexer) : Option Lexer :=
  if l.keyAllowed then
    l.dropKey.map fun l =>
      let c := l.cursor
      let k : PossibleKey :=
        ⟨!l.inFlow && l.indent = c.column, l.tokens.size, c.index, c.line, c.column⟩
      { l with possible := some k }
  else some l

/-- Opens a block collection at a column that is deeper than the current one. -/
def indentTo (l : Lexer) (column : Nat) (position : Nat) (t : Token) : Lexer :=
  if l.inFlow then l
  else if l.indent < column then
    { l with
      indents := l.indent :: l.indents
      indent := column
      tokens := l.tokens.insertIdxIfInBounds position t }
  else l

def closeBlocks (tokens : Array Token) (indent : Int) (column : Int) :
    List Int → Array Token × Int × List Int
  | [] => (tokens, indent, [])
  | outer :: indents =>
    if column < indent then closeBlocks (tokens.push .blockEnd) outer column indents
    else (tokens, indent, outer :: indents)

/-- Closes the block collections that are deeper than a column. -/
def dedentTo (l : Lexer) (column : Int) : Lexer :=
  if l.inFlow then l
  else
    let (tokens, indent, indents) := closeBlocks l.tokens l.indent column l.indents
    { l with tokens, indent, indents }

/-- Moves over blanks, comments and breaks. A tab counts as a blank only where no key may begin. -/
def skipToToken (fuel : Nat) (l : Lexer) : Lexer :=
  match fuel with
  | 0 => l
  | fuel + 1 =>
    let c := l.cursor
    let c := if c.index = 0 && c.sees (·.toNat = 0xFEFF) then c.skip else c
    let c := c.skipWhile fun ch => ch = ' ' || ((l.inFlow || !l.keyAllowed) && ch = '\t')
    let c := if c.sees (· = '#') then c.skipWhile fun ch => !isBreakChar ch else c
    if c.isBreak then
      skipToToken fuel { l with cursor := c.skipBreak, keyAllowed := l.keyAllowed || !l.inFlow }
    else l.moveTo c

/-- A token of one character that opens a flow collection. -/
def flowStart (l : Lexer) (t : Token) : Option Lexer :=
  l.saveKey.map fun l =>
    { l with
      outer := l.possible :: l.outer
      possible := none
      keyAllowed := true
      cursor := l.cursor.skip
      tokens := l.tokens.push t }

def flowEnd (l : Lexer) (t : Token) : Option Lexer :=
  l.dropKey.map fun l =>
    let (possible, outer) :=
      match l.outer with
      | [] => (l.possible, [])
      | p :: outer => (p, outer)
    { l with possible, outer, keyAllowed := false, cursor := l.cursor.skip, tokens := l.tokens.push t }

def flowEntry (l : Lexer) : Option Lexer :=
  l.dropKey.map fun l =>
    { l with keyAllowed := true, cursor := l.cursor.skip, tokens := l.tokens.push .flowEntry }

def blockEntry (l : Lexer) : Option Lexer := do
  if !l.inFlow && !l.keyAllowed then none
  else
    let l := l.indentTo l.cursor.column l.tokens.size .blockSequenceStart
    let l ← l.dropKey
    some { l with keyAllowed := true, cursor := l.cursor.skip, tokens := l.tokens.push .blockEntry }

def explicitKey (l : Lexer) : Option Lexer := do
  if !l.inFlow && !l.keyAllowed then none
  else
    let l := l.indentTo l.cursor.column l.tokens.size .blockMappingStart
    let l ← l.dropKey
    some { l with keyAllowed := !l.inFlow, cursor := l.cursor.skip, tokens := l.tokens.push .key }

/-- A colon: it ends the possible key, or stands for itself. -/
def valueMark (l : Lexer) : Option Lexer :=
  let finish (l : Lexer) : Lexer := (l.moveTo l.cursor.skip).push .value
  match l.possible with
  | some k =>
    let l := { l with tokens := l.tokens.insertIdxIfInBounds k.position .key }
    let l := l.indentTo k.column k.position .blockMappingStart
    some (finish { l with possible := none, keyAllowed := false })
  | none =>
    if !l.inFlow && !l.keyAllowed then none
    else
      let l := l.indentTo l.cursor.column l.tokens.size .blockMappingStart
      some (finish { l with keyAllowed := !l.inFlow })

/-- Ends every block and forgets keys, before a marker, a directive or the end. -/
def endBlocks (l : Lexer) : Option Lexer :=
  (l.dedentTo (-1)).dropKey.map fun l => { l with keyAllowed := false }

def marker (l : Lexer) (t : Token) : Option Lexer :=
  l.endBlocks.map fun l => (l.moveTo (l.cursor.skipBy 3)).push t

/-- The name of an anchor or an alias: it ends at a blank or at an indicator. -/
def anchorName (c : Cursor) : Option (String × Cursor) :=
  let name := c.takeWhile isWordChar
  let c := c.skipBy name.length
  if name.isEmpty then none
  else if c.isSpace || c.sees fun ch => "?:,]\x7d%@\x60".toList.contains ch then
    some (String.ofList name, c)
  else none

def anchor (l : Lexer) (make : String → Token) : Option Lexer := do
  let l ← l.saveKey
  let (name, c) ← anchorName l.cursor.skip
  some (({ l with keyAllowed := false }.moveTo c).push (make name))

/-- A tag handle: an exclamation mark, or two around a word. A directive takes no half-open one. -/
def tagHandle (directive : Bool) (c : Cursor) : Option (List Char × Cursor) :=
  if c.sees (· = '!') then
    let word := c.skip.takeWhile isWordChar
    let d := c.skipBy (1 + word.length)
    if d.sees (· = '!') then some ('!' :: word ++ ['!'], d.skip)
    else if directive && !word.isEmpty then none
    else some ('!' :: word, d)
  else none

def isUriChar (inBrackets : Bool) (ch : Char) : Bool :=
  isWordChar ch || ";/?:@&=+$.!~*'()".toList.contains ch
    || (inBrackets && (ch = ',' || ch = '[' || ch = ']'))

/-- The number of bytes of a UTF-8 sequence, told by its first byte. -/
def sequenceWidth? (n : Nat) : Option Nat :=
  if n < 0x80 then some 1
  else if n < 0xC0 then none
  else if n < 0xE0 then some 2
  else if n < 0xF0 then some 3
  else if n < 0xF8 then some 4
  else none

/-- One byte written as a percent sign and two hexadecimal digits. -/
def escapedByte? : List Char → Option (Nat × List Char)
  | '%' :: a :: b :: rest => (hexValue? [a, b]).map fun n => (n, rest)
  | _ => none

def continuation? : Nat → Nat → List Char → Option (Nat × List Char)
  | 0, n, cs => some (n, cs)
  | more + 1, n, cs => do
    let (byte, rest) ← escapedByte? cs
    if byte / 64 = 2 then continuation? more (n * 64 + byte % 64) rest else none

def escapedChar? (cs : List Char) : Option (Char × List Char) := do
  let (first, rest) ← escapedByte? cs
  let width ← sequenceWidth? first
  let lead := if width = 1 then first else first % Nat.pow 2 (7 - width)
  let (n, rest) ← continuation? (width - 1) lead rest
  if n.isValidChar then some (Char.ofNat n, rest) else none

/-- The characters of a tag; at least one is wanted unless the handle already has some. -/
def tagUri (fuel : Nat) (inBrackets : Bool) (acc : List Char) (c : Cursor) :
    Option (List Char × Cursor) :=
  match fuel with
  | 0 => some (acc, c)
  | fuel + 1 =>
    match c.rest with
    | [] => some (acc, c)
    | ch :: _ =>
      if isUriChar inBrackets ch then tagUri fuel inBrackets (acc ++ [ch]) c.skip
      else if ch = '%' then
        match escapedChar? c.rest with
        | some (d, rest) =>
          tagUri fuel inBrackets (acc ++ [d]) (c.skipBy (c.rest.length - rest.length))
        | none => none
      else some (acc, c)

def tagName (c : Cursor) : Option (String × String × Cursor) := do
  let fuel := c.rest.length + 1
  if c.seesAt 1 (· = '<') then
    let (suffix, c) ← tagUri fuel true [] (c.skipBy 2)
    if suffix.isEmpty || !c.sees (· = '>') then none
    else some ("", String.ofList suffix, c.skip)
  else
    let (handle, c) ← tagHandle false c
    if 2 ≤ handle.length && handle.getLast? = some '!' then
      let (suffix, c) ← tagUri fuel false [] c
      if suffix.isEmpty then none
      else some (String.ofList handle, String.ofList suffix, c)
    else
      let (suffix, c) ← tagUri fuel false (handle.drop 1) c
      if suffix.isEmpty then some ("", "!", c) else some ("!", String.ofList suffix, c)

def tag (l : Lexer) : Option Lexer := do
  let l ← l.saveKey
  let (handle, suffix, c) ← tagName l.cursor
  if c.isSpace || (l.inFlow && c.sees (· = ',')) then
    some (({ l with keyAllowed := false }.moveTo c).push (.tag handle suffix))
  else none

/-- The number of a version directive: at most nine digits. -/
def versionNumber (c : Cursor) : Option (Nat × Cursor) :=
  let ds := c.takeWhile Text.Decimal.isDigit
  if ds.isEmpty || 9 < ds.length then none
  else some (Text.Decimal.value ds, c.skipBy ds.length)

def directive (l : Lexer) : Option Lexer := do
  let l ← l.endBlocks
  let c := l.cursor.skip
  let name := c.takeWhile isWordChar
  let c := c.skipBy name.length
  if name.isEmpty || !c.isSpace then none
  else
    let c := c.skipWhile isBlankChar
    let (t, c) ←
      if name == "YAML".toList then do
        let (major, c) ← versionNumber c
        if !c.sees (· = '.') then none
        else
          let (minor, c) ← versionNumber c.skip
          some (Token.versionDirective major minor, c)
      else if name == "TAG".toList then do
        let (handle, c) ← tagHandle true c
        if !c.isBlank then none
        else
          let c := c.skipWhile isBlankChar
          let (lead, c) ← tagUri (c.rest.length + 1) true [] c
          if lead.isEmpty || !c.isSpace then none
          else some (Token.tagDirective (String.ofList handle) (String.ofList lead), c)
      else none
    let c := c.skipWhile isBlankChar
    let c := if c.sees (· = '#') then c.skipWhile fun ch => !isBreakChar ch else c
    if !c.isBreakOrEnd then none else some ((l.moveTo c.skipBreak).push t)

def blockScalarToken (l : Lexer) (literal : Bool) : Option Lexer := do
  let l ← l.dropKey
  let (text, c) ← blockScalar literal l.indent l.cursor.skip
  some (({ l with keyAllowed := true }.moveTo c).push
    (.scalar (if literal then .literal else .folded) (String.ofList text)))

def quotedToken (l : Lexer) (single : Bool) : Option Lexer := do
  let l ← l.saveKey
  let c := l.cursor.skip
  let (text, c) ← quotedScalar (c.rest.length + 2) single [] c
  some (({ l with keyAllowed := false }.moveTo c).push
    (.scalar (if single then .singleQuoted else .doubleQuoted) (String.ofList text)))

def plainToken (l : Lexer) : Option Lexer := do
  let l ← l.saveKey
  let (text, c, broken) ←
    plainScalar (l.cursor.rest.length + 2) l.inFlow (l.indent + 1).toNat [] Fold.none l.cursor
  some (({ l with keyAllowed := broken }.moveTo c).push (.scalar .plain (String.ofList text)))

/-- The characters that begin no plain scalar. -/
def isIndicator (ch : Char) : Bool := "-?:,[]\x7b\x7d#&*!|>'\"%@\x60".toList.contains ch

def token (l : Lexer) : Option Lexer :=
  let c := l.cursor
  match c.peek? with
  | none => none
  | some ch =>
    if c.column = 0 && ch = '%' then l.directive
    else if c.isMarker '-' then l.marker .documentStart
    else if c.isMarker '.' then l.marker .documentEnd
    else if ch = '[' then l.flowStart .flowSequenceStart
    else if ch = '\x7b' then l.flowStart .flowMappingStart
    else if ch = ']' then l.flowEnd .flowSequenceEnd
    else if ch = '\x7d' then l.flowEnd .flowMappingEnd
    else if ch = ',' then l.flowEntry
    else if ch = '-' && c.isSpaceAt 1 then l.blockEntry
    else if ch = '?' && (l.inFlow || c.isSpaceAt 1) then l.explicitKey
    else if ch = ':' && (l.inFlow || c.isSpaceAt 1) then l.valueMark
    else if ch = '*' then l.anchor .alias
    else if ch = '&' then l.anchor .anchor
    else if ch = '!' then l.tag
    else if ch = '|' && !l.inFlow then l.blockScalarToken true
    else if ch = '>' && !l.inFlow then l.blockScalarToken false
    else if ch = '\'' then l.quotedToken true
    else if ch = '"' then l.quotedToken false
    else if !isIndicator ch && !isBlankChar ch then l.plainToken
    else if ch = '-' && !c.seesAt 1 isBlankChar then l.plainToken
    else if !l.inFlow && (ch = '?' || ch = ':') && !c.isSpaceAt 1 then l.plainToken
    else none

def run : Nat → Lexer → Option (List Token)
  | 0, _ => none
  | fuel + 1, l => do
    let l := l.skipToToken (l.cursor.rest.length + 1)
    let l ← l.refreshKeys
    let l := l.dedentTo l.cursor.column
    if l.cursor.atEnd then
      let l ← l.endBlocks
      some (l.push .streamEnd).tokens.toList
    else
      let l ← l.token
      run fuel l

end Lexer

/-- The tokens of a text, or nothing if it is no YAML. A byte-order mark at the start is no part of it. -/
def tokens? (text : String) : Option (List Token) :=
  let cs := text.toList
  let cs := if cs.head?.any (·.toNat = 0xFEFF) then cs.drop 1 else cs
  if !cs.all isPrintable then none
  else
    Lexer.run (cs.length + 2)
      { cursor := Cursor.start cs
        tokens := #[]
        indent := -1
        indents := []
        keyAllowed := true
        possible := none
        outer := [] }

end Gatehouse.Yaml
