import Gatehouse.Pattern.Expr
import Gatehouse.Unicode.Fold
import Gatehouse.Unicode.Script

/-!
What stands behind a backslash, and the flags that give letters and classes their meaning. Class names
are compared without regard to case, blanks, hyphens and underscores, and without `is` in front.
-/
namespace Gatehouse.Pattern
open Unicode (CharSet)

structure Flags where
  anyCase : Bool := false
  multiLine : Bool := false
  dotAll : Bool := false
  everyScript : Bool := true
  pairs : Bool := false
  verbose : Bool := false
  deriving DecidableEq, Repr

/-- Drops blanks, and comments up to the end of their line. -/
def dropBlanks (comment : Bool) : List Char → List Char
  | [] => []
  | c :: cs =>
    if comment then dropBlanks (c ≠ '\n') cs
    else if Text.isBlank c then dropBlanks false cs
    else if c = '#' then dropBlanks true cs
    else c :: cs

/-- What comes next. In verbose patterns blanks and comments say nothing. -/
def Flags.skip (f : Flags) (cs : List Char) : List Char :=
  if f.verbose then dropBlanks false cs else cs

def foldAscii (s : CharSet) : CharSet :=
  let letters := (List.range 26).flatMap fun i =>
    let lower := (97 + i, 97 + i)
    let upper := (65 + i, 65 + i)
    if s.containsCode (97 + i) || s.containsCode (65 + i) then [lower, upper] else []
  s.union (CharSet.ofRanges letters)

/-- Adds what differs by case alone, if the flags ask for it. -/
def Flags.fold (f : Flags) (s : CharSet) : CharSet :=
  if !f.anyCase then s else if f.everyScript then Unicode.closeUnderFolding s else foldAscii s

/-- The complement of a class. Without the classes of all scripts it would hold bytes that are no
character, so there it is refused. -/
def Flags.negate? (f : Flags) (s : CharSet) : Option CharSet :=
  if f.everyScript then some s.complement else none

def Flags.foldAndNegate? (f : Flags) (negated : Bool) (s : CharSet) : Option CharSet :=
  if negated then f.negate? (f.fold s) else some (f.fold s)

/-- A part of a pattern that takes up one character, or none. -/
inductive Primitive where
  /-- A character; `isByte` if it was written as a byte of two hexadecimal digits. -/
  | char (c : Char) (isByte : Bool)
  | set (s : CharSet)
  | check (a : Assertion)

def isMeta (c : Char) : Bool := "\\.+*?()|[]\x7b\x7d^$#&-~".toList.contains c

def isAsciiAlphanumeric (c : Char) : Bool :=
  ('0' ≤ c ∧ c ≤ '9') ∨ ('A' ≤ c ∧ c ≤ 'Z') ∨ ('a' ≤ c ∧ c ≤ 'z')

/-- The simple names of classes, without regard to spelling. -/
def className (cs : List Char) : String :=
  let lower := (cs.map Char.toLower)
  let isNamed := ['i', 's'].isPrefixOf lower
  let core := (if isNamed then lower.drop 2 else lower).filter fun c =>
    c ≠ ' ' ∧ c ≠ '_' ∧ c ≠ '-' ∧ c.toNat < 0x80
  if isNamed ∧ core = ['c'] then "isc" else String.ofList core

/-- A class by one name: a property, a category or a script, in this order. -/
def namedClass? (name : String) : Option CharSet :=
  let property := if name = "cf" ∨ name = "sc" ∨ name = "lc" then none else Unicode.property? name
  property <|> Unicode.category? name <|> Unicode.script? name

/-- A class by the name of a property and its value. -/
def valuedClass? (property value : String) : Option CharSet :=
  if property = "gc" ∨ property = "generalcategory" then Unicode.category? value
  else if property = "sc" ∨ property = "script" then Unicode.script? value
  else none

/-- The text before and after the first place where `sep` stands. -/
def cut? (sep : List Char) : List Char → Option (List Char × List Char)
  | [] => none
  | c :: cs =>
    if sep.isPrefixOf (c :: cs) then some ([], (c :: cs).drop sep.length)
    else (cut? sep cs).map fun r => (c :: r.1, r.2)

/-- The class of a text in braces, and whether it says "not". -/
def bracedClass? (cs : List Char) : Option (CharSet × Bool) :=
  let valued (negated : Bool) (r : List Char × List Char) : Option (CharSet × Bool) :=
    (valuedClass? (className r.1) (className r.2)).map fun s => (s, negated)
  match cut? ['!', '='] cs, cut? [':'] cs, cut? ['='] cs with
  | some r, _, _ => valued true r
  | none, some r, _ => valued false r
  | none, none, some r => valued false r
  | none, none, none => (namedClass? (className cs)).map fun s => (s, false)

/-- Reads up to a closing brace, passing over blanks as the flags say. -/
def upToBrace (f : Flags) : Nat → List Char → Option (List Char × List Char)
  | 0, _ => none
  | fuel + 1, cs =>
    match f.skip cs with
    | [] => none
    | '\x7d' :: rest => some ([], rest)
    | c :: rest => (upToBrace f fuel rest).map fun r => (c :: r.1, r.2)

/-- A class of letters behind `p` or `P`. -/
def unicodeClass? (f : Flags) (negated : Bool) (cs : List Char) : Option (CharSet × List Char) := do
  let ((set, isNot), rest) ←
    match f.skip cs with
    | [] => none
    | '\x7b' :: rest => do
      let (name, rest) ← upToBrace f (rest.length + 1) rest
      some (← bracedClass? name, rest)
    | '\\' :: _ => none
    | c :: rest => some ((← namedClass? (className [c]), false), f.skip rest)
  if !f.everyScript then none
  else some (← f.foldAndNegate? (negated != isNot) set, rest)

def charOfCode? (n : Nat) : Option Char := if n.isValidChar then some (Char.ofNat n) else none

def hexDigits (f : Flags) : Nat → List Char → Option (List Char × List Char)
  | 0, cs => some ([], cs)
  | n + 1, cs =>
    match f.skip cs with
    | [] => none
    | c :: rest =>
      if (Json.hexValue? c).isNone then none
      else (hexDigits f n rest).map fun r => (c :: r.1, r.2)

/-- A character by its code, in braces or in as many digits as the letter before says. -/
def hexChar? (f : Flags) (width : Nat) (cs : List Char) : Option (Primitive × List Char) := do
  match f.skip cs with
  | '\x7b' :: rest =>
    let (ds, rest) ← upToBrace f (rest.length + 1) rest
    if ds.isEmpty ∨ ds.any fun c => (Json.hexValue? c).isNone then none
    else some (.char (← charOfCode? (CharSet.hexChars ds)) false, rest)
  | cs =>
    let (ds, rest) ← hexDigits f width cs
    some (.char (← charOfCode? (CharSet.hexChars ds)) (width = 2), f.skip rest)

/-- The sets of digits, blanks and word characters. -/
def perlClass (f : Flags) (letter : Char) : CharSet :=
  let asciiBlanks := CharSet.ofRanges [(0x09, 0x0D), (0x20, 0x20)]
  match letter with
  | 'd' => if f.everyScript then Unicode.digits else .ofRanges [(0x30, 0x39)]
  | 's' => if f.everyScript then Unicode.blanks else asciiBlanks
  | _ => if f.everyScript then Unicode.wordChars else asciiWordChars

/-- The part of a word that is named in braces behind `b`. If the first thing in the braces is no letter,
they are left for a repetition. -/
def wordPlace? (f : Flags) (cs : List Char) : Option (WordPlace × List Char) :=
  let isNameChar (c : Char) : Bool := c = '-' || ('A' ≤ c && c ≤ 'Z') || ('a' ≤ c && c ≤ 'z')
  match cs with
  | '\x7b' :: rest =>
    match f.skip rest with
    | [] => none
    | c :: cs' =>
      if !isNameChar c then some (.edge, cs)
      else do
        let (name, rest) ← upToBrace f (cs'.length + 2) (c :: cs')
        match String.ofList name with
        | "start" => some (.start, rest)
        | "end" => some (.finish, rest)
        | "start-half" => some (.startHalf, rest)
        | "end-half" => some (.finishHalf, rest)
        | _ => none
  | cs => some (.edge, cs)

/-- Reads what stands behind a backslash. -/
def escape? (f : Flags) (cs : List Char) : Option (Primitive × List Char) := do
  let word (place : WordPlace) : Primitive := .check (.word place f.everyScript)
  let literal (n : Nat) : Primitive := .char (Char.ofNat n) false
  match cs with
  | [] => none
  | 'x' :: rest => hexChar? f 2 rest
  | 'u' :: rest => hexChar? f 4 rest
  | 'U' :: rest => hexChar? f 8 rest
  | 'p' :: rest => (unicodeClass? f false rest).map fun r => (.set r.1, r.2)
  | 'P' :: rest => (unicodeClass? f true rest).map fun r => (.set r.1, r.2)
  | 'a' :: rest => some (literal 7, rest)
  | 'f' :: rest => some (literal 12, rest)
  | 't' :: rest => some (literal 9, rest)
  | 'n' :: rest => some (literal 10, rest)
  | 'r' :: rest => some (literal 13, rest)
  | 'v' :: rest => some (literal 11, rest)
  | 'A' :: rest => some (.check .textStart, rest)
  | 'z' :: rest => some (.check .textEnd, rest)
  | 'B' :: rest => some (word .inside, rest)
  | '<' :: rest => some (word .start, rest)
  | '>' :: rest => some (word .finish, rest)
  | 'b' :: rest => (wordPlace? f rest).map fun r => (word r.1, r.2)
  | c :: rest =>
    if c = 'd' ∨ c = 's' ∨ c = 'w' then some (.set (perlClass f c), rest)
    else if c = 'D' ∨ c = 'S' ∨ c = 'W' then
      some (.set (← f.negate? (perlClass f c.toLower)), rest)
    else if isMeta c ∨ (c.toNat < 0x80 ∧ !isAsciiAlphanumeric c) then some (.char c false, rest)
    else none

end Gatehouse.Pattern
