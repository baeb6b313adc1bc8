import Gatehouse.Json
import Gatehouse.Binary64.Shortest
import Gatehouse.Text.Quoted

/-!
JSON text without any blanks. A string escapes the quote, the backslash and the characters below
space: five of those have a letter, the rest are written with four hexadecimal digits.
-/
namespace Gatehouse.Json

def escapeChar (c : Char) : List Char :=
  match c with
  | '"' => ['\\', '"']
  | '\\' => ['\\', '\\']
  | '\n' => ['\\', 'n']
  | '\r' => ['\\', 'r']
  | '\t' => ['\\', 't']
  | c =>
    if c.toNat = 8 then ['\\', 'b']
    else if c.toNat = 12 then ['\\', 'f']
    else if c.toNat < 0x20 then
      let ds := Text.Quoted.hexDigits c.toNat
      '\\' :: 'u' :: List.replicate (4 - ds.length) '0' ++ ds
    else [c]

def quote (s : String) : String :=
  String.ofList ('"' :: s.toList.flatMap escapeChar ++ ['"'])

mutual

def render : Json → String
  | .null => "null"
  | .bool b => if b then "true" else "false"
  | .int i => Text.Decimal.intText i
  | .float f => if f.isFinite then f.text else "null"
  | .text s => quote s
  | .array items => "[" ++ renderItems items ++ "]"
  | .object entries => "\x7b" ++ renderEntries entries ++ "\x7d"

def renderItems : List Json → String
  | [] => ""
  | [item] => render item
  | item :: items => render item ++ "," ++ renderItems items

def renderEntries : List (String × Json) → String
  | [] => ""
  | [(k, v)] => quote k ++ ":" ++ render v
  | (k, v) :: rest => quote k ++ ":" ++ render v ++ "," ++ renderEntries rest

end
end Gatehouse.Json
