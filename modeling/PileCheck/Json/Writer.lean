import PileCheck.Json.Basic
import PileCheck.Decimal.Layout

/-!
Writing a document.

The text is compact. A text escapes the quote, the backslash and the control characters below the
space, and nothing else.
-/
namespace PileCheck.Json

def hexDigit (n : Nat) : Char := if n < 10 then Char.ofNat (48 + n) else Char.ofNat (87 + n)

/-- A character inside quotes. -/
def escaped (c : Char) : List Char :=
  match c with
  | '\"' => ['\\', '\"']
  | '\\' => ['\\', '\\']
  | '\n' => ['\\', 'n']
  | '\r' => ['\\', 'r']
  | '\t' => ['\\', 't']
  | '\x08' => ['\\', 'b']
  | '\x0c' => ['\\', 'f']
  | c =>
    if c.toNat < 0x20 then
      ['\\', 'u', '0', '0', hexDigit (c.toNat / 16), hexDigit (c.toNat % 16)]
    else [c]

def quoted (s : String) : List Char := '\"' :: s.toList.flatMap escaped ++ ['\"']

def Number.chars : Number → List Char
  | .int n => Numeral.intChars n
  | .float x => Decimal.Layout.document.chars x

mutual

def chars : Json → List Char
  | .null => ['n', 'u', 'l', 'l']
  | .bool true => ['t', 'r', 'u', 'e']
  | .bool false => ['f', 'a', 'l', 's', 'e']
  | .number n => n.chars
  | .text s => quoted s
  | .list items => '[' :: itemChars items
  | .object members => '\x7b' :: memberChars members

/-- The items of a list up to its closing bracket. -/
def itemChars : List Json → List Char
  | [] => [']']
  | [v] => chars v ++ [']']
  | v :: w :: rest => chars v ++ ',' :: itemChars (w :: rest)

/-- The members of an object up to its closing brace. -/
def memberChars : List (String × Json) → List Char
  | [] => ['\x7d']
  | [(name, v)] => quoted name ++ ':' :: chars v ++ ['\x7d']
  | (name, v) :: w :: rest => quoted name ++ ':' :: chars v ++ ',' :: memberChars (w :: rest)

end

def render (v : Json) : String := String.ofList v.chars

end PileCheck.Json
