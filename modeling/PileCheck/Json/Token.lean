import PileCheck.Json.Literal

/-!
The tokens of a document.

`Lexer.step` takes one character; `scan?` runs it over a text. A quoted text is kept as the code
units it spells, so that a surrogate without its partner is seen where a text is wanted and not
before (`textOfUnits?`).
-/
namespace PileCheck.Json

inductive Token where
  | openObject
  | closeObject
  | openList
  | closeList
  | colon
  | comma
  | null
  | bool (b : Bool)
  | numeral (l : Literal)
  | text (units : List Nat)
  deriving Repr, BEq, DecidableEq

/-- What the characters since the last token are part of. -/
inductive Lexer.Mode where
  | between
  | numeral (read : List Char)
  | word (read : List Char)
  | text (units : List Nat)
  | escape (units : List Nat)
  /-- In a numbered escape: digits still owed and the value so far. -/
  | unit (units : List Nat) (owed value : Nat)
  deriving Repr, BEq, DecidableEq

/-- Tokens and characters read so far, the newest first. -/
structure Lexer where
  mode : Lexer.Mode
  tokens : List Token
  deriving Repr, BEq, DecidableEq

def isSpace (c : Char) : Bool := c == ' ' || c == '\t' || c == '\n' || c == '\r'

def inNumeral (c : Char) : Bool :=
  c.isDigit || c == '-' || c == '+' || c == '.' || c == 'e' || c == 'E'

def wordToken? : List Char → Option Token
  | ['n', 'u', 'l', 'l'] => some .null
  | ['t', 'r', 'u', 'e'] => some (.bool true)
  | ['f', 'a', 'l', 's', 'e'] => some (.bool false)
  | _ => none

def simpleEscape? : Char → Option Nat
  | '\"' => some 0x22
  | '\\' => some 0x5C
  | '/' => some 0x2F
  | 'b' => some 0x08
  | 'f' => some 0x0C
  | 'n' => some 0x0A
  | 'r' => some 0x0D
  | 't' => some 0x09
  | _ => none

namespace Lexer

/-- A character that starts something new. -/
def fresh (tokens : List Token) (c : Char) : Option Lexer :=
  if isSpace c then some ⟨.between, tokens⟩
  else match c with
    | '\x7b' => some ⟨.between, .openObject :: tokens⟩
    | '\x7d' => some ⟨.between, .closeObject :: tokens⟩
    | '[' => some ⟨.between, .openList :: tokens⟩
    | ']' => some ⟨.between, .closeList :: tokens⟩
    | ':' => some ⟨.between, .colon :: tokens⟩
    | ',' => some ⟨.between, .comma :: tokens⟩
    | '\"' => some ⟨.text [], tokens⟩
    | c =>
      if c.isDigit || c == '-' then some ⟨.numeral [c], tokens⟩
      else if c.isLower then some ⟨.word [c], tokens⟩
      else none

/-- Ends a numeral or a word, which only the next character does. -/
def flush? (l : Lexer) : Option (List Token) :=
  match l.mode with
  | .between => some l.tokens
  | .numeral read => (Literal.read? read.reverse).map fun n => .numeral n :: l.tokens
  | .word read => (wordToken? read.reverse).map (· :: l.tokens)
  | _ => none

def step (l : Lexer) (c : Char) : Option Lexer :=
  match l.mode with
  | .between => fresh l.tokens c
  | .numeral read =>
    if inNumeral c then some ⟨.numeral (c :: read), l.tokens⟩
    else l.flush?.bind fun tokens => fresh tokens c
  | .word read =>
    if c.isLower then some ⟨.word (c :: read), l.tokens⟩
    else l.flush?.bind fun tokens => fresh tokens c
  | .text units =>
    if c == '\"' then some ⟨.between, .text units.reverse :: l.tokens⟩
    else if c == '\\' then some ⟨.escape units, l.tokens⟩
    else if c.toNat < 0x20 then none
    else some ⟨.text (c.toNat :: units), l.tokens⟩
  | .escape units =>
    if c == 'u' then some ⟨.unit units 4 0, l.tokens⟩
    else (simpleEscape? c).map fun n => ⟨.text (n :: units), l.tokens⟩
  | .unit units owed value =>
    (Numeral.hexValue? c).map fun h =>
      let value := value * 16 + h
      if owed ≤ 1 then ⟨.text (value :: units), l.tokens⟩
      else ⟨.unit units (owed - 1) value, l.tokens⟩

def run (l : Lexer) : List Char → Option Lexer
  | [] => some l
  | c :: cs => (l.step c).bind fun l => l.run cs

end Lexer

/-- The tokens of a text. -/
def scan? (cs : List Char) : Option (List Token) :=
  ((Lexer.run ⟨.between, []⟩ cs).bind Lexer.flush?).map List.reverse

/-! ## Code units -/

def isHighSurrogate (n : Nat) : Bool := 0xD800 ≤ n && n ≤ 0xDBFF

def isLowSurrogate (n : Nat) : Bool := 0xDC00 ≤ n && n ≤ 0xDFFF

/-- The characters of a unit sequence: a surrogate pair is one, a surrogate alone is none. -/
def charsOfUnits? : List Nat → Option (List Char)
  | [] => some []
  | [n] => if isHighSurrogate n || isLowSurrogate n then none else some [Char.ofNat n]
  | n :: m :: rest =>
    if isHighSurrogate n then
      if isLowSurrogate m then
        let c := Char.ofNat (0x10000 + (n - 0xD800) * 0x400 + (m - 0xDC00))
        (charsOfUnits? rest).map (c :: ·)
      else none
    else if isLowSurrogate n then none
    else (charsOfUnits? (m :: rest)).map (Char.ofNat n :: ·)

def textOfUnits? (units : List Nat) : Option String :=
  (charsOfUnits? units).map String.ofList

end PileCheck.Json
