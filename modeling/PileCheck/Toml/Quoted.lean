import PileCheck.Numeral

/-!
Quoted texts.

A text stands between quotes or apostrophes, on one line, or between three of either, over any
number of lines. Only between quotes does a backslash escape. The readers get what follows the
opening and return the text and what follows the closing; they are given as many steps as there are
characters, and need no more.
-/
namespace PileCheck.Toml

/-- Characters that stand for themselves: all but the controls, and the tab. -/
def isPlain (c : Char) : Bool := c == '\t' || (' ' ≤ c && c.toNat ≠ 0x7F)

def isBlank (c : Char) : Bool := c == ' ' || c == '\t'

/-- What follows the end of a line. -/
def afterLineBreak? : List Char → Option (List Char)
  | '\n' :: cs => some cs
  | '\r' :: '\n' :: cs => some cs
  | _ => none

/-! ## Escapes -/

def simpleEscape? : Char → Option Char
  | 'b' => some '\x08'
  | 't' => some '\t'
  | 'n' => some '\n'
  | 'f' => some '\x0c'
  | 'r' => some '\r'
  | '\"' => some '\"'
  | '\\' => some '\\'
  | _ => none

/-- A character by its number, in so many hexadecimal digits. -/
def numbered? (width : Nat) (cs : List Char) : Option (Char × List Char) :=
  (((cs.take width).mapM Numeral.hexValue?).filter (·.length = width)).bind fun ds =>
    let n := ds.foldl (fun n d => n * 16 + d) 0
    if n.isValidChar then some (Char.ofNat n, cs.drop width) else none

/-- The character that an escape stands for, and what follows. -/
def escape? : List Char → Option (Char × List Char)
  | 'u' :: cs => numbered? 4 cs
  | 'U' :: cs => numbered? 8 cs
  | c :: cs => (simpleEscape? c).map (·, cs)
  | [] => none

/-- What follows blanks and line breaks. -/
def skipBreaks : List Char → List Char
  | '\r' :: '\n' :: cs => skipBreaks cs
  | c :: cs => if isBlank c || c == '\n' then skipBreaks cs else c :: cs
  | [] => []

/-- What follows a line break that has been escaped, with the blanks around it. -/
def afterEscapedBreak? (cs : List Char) : Option (List Char) :=
  (afterLineBreak? (cs.dropWhile isBlank)).map skipBreaks

/-! ## Texts -/

/-- A reader of the text that is left: the text, and what follows it. -/
abbrev Reading := Option (List Char × List Char)

def Reading.push (c : Char) (r : Reading) : Reading := r.map fun (s, rest) => (c :: s, rest)

/-- Between quotes. -/
def quoted? : Nat → List Char → Reading
  | 0, _ => none
  | _ + 1, [] => none
  | n + 1, c :: cs =>
    if c = '\"' then some ([], cs)
    else if c = '\\' then (escape? cs).bind fun (c, cs) => (quoted? n cs).push c
    else if isPlain c then (quoted? n cs).push c
    else none

/-- Between apostrophes. -/
def literal? : List Char → Reading
  | [] => none
  | c :: cs =>
    if c = '\'' then some ([], cs) else if isPlain c then (literal? cs).push c else none

/-- The closing of a long text, right where three marks stand: one or two more before them belong
to the text. -/
def closing? (mark : Char) : List Char → Reading
  | a :: b :: c :: cs =>
    if a = mark ∧ b = mark ∧ c = mark then
      match cs with
      | d :: e :: rest =>
        if d = mark ∧ e = mark then some ([mark, mark], rest)
        else if d = mark then some ([mark], e :: rest)
        else some ([], cs)
      | [d] => if d = mark then some ([mark], []) else some ([], cs)
      | [] => some ([], [])
    else none
  | _ => none

/-- Between three marks; backslashes escape if the marks are quotes. -/
def long? (mark : Char) (escapes : Bool) : Nat → List Char → Reading
  | 0, _ => none
  | _ + 1, [] => none
  | n + 1, c :: cs =>
    match closing? mark (c :: cs), afterLineBreak? (c :: cs) with
    | some closed, _ => some closed
    | none, some cs => (long? mark escapes n cs).push '\n'
    | none, none =>
      if escapes && c == '\\' then
        match afterEscapedBreak? cs with
        | some cs => long? mark escapes n cs
        | none => (escape? cs).bind fun (c, cs) => (long? mark escapes n cs).push c
      else if isPlain c then (long? mark escapes n cs).push c
      else none

/-- A line break right after the opening does not count. -/
def opened (cs : List Char) : List Char := (afterLineBreak? cs).getD cs

/-- A text on one line, for which a key may stand as well. -/
def short? : List Char → Reading
  | '\"' :: cs => quoted? (cs.length + 1) cs
  | '\'' :: cs => literal? cs
  | _ => none

/-- A text of either length. -/
def text? : List Char → Reading
  | '\"' :: '\"' :: '\"' :: cs => long? '\"' true (cs.length + 1) (opened cs)
  | '\'' :: '\'' :: '\'' :: cs => long? '\'' false (cs.length + 1) (opened cs)
  | cs => short? cs

end PileCheck.Toml
