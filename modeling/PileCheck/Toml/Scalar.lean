import PileCheck.Numeral
import PileCheck.Settings.Source

/-!
Values that are one word: truths, numbers and moments.

Digits may be grouped by single underscores. A number has no leading zeros; a whole one may be
written in base 16, 8 or 2 and has 64 bits. A moment is a date, a time of day, or both, with or
without an offset; of its value nothing is kept.
-/
namespace PileCheck.Toml

open Settings (Source)

/-! ## Numbers -/

/-- The digits of a run, without the underscores between them. -/
def digits? (isDigit : Char → Bool) : List Char → Option (List Char)
  | [] => none
  | [c] => if isDigit c then some [c] else none
  | c :: '_' :: d :: rest =>
    if isDigit c then (digits? isDigit (d :: rest)).map (c :: ·) else none
  | c :: rest => if isDigit c then (digits? isDigit rest).map (c :: ·) else none

/-- The number that a digit string stands for in some base up to 16. -/
def valueIn (base : Nat) (ds : List Char) : Nat :=
  ds.foldl (fun n c => n * base + (Numeral.hexValue? c).getD 0) 0

def isDigitIn (base : Nat) (c : Char) : Bool := (Numeral.hexValue? c).any (· < base)

def inBase? (base : Nat) (cs : List Char) : Option Int :=
  (digits? (isDigitIn base) cs).map fun ds => Int.ofNat (valueIn base ds)

/-- Decimal digits without leading zeros. -/
def wholeDigits? (cs : List Char) : Option (List Char) :=
  (digits? Char.isDigit cs).filter fun ds => ds.head? ≠ some '0' ∨ ds.length = 1

def whole? (cs : List Char) : Option Int :=
  (wholeDigits? cs).map fun ds => Int.ofNat (Numeral.value ds)

/-- A sign, if there is one, and what it stands before. -/
def signed : List Char → Bool × List Char
  | '-' :: cs => (true, cs)
  | '+' :: cs => (false, cs)
  | cs => (false, cs)

def int? (cs : List Char) : Option Int :=
  (match cs with
    | '0' :: 'x' :: rest => inBase? 16 rest
    | '0' :: 'o' :: rest => inBase? 8 rest
    | '0' :: 'b' :: rest => inBase? 2 rest
    | cs =>
      let (negative, cs) := signed cs
      (whole? cs).map fun n => if negative then -n else n).filter Numeral.fitsInt64

/-- Digits after a dot; without a dot there are none. -/
def splitFraction? (cs : List Char) : Option (List Char × List Char) :=
  let whole := cs.takeWhile (· != '.')
  match cs.dropWhile (· != '.') with
  | [] => (wholeDigits? whole).map (·, [])
  | _ :: fraction =>
    (wholeDigits? whole).bind fun w => (digits? Char.isDigit fraction).map (w, ·)

def isExponentMark (c : Char) : Bool := c == 'e' || c == 'E'

/-- The power of ten after a mark; leading zeros are allowed there. -/
def exponent? (cs : List Char) : Option Int :=
  let (negative, cs) := signed cs
  (digits? Char.isDigit cs).map fun ds =>
    if negative then -Int.ofNat (Numeral.value ds) else Int.ofNat (Numeral.value ds)

/-- Beyond this many places before the point a number is infinite, and behind it zero. -/
def placeLimit : Int := 400

/-- `significand · 10^power`. -/
def scaled (significand : Nat) (power : Int) : Float :=
  if significand = 0 then 0
  else
    let place := power + Int.ofNat (Numeral.digits significand).length
    if placeLimit < place then 1.0 / 0.0
    else if place < -placeLimit then 0
    else if 0 ≤ power then Float.ofScientific significand false power.toNat
    else Float.ofScientific significand true (-power).toNat

def magnitude? (cs : List Char) : Option Float :=
  match cs with
  | ['i', 'n', 'f'] => some (1.0 / 0.0)
  | ['n', 'a', 'n'] => some (0.0 / 0.0)
  | cs =>
    let mantissa := cs.takeWhile fun c => !isExponentMark c
    match splitFraction? mantissa, cs.dropWhile fun c => !isExponentMark c with
    | none, _ => none
    | some (_, []), [] => none
    | some (whole, fraction), [] =>
      some (scaled (Numeral.value (whole ++ fraction)) (-Int.ofNat fraction.length))
    | some (whole, fraction), _ :: power =>
      (exponent? power).map fun p =>
        scaled (Numeral.value (whole ++ fraction)) (p - Int.ofNat fraction.length)

/-- A number too large to be one is refused, but not one that says so or that is negative. -/
def float? (cs : List Char) : Option Float :=
  let (negative, cs) := signed cs
  (magnitude? cs).bind fun x =>
    if negative then some (-x)
    else if x.isInf && cs ≠ ['i', 'n', 'f'] then none
    else some x

/-! ## Moments -/

/-- A number of so many digits within limits, and what follows. -/
def field? (width low high : Nat) (cs : List Char) : Option (Nat × List Char) :=
  let ds := cs.take width
  match Numeral.readDigits? ds with
  | some n =>
    if ds.length = width && low ≤ n && n ≤ high then some (n, cs.drop width) else none
  | none => none

def mark? (c : Char) : List Char → Option (List Char)
  | d :: cs => if c = d then some cs else none
  | [] => none

def isLeapYear (year : Nat) : Bool :=
  year % 4 = 0 && (year % 100 ≠ 0 || year % 400 = 0)

def monthLength (year month : Nat) : Nat :=
  if month = 2 then if isLeapYear year then 29 else 28
  else if month = 4 ∨ month = 6 ∨ month = 9 ∨ month = 11 then 30
  else 31

/-- What follows a date. -/
def afterDate? (cs : List Char) : Option (List Char) := do
  let (year, cs) ← field? 4 0 9999 cs
  let cs ← mark? '-' cs
  let (month, cs) ← field? 2 1 12 cs
  let cs ← mark? '-' cs
  let (_, cs) ← field? 2 1 (monthLength year month) cs
  return cs

/-- What follows a time of day; there may be digits after the seconds. -/
def afterTime? (cs : List Char) : Option (List Char) := do
  let (_, cs) ← field? 2 0 23 cs
  let cs ← mark? ':' cs
  let (_, cs) ← field? 2 0 59 cs
  let cs ← mark? ':' cs
  let (_, cs) ← field? 2 0 60 cs
  match cs with
  | '.' :: d :: cs => if d.isDigit then return cs.dropWhile Char.isDigit else none
  | cs => return cs

def isOffset : List Char → Bool
  | [] => true
  | ['Z'] => true
  | ['z'] => true
  | c :: cs =>
    (c == '+' || c == '-') && ((do
      let (_, cs) ← field? 2 0 23 cs
      let cs ← mark? ':' cs
      let (_, cs) ← field? 2 0 59 cs
      return cs) : Option (List Char)) == some []

def isMoment (cs : List Char) : Bool :=
  match afterDate? cs with
  | some [] => true
  | some (c :: rest) => (c == 'T' || c == 't' || c == ' ') && (afterTime? rest).any isOffset
  | none => afterTime? cs == some []

/-! ## Words -/

def word? : List Char → Option Source
  | ['t', 'r', 'u', 'e'] => some (.bool true)
  | ['f', 'a', 'l', 's', 'e'] => some (.bool false)
  | cs =>
    match int? cs, float? cs with
    | some n, _ => some (.int n)
    | none, some x => some (.float x)
    | none, none => if isMoment cs then some .moment else none

def inWord (c : Char) : Bool :=
  c.isAlphanum || c == '_' || c == '+' || c == '-' || c == '.' || c == ':'

/-- A word, and what follows. A blank before a time of day belongs to the word. -/
def takeWord (cs : List Char) : List Char × List Char :=
  let word := cs.takeWhile inWord
  match cs.dropWhile inWord with
  | ' ' :: d :: rest =>
    if afterDate? word == some [] && d.isDigit then
      (word ++ ' ' :: (d :: rest).takeWhile inWord, (d :: rest).dropWhile inWord)
    else (word, ' ' :: d :: rest)
  | rest => (word, rest)

end PileCheck.Toml
