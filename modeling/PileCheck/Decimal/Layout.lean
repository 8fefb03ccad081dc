import PileCheck.Decimal.Shortest
import PileCheck.Numeral

/-!
Binary numbers as text.

`render` writes the shortest decimal of a value in one of several layouts. A layout says up to
which size a number is written with its point in place, and what a whole number carries after its
digits.
-/
namespace PileCheck.Decimal

/-- The decisions of one number format. -/
structure Layout where
  tie : Tie
  /-- Positional for a point strictly above the first and at most at the second; always, if
  absent. -/
  positional : Option (Int × Int)
  /-- Follows the digits of a whole number. -/
  wholeSuffix : List Char

/-- Numbers in a JSON document: positional from `0.00001` up to sixteen places, whole numbers end
in `.0`, a tie goes to the even digit. -/
def Layout.document : Layout := ⟨.toEven, some (-5, 16), ['.', '0']⟩

/-- Numbers in a table cell: always positional, nothing after a whole number, a tie goes up. -/
def Layout.cell : Layout := ⟨.up, none, []⟩

def zeros (n : Int) : List Char := List.replicate n.toNat '0'

/-- Digits with the point in place; `point` counts the digits before it. -/
def placed (wholeSuffix ds : List Char) (point : Int) : List Char :=
  if point ≤ 0 then ['0', '.'] ++ zeros (-point) ++ ds
  else if ds.length ≤ point then ds ++ zeros (point - ds.length) ++ wholeSuffix
  else ds.take point.toNat ++ '.' :: ds.drop point.toNat

/-- One digit, the others after the point, and the power of ten. -/
def scientific (ds : List Char) (point : Int) : List Char :=
  let mantissa := match ds with
    | d :: rest@(_ :: _) => d :: '.' :: rest
    | ds => ds
  mantissa ++ 'e' :: Numeral.intChars (point - 1)

def Layout.inPlace (l : Layout) (point : Int) : Bool :=
  match l.positional with
  | none => true
  | some (low, high) => low < point && point ≤ high

def Layout.magnitudeText (l : Layout) : Magnitude → List Char
  | .zero => '0' :: l.wholeSuffix
  | .infinite => ['i', 'n', 'f']
  | .undefined => ['N', 'a', 'N']
  | .finite mant expo =>
    let (n, power) := shortest l.tie mant expo
    let ds := Numeral.digits n
    let point := power + ds.length
    if l.inPlace point then placed l.wholeSuffix ds point else scientific ds point

/-- The text of a value; only a number that is none carries no sign. -/
def Layout.chars (l : Layout) (x : Float) : List Char :=
  match ofBits x.toBits with
  | (_, .undefined) => l.magnitudeText .undefined
  | (true, magnitude) => '-' :: l.magnitudeText magnitude
  | (false, magnitude) => l.magnitudeText magnitude

def Layout.render (l : Layout) (x : Float) : String := String.ofList (l.chars x)

end PileCheck.Decimal
