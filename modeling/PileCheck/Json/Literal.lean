import PileCheck.Json.Basic
import PileCheck.Numeral

/-!
Numbers as they stand in a document.

`Literal.read?` is the grammar: an optional minus, digits without a leading zero, a fraction, an
exponent. `Literal.number?` is the value: a whole number where no point and no exponent stands and
64 bits hold it, and otherwise a binary64 value, computed from as many leading digits as 64 bits
hold and one multiplication or division by a power of ten. A value beyond the finite numbers is
none.
-/
namespace PileCheck.Json

structure Literal where
  negative : Bool
  whole : List Char
  fraction : Option (List Char)
  /-- The exponent's minus sign and digits. -/
  exponent : Option (Bool × List Char)
  deriving Repr, BEq, DecidableEq

namespace Literal

/-- What follows the digits of an exponent's letter. -/
def readExponent? : List Char → Option (Bool × List Char)
  | '-' :: ds => if ds.isEmpty || !ds.all Char.isDigit then none else some (true, ds)
  | '+' :: ds => if ds.isEmpty || !ds.all Char.isDigit then none else some (false, ds)
  | ds => if ds.isEmpty || !ds.all Char.isDigit then none else some (false, ds)

def isExponentMark (c : Char) : Bool := c == 'e' || c == 'E'

/-- The parts after the whole digits. -/
def readTail? (negative : Bool) (whole cs : List Char) : Option Literal :=
  match cs with
  | [] => some ⟨negative, whole, none, none⟩
  | '.' :: rest =>
    let fraction := rest.takeWhile Char.isDigit
    if fraction.isEmpty then none
    else match rest.dropWhile Char.isDigit with
      | [] => some ⟨negative, whole, some fraction, none⟩
      | e :: ds =>
        if isExponentMark e then
          (readExponent? ds).map fun exponent => ⟨negative, whole, some fraction, some exponent⟩
        else none
  | e :: ds =>
    if isExponentMark e then
      (readExponent? ds).map fun exponent => ⟨negative, whole, none, some exponent⟩
    else none

def readUnsigned? (negative : Bool) (cs : List Char) : Option Literal :=
  let whole := cs.takeWhile Char.isDigit
  match whole with
  | [] => none
  | '0' :: _ :: _ => none
  | _ => readTail? negative whole (cs.dropWhile Char.isDigit)

def read? : List Char → Option Literal
  | '-' :: cs => readUnsigned? true cs
  | cs => readUnsigned? false cs

/-! ## Value -/

/-- Digits go into the significand as long as 64 bits hold it; how many went in comes with it. -/
def gather (significand : Nat) : List Char → Nat × Nat
  | [] => (significand, 0)
  | c :: cs =>
    let next := significand * 10 + Numeral.digitValue c
    if next ≤ Numeral.nat64Max then
      let (total, used) := gather next cs
      (total, used + 1)
    else (significand, 0)

def powerOfTen (n : Nat) : Float := Float.ofScientific 1 false n

/-- The largest power of ten that is a finite number. -/
def topPower : Nat := 308

/-- `x · 10 ^ power`, or nothing where that is not finite. -/
def scale? (x : Float) (power : Int) : Option Float :=
  if _h : power < -topPower then
    if x == 0 then some x else scale? (x / powerOfTen topPower) (power + topPower)
  else if power < 0 then some (x / powerOfTen power.natAbs)
  else if power ≤ topPower then
    let y := x * powerOfTen power.toNat
    if y.isInf then none else some y
  else if x == 0 then some x else none
  termination_by (-power).toNat
  decreasing_by simp only [topPower] at *; omega

/-- The magnitude of a literal with a fraction, an exponent or too many digits. -/
def magnitude? (l : Literal) : Option Float :=
  let (leading, used) := gather 0 l.whole
  let (significand, places) := gather leading (l.fraction.getD [])
  let power : Int := (l.whole.length - used : Nat) - (places : Int)
  let x := significand.toUInt64.toFloat
  match l.exponent with
  | none => scale? x power
  | some (down, ds) =>
    let size := Numeral.value ds
    if size ≤ Numeral.int32Max.toNat then scale? x (if down then power - size else power + size)
    else if down || significand == 0 then some 0
    else none

/-- A whole number of 64 bits; minus zero is not one. -/
def whole? (l : Literal) : Option Int :=
  if l.fraction.isSome || l.exponent.isSome then none
  else
    let n := Numeral.value l.whole
    if l.negative then
      if n = 0 || -(n : Int) < Numeral.int64Min then none else some (-(n : Int))
    else if n ≤ Numeral.nat64Max then some n else none

def number? (l : Literal) : Option Number :=
  match l.whole? with
  | some n => some (.int n)
  | none => l.magnitude?.map fun x => .float (if l.negative then -x else x)

end Literal
end PileCheck.Json
