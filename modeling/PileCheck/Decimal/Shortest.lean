/-!
The shortest decimal that reads back as a given binary number.

A positive binary64 value is `mant · 2 ^ expo`. All reals between the midpoints to its two
neighbours round to it, the midpoints included exactly when the mantissa is even. Grids of one, two
and up to seventeen decimal digits are tried in turn; on each only the two points next to the value
need a look, since a grid that meets the interval at all meets it in one of them. Everything is
exact arithmetic on naturals.
-/
namespace PileCheck.Decimal

/-- Which of two equally near decimals is taken. -/
inductive Tie where
  | toEven
  | up
  deriving DecidableEq, Repr

/-- A finite binary64 magnitude, or one of the values outside the numbers. -/
inductive Magnitude where
  | zero
  | finite (mant : Nat) (expo : Int)
  | infinite
  | undefined
  deriving DecidableEq, Repr

/-- The bit that a normal value has in front of its 52 fraction bits. -/
def leadingBit : Nat := 1 <<< 52

/-- Sign and magnitude of a 64-bit pattern. -/
def ofBits (bits : UInt64) : Bool × Magnitude :=
  let n : Nat := bits.toNat
  let sign := n >>> 63 == 1
  let exponent : Nat := n >>> 52 % 2048
  let fraction := n % leadingBit
  let magnitude :=
    if exponent = 2047 then (if fraction = 0 then .infinite else .undefined)
    else if exponent = 0 then (if fraction = 0 then .zero else .finite fraction (-1074))
    else .finite (fraction + leadingBit) ((exponent : Int) - 1075)
  (sign, magnitude)

/-- A value and the two ends of its rounding interval, in units of `1 / scale`. -/
structure Window where
  low : Nat
  value : Nat
  high : Nat
  scale : Nat
  closed : Bool

/-- Below a power of two the neighbour is only half as far away. -/
def window (mant : Nat) (expo : Int) : Window :=
  let near := mant = leadingBit ∧ expo ≠ -1074
  let down := if near then 1 else 2
  let shift := expo.toNat
  let scale := 4 <<< (-expo).toNat
  { low := (4 * mant - down) <<< shift
    value := (4 * mant) <<< shift
    high := (4 * mant + 2) <<< shift
    scale := scale
    closed := mant % 2 = 0 }

/-- Whether `num / den` lies in the window. -/
def Window.holds (w : Window) (num den : Nat) : Bool :=
  let low := w.low * den
  let high := w.high * den
  let point := num * w.scale
  if w.closed then low ≤ point && point ≤ high else low < point && point < high

/-- The point of the grid `10 ^ power` that lies in the window and is nearest to its value. -/
def Window.nearest? (w : Window) (tie : Tie) (power : Int) : Option Nat :=
  let up := Nat.pow 10 power.toNat
  let down := Nat.pow 10 (-power).toNat
  let below := w.value * down / (w.scale * up)
  let above := below + 1
  let inside (k : Nat) := w.holds (k * up) down
  let gapBelow := w.value * down - below * (w.scale * up)
  let gapAbove := above * (w.scale * up) - w.value * down
  match inside below, inside above with
  | false, false => none
  | true, false => some below
  | false, true => some above
  | true, true =>
    if gapBelow < gapAbove then some below
    else if gapAbove < gapBelow then some above
    else match tie with
      | .toEven => some (if below % 2 = 0 then below else above)
      | .up => some above

/-- How many decimal digits the whole part has. -/
def wholeDigits (n : Nat) : Nat :=
  if n = 0 then 0 else wholeDigits (n / 10) + 1
  termination_by n

/-- Where the point stands: the value is below `10 ^ point` and no smaller power is above it. -/
def Window.point (w : Window) : Int :=
  let whole := w.value / w.scale
  if whole = 0 then
    -- The reciprocal, rounded up, is above a power of ten exactly when the value is below its
    -- inverse.
    1 - wholeDigits ((w.scale + w.value - 1) / w.value - 1)
  else wholeDigits whole

/-- Trailing zeros move from the digits into the power. -/
def normalize (digits : Nat) (power : Int) : Nat × Int :=
  if h : digits ≠ 0 ∧ digits % 10 = 0 then normalize (digits / 10) (power + 1) else (digits, power)
  termination_by digits
  decreasing_by omega

/-- Digits `d` and power `p` such that `d · 10 ^ p` is the shortest decimal that rounds to
`mant · 2 ^ expo`, and of several the nearest. -/
def shortest (tie : Tie) (mant : Nat) (expo : Int) : Nat × Int :=
  let w := window mant expo
  let point := w.point
  let grids := (List.range 17).map fun (k : Nat) => point - (k + 1 : Nat)
  match grids.findSome? fun power => (w.nearest? tie power).map (·, power) with
  | some (digits, power) => normalize digits power
  | none => (0, 0)

end PileCheck.Decimal
