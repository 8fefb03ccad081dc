/-!
Whole numbers as text.

`ofNat` and `ofInt` write decimal digits; the readers take an optional sign and ASCII digits and
refuse a number outside their range. Leading zeros are allowed, blanks and separators are not.
-/
namespace PileCheck.Numeral

def digit (d : Nat) : Char := Char.ofNat (48 + d)

def digitValue (c : Char) : Nat := c.toNat - 48

/-- The decimal digits of a number, most significant first. -/
def digits (n : Nat) : List Char :=
  if n < 10 then [digit n] else digits (n / 10) ++ [digit (n % 10)]
  termination_by n

/-- The value of a hexadecimal digit in either case. -/
def hexValue? (c : Char) : Option Nat :=
  if c.isDigit then some (c.toNat - 48)
  else if 'a' ≤ c ∧ c ≤ 'f' then some (c.toNat - 87)
  else if 'A' ≤ c ∧ c ≤ 'F' then some (c.toNat - 55)
  else none

/-- The number that a digit string stands for. -/
def value (ds : List Char) : Nat := ds.foldl (fun n c => n * 10 + digitValue c) 0

def ofNat (n : Nat) : String := String.ofList (digits n)

def intChars : Int → List Char
  | .ofNat n => digits n
  | .negSucc n => '-' :: digits (n + 1)

def ofInt (i : Int) : String := String.ofList (intChars i)

/-- A run of at least one ASCII digit and nothing else. -/
def readDigits? (cs : List Char) : Option Nat :=
  if cs.isEmpty || !cs.all Char.isDigit then none else some (value cs)

/-- A number without a minus sign. -/
def readNat? : List Char → Option Nat
  | '+' :: cs => readDigits? cs
  | cs => readDigits? cs

def readInt? : List Char → Option Int
  | '+' :: cs => (readDigits? cs).map Int.ofNat
  | '-' :: cs => (readDigits? cs).map fun n => -(Int.ofNat n)
  | cs => (readDigits? cs).map Int.ofNat

/-! ## Ranges

A field has the width of a machine word; a number that does not fit is no number of that field. -/

def int64Min : Int := -9223372036854775808
def int64Max : Int := 9223372036854775807
def int32Min : Int := -2147483648
def int32Max : Int := 2147483647
def nat64Max : Nat := 18446744073709551615
def nat32Max : Nat := 4294967295

def fitsInt64 (i : Int) : Bool := int64Min ≤ i && i ≤ int64Max

def fitsInt32 (i : Int) : Bool := int32Min ≤ i && i ≤ int32Max

def int64? (cs : List Char) : Option Int := (readInt? cs).filter fitsInt64

def int32? (cs : List Char) : Option Int := (readInt? cs).filter fitsInt32

def nat32? (cs : List Char) : Option Nat := (readNat? cs).filter (· ≤ nat32Max)

/-! ## Reading what was written -/

theorem digitValue_digit {d : Nat} (h : d < 10) : digitValue (digit d) = d := by
  match d, h with
  | 0, _ | 1, _ | 2, _ | 3, _ | 4, _ | 5, _ | 6, _ | 7, _ | 8, _ | 9, _ => rfl

theorem isDigit_digit {d : Nat} (h : d < 10) : (digit d).isDigit = true := by
  match d, h with
  | 0, _ | 1, _ | 2, _ | 3, _ | 4, _ | 5, _ | 6, _ | 7, _ | 8, _ | 9, _ => rfl

theorem value_append_digit (ds : List Char) {d : Nat} (h : d < 10) :
    value (ds ++ [digit d]) = value ds * 10 + d := by
  simp [value, digitValue_digit h]

theorem digits_ne_nil (n : Nat) : digits n ≠ [] := by
  rw [digits]; split <;> simp

theorem all_isDigit_digits (n : Nat) : (digits n).all Char.isDigit = true := by
  fun_induction digits n with
  | case1 n h => simp [isDigit_digit h]
  | case2 n h ih => simp [ih, isDigit_digit (Nat.mod_lt n (by decide : 0 < 10))]

theorem value_digits (n : Nat) : value (digits n) = n := by
  fun_induction digits n with
  | case1 n h => simp [value, digitValue_digit h]
  | case2 n h ih =>
    rw [value_append_digit _ (Nat.mod_lt n (by decide)), ih]
    omega

theorem readDigits?_digits (n : Nat) : readDigits? (digits n) = some n := by
  have hne : (digits n).isEmpty = false := by
    cases h : digits n with
    | nil => exact absurd h (digits_ne_nil n)
    | cons _ _ => rfl
  simp [readDigits?, hne, all_isDigit_digits, value_digits]

/-- Digits are read without looking for a sign. -/
theorem readNat?_of_isDigit {cs : List Char} (h : cs.all Char.isDigit = true) :
    readNat? cs = readDigits? cs := by
  unfold readNat?
  split
  · simp at h
  · rfl

theorem readInt?_of_isDigit {cs : List Char} (h : cs.all Char.isDigit = true) :
    readInt? cs = (readDigits? cs).map Int.ofNat := by
  unfold readInt?
  split
  · simp at h
  · simp at h
  · rfl

theorem nat32?_digits {n : Nat} (h : n ≤ nat32Max) : nat32? (digits n) = some n := by
  rw [nat32?, readNat?_of_isDigit (all_isDigit_digits n), readDigits?_digits]
  simp [h]

theorem fitsInt64_iff {i : Int} : fitsInt64 i = true ↔ int64Min ≤ i ∧ i ≤ int64Max := by
  rw [fitsInt64, Bool.and_eq_true, decide_eq_true_iff, decide_eq_true_iff]

theorem fitsInt64_natCast {n : Nat} : fitsInt64 (n : Int) = true ↔ (n : Int) ≤ int64Max := by
  have hmin : int64Min ≤ 0 := by decide
  rw [fitsInt64_iff]
  omega

theorem readInt?_intChars (i : Int) : readInt? (intChars i) = some i := by
  cases i with
  | ofNat n =>
    rw [intChars, readInt?_of_isDigit (all_isDigit_digits n), readDigits?_digits]
    rfl
  | negSucc n =>
    show (readDigits? (digits (n + 1))).map _ = _
    rw [readDigits?_digits]
    rfl

theorem int64?_intChars {i : Int} (h : fitsInt64 i = true) : int64? (intChars i) = some i := by
  rw [int64?, readInt?_intChars]
  exact Option.filter_some_pos h

theorem int64?_digits {n : Nat} (h : (n : Int) ≤ int64Max) : int64? (digits n) = some (n : Int) :=
  int64?_intChars (fitsInt64_natCast.2 h)

theorem intChars_ne_nil (i : Int) : intChars i ≠ [] := by
  cases i with
  | ofNat n => exact digits_ne_nil n
  | negSucc n => exact List.cons_ne_nil _ _

/-- Only zero is written with a zero in front. -/
theorem eq_zero_of_head?_digits {n : Nat} (h : (digits n).head? = some '0') : n = 0 := by
  fun_induction digits n with
  | case1 n hn =>
    have hzero : digit n = '0' := by simpa using h
    rw [← digitValue_digit hn, hzero]
    rfl
  | case2 n hn ih =>
    -- the leading digit is that of the quotient, which is not zero
    rw [List.head?_append, List.head?_eq_some_head (digits_ne_nil _), Option.some_or,
      ← List.head?_eq_some_head] at h
    have hquotient := ih h
    omega

end PileCheck.Numeral
