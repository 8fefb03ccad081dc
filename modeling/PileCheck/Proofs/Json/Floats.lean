import PileCheck.Decimal.Layout
import PileCheck.Proofs.Decimal.Digits
import PileCheck.Proofs.Json.ReadBack

/-!
# Binary numbers in a document

A finite number is written as one numeral, and that numeral has a value again (`exists_literal`):
without an exponent it is read with a small power of ten, with a negative one by dividing, and with
a positive one all of its digits are read and its power is the one it was written with, for which
there is room (`isSome_magnitude?_scientificLiteral`).

What is read is finite (`isFinite_of_magnitude?`), so every number that was read can be written and
read again (`Number.readable_of_number?`).
-/

namespace PileCheck.Json

open Decimal (IsFinite Writable zeros placed scientific)

namespace Literal

/-! ## Digits and their value -/

/-- The value of digits after those that have been read. -/
def valueFrom (n : Nat) (ds : List Char) : Nat :=
  ds.foldl (fun n c => n * 10 + Numeral.digitValue c) n

/-- Each digit that follows makes the value larger. Induction on the digits, as for the next lemma.
-/
theorem le_valueFrom (n : Nat) (ds : List Char) : n ≤ valueFrom n ds := by
  induction ds generalizing n with
  | nil => exact Nat.le_refl n
  | cons c cs ih => exact Nat.le_trans (by omega) (ih (n * 10 + Numeral.digitValue c))

/-- Digits that 64 bits hold are read to the last. -/
theorem gather_eq {n : Nat} {ds : List Char} (h : valueFrom n ds ≤ Numeral.nat64Max) :
    gather n ds = (valueFrom n ds, ds.length) := by
  induction ds generalizing n with
  | nil => rfl
  | cons c cs ih =>
    have hnext := Nat.le_trans (le_valueFrom (n * 10 + Numeral.digitValue c) cs) h
    rw [gather]
    simp only [if_pos hnext, ih h]
    rfl

/-- A number below a power of ten has no more digits than that. Induction on the power. -/
theorem length_digits_le {n k : Nat} (h : n < 10 ^ (k + 1)) :
    (Numeral.digits n).length ≤ k + 1 := by
  induction k generalizing n with
  | zero => rw [Numeral.digits, if_pos (by simpa using h)]; exact Nat.le_refl 1
  | succ k ih =>
    rw [Numeral.digits]
    split
    · exact Nat.le_add_left 1 _
    · rw [List.length_append]
      have hquotient := ih (n := n / 10) (by rw [Nat.pow_succ] at h; omega)
      simp only [List.length_singleton]
      omega

/-! ## Literals that have a value -/

/-- A literal with a magnitude has a value, whole or not. -/
theorem isSome_number? {l : Literal} (h : l.magnitude?.isSome = true) :
    l.number?.isSome = true := by
  unfold number?
  cases l.whole? with
  | some n => rfl
  | none => rw [Option.isSome_map]; exact h

/-- The significand has 64 bits, for which there is room wherever the power is not very large. -/
theorem isSome_scale?_of_le (n : UInt64) {power : Int} (h : power ≤ 288) :
    (scale? n.toFloat power).isSome = true := by
  by_cases hneg : power < 0
  · exact Decimal.isSome_scale?_of_neg _ hneg
  · obtain ⟨k, rfl⟩ := Int.eq_ofNat_of_zero_le (Int.not_lt.1 hneg)
    refine Decimal.isSome_scale? (by simp only [topPower]; omega) ?_
    rw [Decimal.room, if_pos (by omega)]
    exact Nat.le_trans (Nat.le_of_lt n.toNat_lt) (by decide)

/-- Without an exponent the power is that of the digits before the point. -/
theorem isSome_magnitude?_of_plain {l : Literal} (hexponent : l.exponent = none)
    (hlength : l.whole.length ≤ 288) : l.magnitude?.isSome = true := by
  unfold magnitude?
  simp only [hexponent]
  exact isSome_scale?_of_le _ (by omega)

/-- A negative exponent only makes it smaller. -/
theorem isSome_magnitude?_of_down {l : Literal} {ds : List Char}
    (hexponent : l.exponent = some (true, ds)) (hlength : l.whole.length ≤ 288) :
    l.magnitude?.isSome = true := by
  unfold magnitude?
  simp only [hexponent]
  split
  · exact isSome_scale?_of_le _ (by simp only [if_true]; omega)
  · rfl

/-- One digit before the point and the others after it, all of which 64 bits hold. -/
theorem isSome_magnitude?_of_up {l : Literal} {ds : List Char}
    (hexponent : l.exponent = some (false, ds)) (hwhole : l.whole.length = 1)
    (hvalue : Numeral.value (l.whole ++ l.fraction.getD []) ≤ Numeral.nat64Max)
    (hsize : Numeral.value ds ≤ Numeral.int32Max.toNat)
    (hscale : (scale? (Numeral.value (l.whole ++ l.fraction.getD [])).toUInt64.toFloat
      (Numeral.value ds - (l.fraction.getD []).length)).isSome = true) :
    l.magnitude?.isSome = true := by
  have hfrom : Numeral.value (l.whole ++ l.fraction.getD [])
      = valueFrom (valueFrom 0 l.whole) (l.fraction.getD []) := List.foldl_append ..
  rw [hfrom] at hvalue hscale
  have hleading := gather_eq (Nat.le_trans (le_valueFrom _ _) hvalue)
  have hfraction := gather_eq hvalue
  unfold magnitude?
  simp only [hleading, hfraction, hexponent, hwhole, if_pos hsize]
  have hpower : ((1 - 1 : Nat) : Int) - ((l.fraction.getD []).length : Int) + Numeral.value ds
      = Numeral.value ds - (l.fraction.getD []).length := by omega
  simp only [hpower, if_neg Bool.false_ne_true]
  exact hscale

end Literal

/-! ## The numeral of a finite number -/

/-- The literal of digits with the point in place. -/
def placedLiteral (negative : Bool) (ds : List Char) (point : Int) : Literal :=
  if point ≤ 0 then ⟨negative, ['0'], some (zeros (-point) ++ ds), none⟩
  else if ds.length ≤ point then ⟨negative, ds ++ zeros (point - ds.length), some ['0'], none⟩
  else ⟨negative, ds.take point.toNat, some (ds.drop point.toNat), none⟩

/-- The literal of digits with the point after the first. -/
def scientificLiteral (negative : Bool) (ds : List Char) (point : Int) : Literal :=
  ⟨negative, ds.take 1, if ds.length ≤ 1 then none else some (ds.drop 1),
    some (point - 1 < 0, Numeral.digits (point - 1).natAbs)⟩

theorem isDigits_append_left {as bs : List Char} (ha : Literal.IsDigits as)
    (hb : bs.all Char.isDigit = true) : Literal.IsDigits (as ++ bs) :=
  ⟨by simp [ha.1], by rw [List.all_append, ha.2, hb]; rfl⟩

theorem isDigits_append_right {as bs : List Char} (ha : as.all Char.isDigit = true)
    (hb : Literal.IsDigits bs) : Literal.IsDigits (as ++ bs) :=
  ⟨by simp [hb.1], by rw [List.all_append, ha, hb.2]; rfl⟩

theorem all_isDigit_zeros (n : Int) : (zeros n).all Char.isDigit = true := by
  simp [zeros]

theorem all_isDigit_take {ds : List Char} (h : ds.all Char.isDigit = true) (k : Nat) :
    (ds.take k).all Char.isDigit = true :=
  List.all_eq_true.2 fun c hc => List.all_eq_true.1 h c (List.mem_of_mem_take hc)

theorem isDigits_drop {ds : List Char} (h : ds.all Char.isDigit = true) {k : Nat}
    (hk : k < ds.length) : Literal.IsDigits (ds.drop k) :=
  ⟨fun hnil => Nat.not_le.2 hk (List.drop_eq_nil_iff.1 hnil),
    List.all_eq_true.2 fun c hc => List.all_eq_true.1 h c (List.mem_of_mem_drop hc)⟩

theorem isDigits_zero : Literal.IsDigits ['0'] := ⟨List.cons_ne_nil _ _, rfl⟩

variable {n : Nat} {point p : Int} (negative : Bool)

/-- The first digits of a number. A zero among them stands alone, and the number is zero then. -/
theorem digits_eq_cons (n : Nat) : ∃ d ds, Numeral.digits n = d :: ds ∧
    (d = '0' → n = 0 ∧ ds = []) := by
  cases hn : Numeral.digits n with
  | nil => exact absurd hn (Numeral.digits_ne_nil n)
  | cons d ds =>
    refine ⟨d, ds, rfl, ?_⟩
    rintro rfl
    exact zero_of_digits hn

/-- With the point in place the literal keeps to the grammar: a zero before the point is put in, or
the digits are filled up to it, or cut there. Zero itself has to have its point after the one digit.
-/
theorem wellFormed_placedLiteral (hzero : n = 0 → point = 1) :
    (placedLiteral negative (Numeral.digits n) point).WellFormed := by
  have hdigits := isDigits_digits n
  obtain ⟨d, rest, hn, hlead⟩ := digits_eq_cons n
  have hnone : ∀ e ∈ (none : Option (Bool × List Char)), Literal.IsDigits e.2 := by simp
  unfold placedLiteral
  split
  · refine ⟨isDigits_zero, fun ds h => (List.cons.inj h).2.symm, fun ds h => ?_, hnone⟩
    obtain rfl := Option.some.inj h
    exact isDigits_append_right (all_isDigit_zeros _) hdigits
  · split
    · have hzeros := all_isDigit_zeros (point - (Numeral.digits n).length)
      -- a zero in front is the number zero, which is not filled up
      have hwhole := isDigits_append_left hdigits hzeros
      refine ⟨hwhole, fun ds h => ?_, fun ds h => ?_, hnone⟩
      · simp only [hn, List.cons_append, List.cons.injEq] at h
        obtain ⟨hd, rfl⟩ := h
        obtain ⟨rfl, rfl⟩ := hlead hd
        rw [hzero rfl]
        rfl
      · obtain rfl := Option.some.inj h
        exact isDigits_zero
    · next hpos hlt =>
      obtain ⟨k, hk⟩ : ∃ k, point.toNat = k + 1 := Nat.exists_eq_succ_of_ne_zero (by omega)
      refine ⟨⟨?_, all_isDigit_take hdigits.2 _⟩, fun ds h => ?_, fun ds h => ?_, hnone⟩
      · rw [hk, hn]
        exact List.cons_ne_nil _ _
      · simp only [hn, hk, List.take_succ_cons, List.cons.injEq] at h
        obtain ⟨hd, rfl⟩ := h
        rw [(hlead hd).2]
        exact List.take_nil
      · obtain rfl := Option.some.inj h
        exact isDigits_drop hdigits.2 (by omega)

/-- It is written as the layout has it. -/
theorem unsignedChars_placedLiteral (n : Nat) (point : Int) :
    (placedLiteral negative (Numeral.digits n) point).unsignedChars
      = placed ['.', '0'] (Numeral.digits n) point := by
  unfold placedLiteral placed
  split
  · simp [Literal.unsignedChars, Literal.tailChars, Literal.fractionChars, Literal.exponentChars]
  · split <;>
      simp [Literal.unsignedChars, Literal.tailChars, Literal.fractionChars, Literal.exponentChars]

/-- It has few digits before the point, so it has a value. -/
theorem isSome_magnitude?_placedLiteral (ds : List Char) (hpoint : point ≤ 16) :
    (placedLiteral negative ds point).magnitude?.isSome = true := by
  unfold placedLiteral
  split
  · exact Literal.isSome_magnitude?_of_plain rfl (show 1 ≤ 288 by decide)
  · split
    · refine Literal.isSome_magnitude?_of_plain rfl ?_
      simp only [List.length_append, zeros, List.length_replicate]
      omega
    · refine Literal.isSome_magnitude?_of_plain rfl ?_
      rw [List.length_take]
      omega

/-- An exponent is written like a whole number. -/
theorem exponentChars_ofInt (e : Int) :
    Literal.exponentChars (some (decide (e < 0), Numeral.digits e.natAbs))
      = 'e' :: Numeral.intChars e := by
  cases e with
  | ofNat e => rfl
  | negSucc e =>
    rw [decide_eq_true (Int.negSucc_lt_zero e)]
    rfl

/-- With the point after the first digit the literal keeps to the grammar, also where there is only
one digit and no point. -/
theorem wellFormed_scientificLiteral (n : Nat) (point : Int) :
    (scientificLiteral negative (Numeral.digits n) point).WellFormed := by
  have hdigits := isDigits_digits n
  obtain ⟨d, rest, hn, -⟩ := digits_eq_cons n
  refine ⟨⟨?_, all_isDigit_take hdigits.2 _⟩, fun ds h => ?_, fun ds h => ?_, fun e h => ?_⟩
  · rw [scientificLiteral, hn]
    exact List.cons_ne_nil _ _
  · simp only [scientificLiteral, hn, List.take_succ_cons, List.take_zero, List.cons.injEq] at h
    exact h.2.symm
  · simp only [scientificLiteral] at h
    split at h
    · cases h
    · obtain rfl := Option.some.inj h
      exact isDigits_drop hdigits.2 (by omega)
  · obtain rfl := Option.some.inj h
    exact isDigits_digits _

/-- It is written as the layout has it, too. -/
theorem unsignedChars_scientificLiteral (n : Nat) (point : Int) :
    (scientificLiteral negative (Numeral.digits n) point).unsignedChars
      = scientific (Numeral.digits n) point := by
  obtain ⟨d, rest, hn, -⟩ := digits_eq_cons n
  rw [Literal.unsignedChars, Literal.tailChars, scientificLiteral]
  simp only [exponentChars_ofInt, hn]
  cases rest with
  | nil => rfl
  | cons d' rest => rfl

/-- What is written with an exponent has a value: divided down without fail, or scaled up by the
power that there is room for. -/
theorem isSome_magnitude?_scientificLiteral (h : Writable n p) :
    (scientificLiteral negative (Numeral.digits n)
      (p + (Numeral.digits n).length)).magnitude?.isSome = true := by
  have hlength : (Numeral.digits n).length ≤ 18 :=
    Literal.length_digits_le (Nat.lt_of_le_of_lt h.digits (by decide))
  obtain ⟨d, rest, hn, -⟩ := digits_eq_cons n
  have hpower := h.power
  simp only [Literal.topPower] at hpower
  generalize hpoint : p + ((Numeral.digits n).length : Int) = point
  by_cases hdown : point - 1 < 0
  · have hexponent : (scientificLiteral negative (Numeral.digits n) point).exponent
        = some (true, Numeral.digits (point - 1).natAbs) := by
      rw [scientificLiteral, decide_eq_true hdown]
    refine Literal.isSome_magnitude?_of_down hexponent ?_
    simp only [scientificLiteral, List.length_take]
    omega
  · -- all digits are read, so the power is the one they were written with
    have hall : (scientificLiteral negative (Numeral.digits n) point).whole
        ++ (scientificLiteral negative (Numeral.digits n) point).fraction.getD []
          = Numeral.digits n := by
      rw [scientificLiteral, hn]
      cases rest <;> rfl
    have hplaces : ((scientificLiteral negative (Numeral.digits n) point).fraction.getD []).length
        = (Numeral.digits n).length - 1 := by
      rw [scientificLiteral, hn]
      cases rest <;> rfl
    have hpos : 0 < (Numeral.digits n).length := by
      rw [hn]
      exact Nat.succ_pos _
    have hsize : Numeral.value (Numeral.digits (point - 1).natAbs) = (point - 1).natAbs :=
      Numeral.value_digits _
    have hexponent : (scientificLiteral negative (Numeral.digits n) point).exponent
        = some (false, Numeral.digits (point - 1).natAbs) := by
      rw [scientificLiteral, decide_eq_false hdown]
    refine Literal.isSome_magnitude?_of_up hexponent ?_ ?_ ?_ ?_
    · rw [scientificLiteral, hn]
      rfl
    · rw [hall, Numeral.value_digits]
      exact Nat.le_trans h.digits (by decide)
    · rw [hsize]
      simp only [Numeral.int32Max]
      omega
    · have hscale : ((point - 1).natAbs : Int) - ((Numeral.digits n).length - 1 : Nat) = p := by
        omega
      rw [hall, hplaces, hsize, Numeral.value_digits, hscale]
      by_cases hneg : p < 0
      · exact Decimal.isSome_scale?_of_neg _ hneg
      · exact h.scaled (by omega)

/-- A literal that is written as a text and has a value. -/
structure Spells (negative : Bool) (text : List Char) (l : Literal) : Prop where
  wellFormed : l.WellFormed
  sign : l.negative = negative
  chars : l.unsignedChars = text
  value : l.magnitude?.isSome = true

theorem spells_zero : Spells negative ['0', '.', '0'] ⟨negative, ['0'], some ['0'], none⟩ where
  wellFormed := ⟨isDigits_zero, fun _ h => (List.cons.inj h).2.symm,
    fun _ h => Option.some.inj h ▸ isDigits_zero, fun _ h => by cases h⟩
  sign := rfl
  chars := rfl
  value := Literal.isSome_magnitude?_of_plain rfl (show 1 ≤ 288 by decide)

theorem spells_placed (hzero : n = 0 → point = 1) (hpoint : point ≤ 16) :
    Spells negative (placed ['.', '0'] (Numeral.digits n) point)
      (placedLiteral negative (Numeral.digits n) point) where
  wellFormed := wellFormed_placedLiteral negative hzero
  sign := by
    unfold placedLiteral
    split
    · rfl
    · split <;> rfl
  chars := unsignedChars_placedLiteral negative n point
  value := isSome_magnitude?_placedLiteral negative _ hpoint

theorem spells_scientific (h : Writable n p) :
    Spells negative (scientific (Numeral.digits n) (p + (Numeral.digits n).length))
      (scientificLiteral negative (Numeral.digits n) (p + (Numeral.digits n).length)) where
  wellFormed := wellFormed_scientificLiteral negative n _
  sign := rfl
  chars := unsignedChars_scientificLiteral negative n _
  value := isSome_magnitude?_scientificLiteral negative h

/-- Whichever of the two forms is taken, it is a literal with a value. -/
theorem exists_spells_digits (h : Writable n p) :
    ∃ l, Spells negative
      (if Decimal.Layout.document.inPlace (p + (Numeral.digits n).length) then
        placed ['.', '0'] (Numeral.digits n) (p + (Numeral.digits n).length)
      else scientific (Numeral.digits n) (p + (Numeral.digits n).length)) l := by
  split
  · next hplace =>
    refine ⟨_, spells_placed negative (fun hzero => ?_) ?_⟩
    · -- zero is one digit, which stands before the point
      rw [h.plain hzero, hzero]
      simp [Numeral.digits]
    · simp only [Decimal.Layout.inPlace, Decimal.Layout.document, Bool.and_eq_true,
        decide_eq_true_eq] at hplace
      exact hplace.2
  · exact ⟨_, spells_scientific negative h⟩

/-- Every finite magnitude is written as a numeral that has a value. -/
theorem exists_spells {u : Float.Model.UnpackedFloat}
    (h : Decimal.AtMost Decimal.topMantissa Decimal.topExponent u) :
    ∃ l, Spells negative (Decimal.Layout.document.magnitudeText (Decimal.magnitude u)) l := by
  cases h with
  | zero s => exact ⟨_, spells_zero negative⟩
  | finite s pos settled exponent _ =>
    exact exists_spells_digits negative
      (Decimal.shortest_writable pos (Nat.le_pred_of_lt settled.lt) exponent)

/-- So is every finite number, with its sign. -/
theorem exists_literal {x : Float} (hx : IsFinite x) :
    ∃ l : Literal, l.WellFormed ∧ l.chars = (Number.float x).chars ∧ l.number?.isSome = true := by
  have hmagnitude := Decimal.magnitude_toBits x
  have htext : (Number.float x).chars
      = if (Decimal.ofBits x.toBits).1 then
          '-' :: Decimal.Layout.document.magnitudeText (Decimal.ofBits x.toBits).2
        else Decimal.Layout.document.magnitudeText (Decimal.ofBits x.toBits).2 := by
    have hdefined : (Decimal.ofBits x.toBits).2 ≠ .undefined := by
      rw [hmagnitude]
      exact hx.magnitude_ne
    rw [Number.chars, Decimal.Layout.chars]
    generalize Decimal.ofBits x.toBits = seen at hdefined ⊢
    obtain ⟨negative, magnitude⟩ := seen
    cases magnitude with
    | undefined => exact absurd rfl hdefined
    | _ => cases negative <;> rfl
  obtain ⟨l, hl⟩ := exists_spells (Decimal.ofBits x.toBits).1 hx
  refine ⟨l, hl.wellFormed, ?_, Literal.isSome_number? hl.value⟩
  rw [htext, hmagnitude, Literal.chars, hl.sign, hl.chars]

/-! ## Numbers that can be read -/

/-- A number is readable if some literal is written like it. -/
theorem Number.readable_of_literal {n : Number} {l : Literal} (hl : l.WellFormed)
    (hchars : l.chars = n.chars) (hvalue : l.number?.isSome = true) : n.Readable := by
  have hliteral : n.literal = l := by
    rw [Number.literal, ← hchars, Literal.read?_chars hl]
    rfl
  constructor
  · rw [hliteral, ← hchars]
    exact Literal.scans hl
  · rw [hliteral]
    exact hvalue

theorem Number.readable_float {x : Float} (hx : IsFinite x) : (Number.float x).Readable := by
  obtain ⟨l, hl, hchars, hvalue⟩ := exists_literal hx
  exact Number.readable_of_literal hl hchars hvalue

/-- A literal has a finite value or none: its digits are finite, and scaling keeps them so. -/
theorem isFinite_of_magnitude? {l : Literal} {x : Float} (h : l.magnitude? = some x) :
    IsFinite x := by
  have hzero : IsFinite 0 := .zero .positive
  unfold Literal.magnitude? at h
  simp only at h
  split at h
  · exact Decimal.isFinite_scale? (Decimal.isFinite_toFloat _) h
  · split at h
    · exact Decimal.isFinite_scale? (Decimal.isFinite_toFloat _) h
    · split at h
      · exact Option.some.inj h ▸ hzero
      · cases h

/-- A whole number that is read fits into 64 bits, with a sign or without. -/
theorem bounds_of_whole? {l : Literal} {n : Int} (h : l.whole? = some n) :
    Numeral.int64Min ≤ n ∧ n ≤ Numeral.nat64Max := by
  have hmin : Numeral.int64Min ≤ 0 := by decide
  have hmax : 0 ≤ Numeral.nat64Max := Nat.zero_le _
  simp only [Literal.whole?] at h
  generalize Numeral.value l.whole = k at h
  rw [Option.ite_none_left_eq_some] at h
  obtain ⟨-, h⟩ := h
  cases hnegative : l.negative with
  | true =>
    simp only [hnegative, if_true, Option.ite_none_left_eq_some, Option.some.injEq] at h
    obtain ⟨hsize, rfl⟩ := h
    simp only [Bool.or_eq_true, decide_eq_true_eq, not_or] at hsize
    omega
  | false =>
    simp only [hnegative, Bool.false_eq_true, if_false, Option.ite_none_right_eq_some,
      Option.some.injEq] at h
    obtain ⟨hsize, rfl⟩ := h
    omega

/-- Whatever number is read can be written and read again. -/
theorem Number.readable_of_number? {l : Literal} {n : Number} (h : l.number? = some n) :
    n.Readable := by
  unfold Literal.number? at h
  split at h
  · next k hwhole =>
    obtain rfl := Option.some.inj h
    obtain ⟨hmin, hmax⟩ := bounds_of_whole? hwhole
    exact (Number.legible_int hmin hmax).readable
  · obtain ⟨x, hx, rfl⟩ := Option.map_eq_some_iff.1 h
    have hfinite := isFinite_of_magnitude? hx
    refine Number.readable_float ?_
    split
    · exact hfinite.neg
    · exact hfinite

end PileCheck.Json
