import PileCheck.Proofs.Decimal.Operations

/-!
# Scaling by a power of ten

A decimal is read as its digits, converted, times or over a power of ten. Dividing always gives a
finite number. Multiplying does if the digits are few enough for the power (`room`), which the
rounding of the power and of the digits has to leave room for.
-/

namespace PileCheck.Decimal

open Float.Model Float.Model.UnpackedFloat
open Json.Literal (powerOfTen topPower scale?)

/-! ## Powers of ten -/

/-- A number of the format that is not below `10 ^ k`, as mantissa and exponent. -/
def tenBound (k : Nat) : Nat × Int :=
  (2 ^ 53 * 10 ^ k / 2 ^ ((10 ^ k).log2 + 1) + 1, (10 ^ k).log2 - 52)

/-- Whether a number is at least one and not above a bound. -/
def within (b : Nat) (g : Int) : UnpackedFloat → Bool
  | .finite _ m e _ => 2 ^ 52 ≤ m && m < 2 ^ 53 && -52 ≤ e && e ≤ g && m ≤ b * 2 ^ (g - e).toNat
  | _ => false

/-- What a check by evaluation says of a number. -/
theorem bounds_of_within {b : Nat} {g : Int} {u : UnpackedFloat} (h : within b g u = true) :
    AtLeast (-52) u ∧ AtMost b g u := by
  cases u with
  | finite s m e pos =>
    simp only [within, Bool.and_eq_true, decide_eq_true_eq] at h
    obtain ⟨⟨⟨⟨hnormal, hlt⟩, hlow⟩, he⟩, hm⟩ := h
    exact ⟨.finite s pos hnormal hlow, .finite s pos ⟨hlt, .inl hnormal, by omega⟩ he hm⟩
  | _ => cases h

/-- The powers that are looked up are within their bounds. -/
theorem powerOfTen_small : ∀ k < 23,
    within (tenBound k).1 (tenBound k).2 (powerOfTen k).toModel.unpack = true := by
  decide +kernel

/-- All bounds are in the format, and below the largest number. -/
theorem tenBound_fits : ∀ k < 309, (tenBound k).1 < 2 ^ 53 ∧ (tenBound k).2 ≤ topExponent := by
  decide +kernel

/-- A power that is computed is the rounding of its exact value, with 53 bits to spare. -/
theorem unpack_powerOfTen {k : Nat} (hk : 22 < k) (htop : k ≤ topPower) :
    (powerOfTen k).toModel.unpack
      = (Float.Model.pack (roundWithAccuracy Format.binary64 .positive (2 ^ 53 * 10 ^ k) (-53)
          .exact)).unpack := by
  simp only [topPower] at htop
  have hslow : powerOfTen k = .ofModel (Float.Model.ofScientific 1 k) := by
    rw [powerOfTen, Float.ofScientific, dif_neg (by omega)]
    rfl
  have hrange : ¬((k : Int) > 2 ^ Format.binary64.exponentBits) := by
    show ¬((k : Int) > 2048)
    omega
  have hlow : ¬((k : Int) < -((2 ^ Format.binary64.exponentBits : Int) + Nat.log2 1)) := by
    show ¬((k : Int) < -2048)
    omega
  rw [hslow]
  show (Float.Model.pack (UnpackedFloat.ofScientific Format.binary64 1 k)).unpack = _
  rw [UnpackedFloat.ofScientific, dif_neg Nat.one_ne_zero, if_neg hrange, if_neg hlow,
    if_pos (Int.natCast_nonneg k)]
  rfl

/-- The powers up to the twenty-second are looked up; the others are computed. -/
theorem powerOfTen_bounds {k : Nat} (hk : k ≤ topPower) :
    AtLeast (-52) (powerOfTen k).toModel.unpack
      ∧ AtMost (tenBound k).1 (tenBound k).2 (powerOfTen k).toModel.unpack := by
  by_cases hsmall : k < 23
  · exact bounds_of_within (powerOfTen_small k hsmall)
  · obtain ⟨hlt, htop⟩ := tenBound_fits k (Nat.lt_succ_of_le hk)
    have hpos : 0 < 10 ^ k := Nat.pow_pos (by decide)
    have hlog : (2 ^ 53 * 10 ^ k).log2 = (10 ^ k).log2 + 53 := by
      rw [Nat.mul_comm, ← Nat.shiftLeft_eq, log2_shiftLeft hpos]
    have hmost : AtMost (tenBound k).1 (tenBound k).2
        (roundWithAccuracy Format.binary64 .positive (2 ^ 53 * 10 ^ k) (-53) .exact) := by
      -- the bound has one unit more than `10 ^ k` has in its first 53 bits
      refine atMost_round _ hlt ?_ (.inl (by omega)) ?_ ?_
      · simp only [tenBound]; omega
      · simp only [tenBound]; omega
      · have hexponent : ((tenBound k).2 - -53).toNat = (10 ^ k).log2 + 1 := by
          simp only [tenBound]; omega
        rw [hexponent]
        exact Nat.le_of_lt (Nat.lt_mul_of_div_lt (Nat.lt_succ_self _) (Nat.two_pow_pos _))
    rw [unpack_powerOfTen (by omega) hk, unpack_pack (hmost.top htop)]
    exact ⟨atLeast_round _ _ (by omega) (by omega) (by omega), hmost⟩

/-! ## How many digits may be scaled -/

/-- The largest decimal that is written of a number below the largest one. -/
def topDecimal : Nat := 2 ^ 1024 - 3 * 2 ^ 970

/-- The digits that may be scaled by a power of ten, at most, as mantissa and exponent: any 64 bits
or any seventeen digits where the power is small, and no more than the largest number has where
it is not. -/
def room (k : Nat) : Nat × Nat :=
  if k ≤ 288 then (1, 64)
  else if k ≤ 291 then (10 ^ 17 / 2 ^ 4, 4)
  else if k = 292 then (topDecimal / 10 ^ k / 2, 1)
  else (topDecimal / 10 ^ k, 0)

/-- There is room for the rounding of the digits and of the power. -/
theorem room_fits : ∀ k < 309, (room k).1 < 2 ^ 53 ∧ (room k).2 + (tenBound k).2 ≤ topExponent ∧
    (room k).1 * (tenBound k).1
      ≤ topMantissa * 2 ^ (topExponent - ((room k).2 + (tenBound k).2)).toNat := by
  decide +kernel

/-- Digits for which there is room are scaled to a finite number. -/
theorem isFinite_scaled {n : UInt64} {k : Nat} (hk : k ≤ topPower)
    (hn : n.toNat ≤ (room k).1 * 2 ^ (room k).2) : IsFinite (n.toFloat * powerOfTen k) := by
  obtain ⟨hleast, hten⟩ := powerOfTen_bounds hk
  obtain ⟨hlt, hsum, hfits⟩ := room_fits k (Nat.lt_succ_of_le hk)
  -- digits and power are rounded before they are multiplied
  have hdigits : AtMost (room k).1 (room k).2 n.toFloat.toModel.unpack := by
    rw [unpack_toFloat]
    exact atMost_ofNat hlt (Int.natCast_nonneg (room k).2) hn
  exact isFinite_pack (hdigits.mul hten hleast (by decide) (by decide) hsum hfits)

/-! ## Scaling -/

/-- Whatever is scaled stays finite. The recursion divides by the largest power as long as it
can. -/
theorem isFinite_scale? {x y : Float} {power : Int} (hx : IsFinite x)
    (h : scale? x power = some y) : IsFinite y := by
  fun_induction scale? x power with
  | case1 x power hlow hzero => exact Option.some.inj h ▸ hx
  | case2 x power hlow hzero ih =>
    exact ih (hx.div (powerOfTen_bounds (Nat.le_refl _)).1) h
  | case3 x power hlow hneg =>
    have hpower : power.natAbs ≤ topPower := by omega
    exact Option.some.inj h ▸ hx.div (powerOfTen_bounds hpower).1
  | case4 x power hlow hneg hhigh z hinf => cases h
  | case5 x power hlow hneg hhigh z hinf =>
    have hpower : power.toNat ≤ topPower := by omega
    have hten := (powerOfTen_bounds hpower).2.top (tenBound_fits _ (Nat.lt_succ_of_le hpower)).2
    exact Option.some.inj h ▸ hx.mul hten (Bool.eq_false_iff.2 hinf)
  | case6 x power hlow hneg hhigh hzero => exact Option.some.inj h ▸ hx
  | case7 x power hlow hneg hhigh hzero => cases h

/-- Dividing always has a result. -/
theorem isSome_scale?_of_neg (x : Float) {power : Int} (h : power < 0) :
    (scale? x power).isSome = true := by
  fun_induction scale? x power with
  | case1 | case3 => rfl
  | case2 x power hlow hzero ih => exact ih (by omega)
  | case4 x power hlow hneg => exact absurd h hneg
  | case5 x power hlow hneg => exact absurd h hneg
  | case6 x power hlow hneg => exact absurd h hneg
  | case7 x power hlow hneg => exact absurd h hneg

theorem scale?_natCast (x : Float) {k : Nat} (hk : k ≤ topPower) :
    scale? x k = if (x * powerOfTen k).isInf then none else some (x * powerOfTen k) := by
  rw [scale?, dif_neg (by omega), if_neg (by omega), if_pos (by omega), Int.toNat_natCast]

theorem isSome_scale? {n : UInt64} {k : Nat} (hk : k ≤ topPower)
    (hn : n.toNat ≤ (room k).1 * 2 ^ (room k).2) : (scale? n.toFloat k).isSome = true := by
  rw [scale?_natCast _ hk, (isFinite_scaled hk hn).isInf]
  rfl

end PileCheck.Decimal
