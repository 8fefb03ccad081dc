import PileCheck.Json.Literal
import PileCheck.Proofs.Decimal.Finite

/-!
# Arithmetic that stays finite

A product, a quotient and a conversion are each the rounding of an exact result, so a number of the
format that bounds the exact result bounds the rounded one. Dividing by a number of at least one
never leaves the finite numbers; a product leaves them towards infinity only.
-/

namespace PileCheck.Decimal

open Float.Model Float.Model.UnpackedFloat

variable {b c : Nat} {g h : Int} {u v : UnpackedFloat} {x y : Float}

/-! ## Signs -/

theorem AtMost.neg (hu : AtMost b g u) : AtMost b g u.neg := by
  cases hu with
  | zero s => exact .zero _
  | finite s pos settled exponent value => exact .finite _ pos settled exponent value

theorem IsFinite.neg (hx : IsFinite x) : IsFinite (-x) := isFinite_pack (AtMost.neg hx)

/-! ## Products -/

/-- Zero or a number, which need not be in the format. -/
inductive Proper : UnpackedFloat → Prop where
  | zero (s : Sign) : Proper (.zero s)
  | finite (s : Sign) {m : Nat} {e : Int} (pos : 0 < m) : Proper (.finite s m e pos)

/-- Rounding never makes an infinite number; only packing does. -/
theorem proper_round (s : Sign) (m : Nat) (e : Int) (a : Accuracy) :
    Proper (roundWithAccuracy Format.binary64 s m e a) := by
  unfold roundWithAccuracy
  simp only
  split
  · exact .zero s
  · exact .finite s _

/-- So a product of bounded numbers is a number, perhaps too large to be packed. -/
theorem AtMost.proper_mul (hu : AtMost b g u) (hv : AtMost c h v) :
    Proper (UnpackedFloat.mul Format.binary64 u v) := by
  cases hu with
  | zero s => cases hv <;> exact .zero _
  | finite s =>
    cases hv with
    | zero t => exact .zero _
    | finite t => exact proper_round _ _ _ _

/-- A number that is packed is finite unless it has become infinite. -/
theorem Proper.pack (hu : Proper u) (hinf : (Float.Model.pack u).unpack.isInf = false) :
    AtMost topMantissa topExponent (Float.Model.pack u).unpack := by
  cases hu with
  | zero s => rw [unpack_pack (.zero s)]; exact .zero s
  | @finite s m e pos =>
    rcases unpack_pack_finite s m e pos with ⟨t, hinfinite⟩ | hatMost
    · rw [hinfinite] at hinf
      cases hinf
    · exact hatMost

/-- A product of finite numbers that is too large is infinite, and nothing else. -/
theorem IsFinite.mul (hx : IsFinite x) (hy : IsFinite y) (hinf : (x * y).isInf = false) :
    IsFinite (x * y) :=
  (AtMost.proper_mul hx hy).pack hinf

/-- A product is bounded by a number of the format that bounds the product of the bounds. -/
theorem AtMost.mul {d : Nat} {k t : Int} (hu : AtMost b g u) (hv : AtMost c h v)
    (hleast : AtLeast t v) (hd : d < 2 ^ 53) (hk : -1074 ≤ k) (hsum : g + h ≤ k)
    (hle : b * c ≤ d * 2 ^ (k - (g + h)).toNat) :
    AtMost d k (UnpackedFloat.mul Format.binary64 u v) := by
  cases hleast with
  | @finite s n f pos normal _ =>
    cases hv with
    | finite _ _ _ hf hn =>
      cases hu with
      | zero r => exact .zero _
      | @finite r m e hpos _ he hm =>
        refine atMost_round _ hd hk (.inl (le_log2_of_le ?_)) (by omega) ?_
        · -- one factor has all of its bits, so the product has
          exact Nat.le_trans normal (Nat.le_mul_of_pos_left n hpos)
        · have hexponent : (k - (e + f)).toNat
              = (k - (g + h)).toNat + ((g - e).toNat + (h - f).toNat) := by omega
          calc m * n + 0 ≤ (b * 2 ^ (g - e).toNat) * (c * 2 ^ (h - f).toNat) := Nat.mul_le_mul hm hn
            _ = b * c * 2 ^ ((g - e).toNat + (h - f).toNat) := by
              rw [Nat.pow_add, Nat.mul_mul_mul_comm]
            _ ≤ d * 2 ^ (k - (g + h)).toNat * 2 ^ ((g - e).toNat + (h - f).toNat) :=
              Nat.mul_le_mul_right _ hle
            _ = d * 2 ^ (k - (e + f)).toNat := by rw [hexponent, Nat.mul_assoc, ← Nat.pow_add]

/-! ## Quotients -/

/-- The bits that are computed of a quotient are enough for the format. -/
theorem log2_div {m n : Nat} (k : Nat) (hm : 0 < m) (hn : 0 < n)
    (hk : n.log2 + 53 ≤ m.log2 + k) : 52 ≤ ((m <<< k) / n).log2 := by
  refine le_log2_of_le ?_
  rw [Nat.le_div_iff_mul_le hn, Nat.shiftLeft_eq]
  calc 2 ^ 52 * n ≤ 2 ^ 52 * 2 ^ (n.log2 + 1) :=
        Nat.mul_le_mul_left _ (Nat.le_of_lt Nat.lt_log2_self)
    _ = 2 ^ (n.log2 + 53) := by rw [← Nat.pow_add]; congr 1; omega
    _ ≤ 2 ^ (m.log2 + k) := Nat.pow_le_pow_right Nat.two_pos hk
    _ = 2 ^ m.log2 * 2 ^ k := Nat.pow_add ..
    _ ≤ m * 2 ^ k := Nat.mul_le_mul_right _ (Nat.log2_self_le (Nat.ne_of_gt hm))

/-- The rounded-up quotient is not above a whole number that the exact one is not above. -/
theorem div_add_excess_le {m n q : Nat} (h : m ≤ q * n) :
    m / n + excess (accuracyOfFraction (m % n) n) ≤ q := by
  have hdiv := Nat.div_add_mod m n
  have hle : m / n ≤ q := Nat.div_le_of_le_mul (by rwa [Nat.mul_comm])
  unfold accuracyOfFraction
  split
  · exact hle
  · next hmod =>
    -- a remainder is left, so the quotient is below
    refine Nat.lt_of_le_of_ne hle ?_
    rintro rfl
    rw [Nat.mul_comm] at h
    omega

/-- Dividing by a number of at least one does not pass a bound. -/
theorem AtMost.div (hu : AtMost b g u) (hb : b < 2 ^ 53) (hg : -1074 ≤ g)
    (hv : AtLeast (-52) v) : AtMost b g (UnpackedFloat.div Format.binary64 u v) := by
  cases hv with
  | @finite s n f pos normal hf =>
    cases hu with
    | zero r => exact .zero _
    | @finite r m e hpos settled he hm =>
      have hlogm : m.log2 ≤ 52 := log2_le_of_lt settled.lt
      have hlogn : 52 ≤ n.log2 := le_log2_of_le normal
      have htarget : Format.binary64.targetExponent (totalExponent m e - totalExponent n f)
          = max ((m.log2 : Int) + e - (n.log2 + f) - 53) (-1074) := by
        simp only [Format.targetExponent, totalExponent, Format.mantissaBits, Format.minExponent]
        omega
      simp only [UnpackedFloat.div, divCore, htarget]
      generalize hT : min (e - f) (max ((m.log2 : Int) + e - (n.log2 + f) - 53) (-1074)) = t
      have hmin : t ≤ e - f := by omega
      have hmax : t ≤ (m.log2 : Int) + e - (n.log2 + f) - 53 ∨ t ≤ -1074 := by omega
      refine atMost_round _ hb hg ?_ (by omega) (div_add_excess_le ?_)
      · -- the quotient has bits to spare, or its exponent is at the least one
        rcases hmax with hbits | hlow
        · exact .inl (log2_div _ hpos pos (by omega))
        · exact .inr hlow
      · rw [Nat.shiftLeft_eq]
        calc m * 2 ^ (e - f - t).toNat
            ≤ b * 2 ^ (g - e).toNat * 2 ^ (e - f - t).toNat := Nat.mul_le_mul_right _ hm
          _ = b * 2 ^ ((g - e).toNat + (e - f - t).toNat) := by rw [Nat.mul_assoc, ← Nat.pow_add]
          _ ≤ b * 2 ^ ((g - t).toNat + 52) :=
            Nat.mul_le_mul_left _ (Nat.pow_le_pow_right Nat.two_pos (by omega))
          _ = b * 2 ^ (g - t).toNat * 2 ^ 52 := by rw [Nat.pow_add, Nat.mul_assoc]
          _ ≤ b * 2 ^ (g - t).toNat * n := Nat.mul_le_mul_left _ normal

theorem IsFinite.div (hx : IsFinite x) (hy : AtLeast (-52) y.toModel.unpack) :
    IsFinite (x / y) :=
  isFinite_pack (AtMost.div hx (by decide) (by decide) hy)

/-! ## Conversions -/

/-- A whole number is shifted up to 53 bits, which loses nothing, and rounded from there. -/
theorem ofNat_eq {n : Nat} (hn : 0 < n) :
    UnpackedFloat.ofNat Format.binary64 n
      = roundWithAccuracy Format.binary64 .positive (n <<< (52 - n.log2))
          (-(52 - n.log2 : Nat)) .exact := by
  have hcompare : compare (n : Int) 0 = .gt := Int.compare_eq_gt.2 (by omega)
  have hshift : (-target n 0).toNat = 52 - n.log2 := by
    simp only [target]
    omega
  rw [UnpackedFloat.ofNat, UnpackedFloat.ofInt, UnpackedFloat.normalize, hcompare]
  simp only [UnpackedFloat.round, targetExponent_eq, decreaseExponent, Int.toNat_natCast,
    Int.zero_sub, hshift]

/-- A shift adds its bits. Induction on the shift. -/
theorem log2_shiftLeft {n : Nat} (hn : 0 < n) (k : Nat) : (n <<< k).log2 = n.log2 + k := by
  rw [Nat.shiftLeft_eq]
  induction k with
  | zero => rw [Nat.pow_zero, Nat.mul_one, Nat.add_zero]
  | succ k ih =>
    rw [Nat.pow_succ', Nat.mul_left_comm,
      Nat.log2_two_mul (Nat.ne_of_gt (Nat.mul_pos hn (Nat.two_pow_pos k))), ih, Nat.add_assoc]

/-- A converted number does not pass a bound that the number does not pass. -/
theorem atMost_ofNat {n : Nat} (hb : b < 2 ^ 53) (hg : 0 ≤ g) (hle : n ≤ b * 2 ^ g.toNat) :
    AtMost b g (UnpackedFloat.ofNat Format.binary64 n) := by
  rcases Nat.eq_zero_or_pos n with rfl | hn
  · exact .zero _
  · rw [ofNat_eq hn]
    refine atMost_round _ hb (by omega) (.inl ?_) (by omega) ?_
    · rw [log2_shiftLeft hn]
      omega
    · rw [Nat.shiftLeft_eq]
      calc n * 2 ^ (52 - n.log2) + 0 ≤ b * 2 ^ g.toNat * 2 ^ (52 - n.log2) :=
            Nat.mul_le_mul_right _ hle
        _ = b * 2 ^ (g - -(52 - n.log2 : Nat)).toNat := by
          rw [Nat.mul_assoc, ← Nat.pow_add]
          congr 2
          omega

/-- Sixty-four bits are far from the largest number. -/
theorem atMost_ofNat_toNat (n : UInt64) : AtMost topMantissa topExponent
    (UnpackedFloat.ofNat Format.binary64 n.toNat) := by
  have hof : AtMost 1 64 (UnpackedFloat.ofNat Format.binary64 n.toNat) :=
    atMost_ofNat (by decide) (by decide) (Nat.le_trans (Nat.le_of_lt n.toNat_lt) (by decide))
  exact hof.top (by decide)

theorem unpack_toFloat (n : UInt64) :
    n.toFloat.toModel.unpack = UnpackedFloat.ofNat Format.binary64 n.toNat :=
  unpack_pack (atMost_ofNat_toNat n)

/-- A converted number of 64 bits is the rounded one, and finite. -/
theorem isFinite_toFloat (n : UInt64) : IsFinite n.toFloat := isFinite_pack (atMost_ofNat_toNat n)

end PileCheck.Decimal
