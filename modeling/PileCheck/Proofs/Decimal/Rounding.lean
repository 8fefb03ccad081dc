import Mathlib
import PileCheck.Decimal.Shortest

/-!
# Rounding to binary64

Numbers are rounded by shifting a mantissa until 53 bits of it are left. What a bound needs of that
is little: rounding does not pass a number that is itself one of the 53 bits (`atMost_round`). The
products, quotients and conversions below are roundings of an exact result, so each of them is
finite because its exact result is not above such a number.

A number of the format is `Settled`, and `AtMost b g` bounds it by `b · 2 ^ g`.
-/

namespace PileCheck.Decimal

open Float.Model Float.Model.UnpackedFloat

/-! ## Numbers of the format -/

/-- A mantissa and an exponent as the format has them: 53 bits, fewer only at the least exponent. -/
structure Settled (m : Nat) (e : Int) : Prop where
  lt : m < 2 ^ 53
  normal : 2 ^ 52 ≤ m ∨ e = -1074
  low : -1074 ≤ e

/-- Zero, or a number of the format that is not above `b · 2 ^ g`. -/
inductive AtMost (b : Nat) (g : Int) : UnpackedFloat → Prop where
  | zero (s : Sign) : AtMost b g (.zero s)
  | finite (s : Sign) {m : Nat} {e : Int} (pos : 0 < m) (settled : Settled m e) (exponent : e ≤ g)
      (value : m ≤ b * 2 ^ (g - e).toNat) : AtMost b g (.finite s m e pos)

/-- The largest mantissa and the largest exponent of a finite number. -/
def topMantissa : Nat := 2 ^ 53 - 1

def topExponent : Int := 971

/-- Whatever is settled with an exponent that is not too large is not above the largest number. -/
theorem Settled.atMost {m : Nat} {e : Int} (h : Settled m e) (he : e ≤ topExponent) (s : Sign)
    (pos : 0 < m) : AtMost topMantissa topExponent (.finite s m e pos) := by
  refine .finite s pos h he (Nat.le_trans (Nat.le_pred_of_lt h.lt) ?_)
  exact Nat.le_mul_of_pos_right _ (Nat.two_pow_pos _)

/-- A bound of the format is not above the largest number. -/
theorem AtMost.top {b : Nat} {g : Int} {u : UnpackedFloat} (h : AtMost b g u)
    (hg : g ≤ topExponent) : AtMost topMantissa topExponent u := by
  cases h with
  | zero s => exact .zero s
  | finite s pos settled exponent _ => exact settled.atMost (Int.le_trans exponent hg) s pos

/-! ## Shifting -/

/-- What an approximation that is not exact falls short of its value by, at most. -/
def excess : Accuracy → Nat
  | .exact => 0
  | .inexact _ => 1

theorem shift_succ (em : ExtendedMantissa) (k : Nat) :
    em >>> (k + 1) = (em >>> k).shiftRightOne := rfl

/-- Shifting divides; and from an exact approximation of a multiple nothing is lost. Induction on
the shift. -/
theorem mantissa_shift (em : ExtendedMantissa) (k : Nat) :
    (em >>> k).mantissa = em.mantissa / 2 ^ k := by
  induction k with
  | zero => exact (Nat.div_one _).symm
  | succ k ih =>
    rw [shift_succ, ExtendedMantissa.shiftRightOne, ih, Nat.div_div_eq_div_mul, Nat.pow_succ]

/-- A multiple of what is shifted out leaves only zeros behind. Induction on the shift, which moves
one bit at a time. -/
theorem accuracy_shift_of_dvd {m k : Nat} (h : 2 ^ k ∣ m) :
    ((ExtendedMantissa.mk m false false) >>> k).accuracy = .exact := by
  have hbits : ((ExtendedMantissa.mk m false false) >>> k).roundBit = false ∧
      ((ExtendedMantissa.mk m false false) >>> k).stickyBit = false := by
    induction k with
    | zero => exact ⟨rfl, rfl⟩
    | succ k ih =>
      obtain ⟨hround, hsticky⟩ := ih (Nat.dvd_trans (Nat.pow_dvd_pow 2 (Nat.le_succ k)) h)
      have heven : m / 2 ^ k % 2 = 0 := by
        rw [Nat.pow_succ] at h
        exact Nat.mod_eq_zero_of_dvd (Nat.dvd_div_of_mul_dvd h)
      rw [shift_succ, ExtendedMantissa.shiftRightOne, mantissa_shift, hround, hsticky]
      exact ⟨by simpa using heven, rfl⟩
  generalize (ExtendedMantissa.mk m false false) >>> k = em at hbits
  obtain ⟨n, round, sticky⟩ := em
  obtain ⟨rfl, rfl⟩ := hbits
  rfl

/-- Rounding keeps the mantissa or adds one. -/
theorem roundedMantissa_bounds (em : ExtendedMantissa) :
    em.mantissa ≤ em.roundedMantissa ∧ em.roundedMantissa ≤ em.mantissa + 1 := by
  obtain ⟨m, round, sticky⟩ := em
  have hpar := Nat.mod_lt m (Nat.two_pos)
  -- by the bits that were shifted out: below half, half, or above
  cases round <;> cases sticky <;>
    simp only [ExtendedMantissa.roundedMantissa, ExtendedMantissa.accuracy,
      Accuracy.roundToNearestEven] <;> omega

/-- A mantissa of a given accuracy, shifted and rounded. -/
def shifted (m k : Nat) (a : Accuracy) : ExtendedMantissa :=
  ExtendedMantissa.ofMantissaAndAccuracy m a >>> k

/-- The accuracy has no part in what is left of the mantissa. -/
theorem mantissa_shifted (m k : Nat) (a : Accuracy) : (shifted m k a).mantissa = m / 2 ^ k := by
  rw [shifted, mantissa_shift]
  cases a with
  | exact => rfl
  | inexact o => cases o <;> rfl

/-- Rounding does not pass a multiple of what is shifted out: where it adds one, the value was
above the quotient. -/
theorem rounded_shifted_le {m k n : Nat} {a : Accuracy} (h : m + excess a ≤ n * 2 ^ k) :
    (shifted m k a).roundedMantissa ≤ n := by
  have hquot := mantissa_shifted m k a
  have hround := (roundedMantissa_bounds (shifted m k a)).2
  have hle : m / 2 ^ k ≤ n := by
    rw [← Nat.mul_div_cancel n (Nat.two_pow_pos k)]
    exact Nat.div_le_div_right (by omega)
  rcases Nat.lt_or_eq_of_le hle with hlt | heq
  · omega
  · -- the quotient is `n` already, so the value is exactly `n` units
    have hdiv := Nat.div_mul_le_self m (2 ^ k)
    rw [heq] at hdiv
    have hexact : a = .exact := by
      cases a with
      | exact => rfl
      | inexact o => simp only [excess] at h; omega
    subst hexact
    have hm : m = n * 2 ^ k := by simp only [excess] at h; omega
    have hacc : (shifted m k .exact).accuracy = .exact :=
      accuracy_shift_of_dvd ⟨n, hm.trans (Nat.mul_comm _ _)⟩
    have hrounded : (shifted m k .exact).roundedMantissa = n := by
      rw [ExtendedMantissa.roundedMantissa, hacc, Accuracy.roundToNearestEven, hquot, heq]
    exact Nat.le_of_eq hrounded

/-! ## Rounding -/

/-- The exponent at which 53 bits are left of a number, or the least one. -/
def target (m : Nat) (e : Int) : Int := max ((m.log2 : Int) + e - 52) (-1074)

theorem targetExponent_eq (m : Nat) (e : Int) :
    Format.binary64.targetExponent (totalExponent m e) = target m e := by
  simp only [Format.targetExponent, totalExponent, Format.mantissaBits, Format.minExponent, target]
  omega

theorem log2_le_of_lt {m k : Nat} (h : m < 2 ^ (k + 1)) : m.log2 ≤ k := by
  rcases Nat.eq_zero_or_pos m with rfl | hpos
  · exact Nat.zero_le k
  · exact Nat.le_of_lt_succ ((Nat.log2_lt (Nat.ne_of_gt hpos)).2 h)

theorem le_log2_of_le {m k : Nat} (h : 2 ^ k ≤ m) : k ≤ m.log2 :=
  (Nat.le_log2 (Nat.ne_of_gt (Nat.lt_of_lt_of_le (Nat.two_pow_pos k) h))).2 h

/-- A number is shifted by what its exponent lacks, and only ever down. -/
theorem shiftToTargetExponent_eq (m : Nat) (e : Int) (a : Accuracy) :
    shiftToTargetExponent Format.binary64 m e a
      = (shifted m (target m e - e).toNat a, e + (target m e - e).toNat) := by
  rw [shiftToTargetExponent, targetExponent_eq]
  rfl

theorem target_le {m : Nat} {e : Int} (hm : m < 2 ^ 53) (he : -1074 ≤ e) : target m e ≤ e := by
  have hlog := log2_le_of_lt hm
  simp only [target]
  omega

/-- What is left has 53 bits, and one more if rounding carries. -/
theorem rounded_lt {m k : Nat} (a : Accuracy) (h : m.log2 ≤ 52 + k) :
    (shifted m k a).roundedMantissa ≤ 2 ^ 53 := by
  have hround := (roundedMantissa_bounds (shifted m k a)).2
  rw [mantissa_shifted] at hround
  have hquot : m / 2 ^ k < 2 ^ 53 := by
    rw [Nat.div_lt_iff_lt_mul (Nat.two_pow_pos k), ← Nat.pow_add]
    exact Nat.lt_of_lt_of_le Nat.lt_log2_self (Nat.pow_le_pow_right Nat.two_pos (by omega))
  omega

/-- A rounded mantissa as a number: one that has carried into a 54th bit is shifted back. -/
def settled (s : Sign) (r : Nat) (t : Int) : UnpackedFloat :=
  if h : r = 0 then .zero s
  else if r < 2 ^ 53 then .finite s r t (Nat.pos_of_ne_zero h)
  else .finite s (2 ^ 52) (t + 1) (by decide)

/-- Settling is another shift, by nothing or by the one bit that was carried. -/
theorem settled_eq (s : Sign) {r : Nat} {t : Int} (hr : r ≤ 2 ^ 53) (ht : -1074 ≤ t) :
    (if h : (shifted r (target r t - t).toNat .exact).mantissa = 0 then .zero s
      else .finite s (shifted r (target r t - t).toNat .exact).mantissa
        (t + (target r t - t).toNat) (Nat.pos_of_ne_zero h)) = settled s r t := by
  rcases Nat.lt_or_eq_of_le hr with hlt | rfl
  · -- within 53 bits nothing is left to shift
    have hshift : (target r t - t).toNat = 0 := by
      have := target_le hlt ht
      omega
    simp only [hshift, mantissa_shifted, settled, if_pos hlt, Nat.pow_zero, Nat.div_one]
    simp
  · have hshift : (target (2 ^ 53) t - t).toNat = 1 := by
      simp only [target, Nat.log2_two_pow]
      omega
    simp only [hshift, mantissa_shifted]
    rfl

/-- Rounding shifts to the target, rounds the mantissa and settles it. -/
theorem roundWithAccuracy_eq (s : Sign) (m : Nat) {e : Int} (a : Accuracy) (he : e ≤ target m e) :
    roundWithAccuracy Format.binary64 s m e a
      = settled s (shifted m (target m e - e).toNat a).roundedMantissa (target m e) := by
  have hlow : -1074 ≤ target m e := Int.le_max_right _ _
  have hsum : e + (target m e - e).toNat = target m e := by omega
  have hbits : m.log2 ≤ 52 + (target m e - e).toNat := by
    have : (m.log2 : Int) + e - 52 ≤ target m e := Int.le_max_left _ _
    omega
  rw [← settled_eq s (rounded_lt a hbits) hlow, roundWithAccuracy]
  simp only [shiftToTargetExponent_eq, hsum]

/-- A rounded mantissa that is not above the bound is not above it when it is settled. Where it has
carried, the bound has the bit that is shifted out. -/
theorem atMost_settled {b r : Nat} {g t : Int} (s : Sign) (hb : b < 2 ^ 53) (ht : -1074 ≤ t)
    (htg : t ≤ g) (hn : 2 ^ 52 ≤ r ∨ t = -1074) (hr : r ≤ 2 ^ 53)
    (hle : r ≤ b * 2 ^ (g - t).toNat) : AtMost b g (settled s r t) := by
  unfold settled
  split
  · exact .zero s
  · split
    · next hlt => exact .finite s _ ⟨hlt, hn, ht⟩ htg hle
    · next hge =>
      -- a carry, so the bound is above 53 bits and its exponent is above the target
      obtain rfl : r = 2 ^ 53 := by omega
      obtain ⟨j, hj⟩ : ∃ j, (g - t).toNat = j + 1 := by
        refine Nat.exists_eq_succ_of_ne_zero fun hzero => ?_
        rw [hzero] at hle
        omega
      refine .finite s _ ⟨by decide, .inl (Nat.le_refl _), by omega⟩ (by omega) ?_
      have hj' : (g - (t + 1)).toNat = j := by omega
      have hdouble : b * 2 ^ (j + 1) = b * 2 ^ j * 2 := by rw [Nat.pow_succ, Nat.mul_assoc]
      rw [hj, hdouble] at hle
      rw [hj']
      omega

/-- Where the target is not the least exponent, all 53 bits are there. -/
theorem le_rounded (m k : Nat) (a : Accuracy) (h : 52 + k ≤ m.log2) :
    2 ^ 52 ≤ (shifted m k a).roundedMantissa := by
  have hround := (roundedMantissa_bounds (shifted m k a)).1
  rw [mantissa_shifted] at hround
  refine Nat.le_trans ?_ hround
  rw [Nat.le_div_iff_mul_le (Nat.two_pow_pos k), ← Nat.pow_add]
  have hm : m ≠ 0 := by
    rintro rfl
    rw [Nat.log2_zero] at h
    omega
  exact (Nat.le_log2 hm).1 h

/-- Rounding does not pass a number of at most 53 bits. -/
theorem atMost_round {b m : Nat} {e g : Int} {a : Accuracy} (s : Sign) (hb : b < 2 ^ 53)
    (hg : -1074 ≤ g) (hm : 52 ≤ m.log2 ∨ e ≤ -1074) (he : e ≤ g)
    (hle : m + excess a ≤ b * 2 ^ (g - e).toNat) :
    AtMost b g (roundWithAccuracy Format.binary64 s m e a) := by
  have hte : e ≤ target m e := by simp only [target]; omega
  have hlow : -1074 ≤ target m e := Int.le_max_right _ _
  -- the target is not above the bound's exponent, as the bound has no more than 53 bits
  have htg : target m e ≤ g := by
    have hlog : m.log2 ≤ 52 + (g - e).toNat := by
      refine log2_le_of_lt (Nat.lt_of_le_of_lt (Nat.le_trans (Nat.le_add_right _ _) hle) ?_)
      rw [Nat.add_right_comm, Nat.pow_add]
      exact Nat.mul_lt_mul_of_pos_right hb (Nat.two_pow_pos _)
    simp only [target]
    omega
  have hbits : m.log2 ≤ 52 + (target m e - e).toNat := by simp only [target]; omega
  -- and so the bound is a multiple of what is shifted out, which rounding does not pass
  have hround : (shifted m (target m e - e).toNat a).roundedMantissa
      ≤ b * 2 ^ (g - target m e).toNat := by
    refine rounded_shifted_le (Nat.le_trans hle (Nat.le_of_eq ?_))
    rw [Nat.mul_assoc, ← Nat.pow_add]
    congr 2
    omega
  -- with fewer than 53 bits left the target is the least exponent
  have hnormal : 2 ^ 52 ≤ (shifted m (target m e - e).toNat a).roundedMantissa
      ∨ target m e = -1074 := by
    rcases Int.lt_or_eq_of_le hlow with hlt | heq
    · exact .inl (le_rounded m _ a (by simp only [target] at hlt ⊢; omega))
    · exact .inr heq.symm
  rw [roundWithAccuracy_eq s m a hte]
  exact atMost_settled s hb hlow htg hnormal (rounded_lt a hbits) hround

/-- A number with all its bits, and not below `2 ^ (52 + t)`. -/
inductive AtLeast (t : Int) : UnpackedFloat → Prop where
  | finite (s : Sign) {m : Nat} {e : Int} (pos : 0 < m) (normal : 2 ^ 52 ≤ m) (exponent : t ≤ e) :
      AtLeast t (.finite s m e pos)

/-- Rounding keeps all bits of a number that has them, and does not go below it. -/
theorem atLeast_round {m : Nat} {e t : Int} (s : Sign) (a : Accuracy) (hm : 52 ≤ m.log2)
    (ht : t ≤ m.log2 + e - 52) (hlow : -1074 ≤ m.log2 + e - 52) :
    AtLeast t (roundWithAccuracy Format.binary64 s m e a) := by
  have htarget : target m e = m.log2 + e - 52 := by simp only [target]; omega
  have hnormal := le_rounded m (target m e - e).toNat a (by omega)
  rw [roundWithAccuracy_eq s m a (by omega), settled]
  split
  · omega
  · split
    · exact .finite s _ hnormal (by omega)
    · exact .finite s _ (Nat.le_refl _) (by omega)

end PileCheck.Decimal
