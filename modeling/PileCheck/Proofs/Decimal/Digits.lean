import PileCheck.Proofs.Decimal.Scaling

/-!
# The digits that are written

What the shortest decimal of a number is has no part in what follows, only how large it is: it has
at most seventeen digits, since the grids that are tried have no more points below the value
(`Window.below_lt`), and it is not above the upper end of the number's interval (`Window.holds_le`).
Together they leave room for reading it back (`shortest_writable`); only for the largest number of
all the upper end is too far up, and there the digits are looked at.
-/

namespace PileCheck.Decimal

open Json.Literal (powerOfTen topPower scale?)

/-! ## Where the point stands -/

/-- As many digits as it takes. -/
theorem lt_pow_wholeDigits (n : Nat) : n < 10 ^ wholeDigits n := by
  fun_induction wholeDigits n with
  | case1 => decide
  | case2 n h ih =>
    rw [Nat.pow_succ]
    omega

/-- And no more than it takes: the first of them is no zero. -/
theorem pow_wholeDigits_le {n k : Nat} (h : wholeDigits n = k + 1) : 10 ^ k ≤ n := by
  fun_induction wholeDigits n generalizing k with
  | case1 => cases h
  | case2 n hn ih =>
    obtain rfl : wholeDigits (n / 10) = k := by omega
    cases hk : wholeDigits (n / 10) with
    | zero =>
      rw [Nat.pow_zero]
      omega
    | succ j =>
      have hquotient := ih hk
      rw [Nat.pow_succ]
      omega

/-- The value is below the power of ten at its point. Where it is below one that is seen from its
reciprocal. -/
theorem Window.value_lt {w : Window} (hvalue : 0 < w.value) (hscale : 0 < w.scale) :
    w.value * 10 ^ (-w.point).toNat < w.scale * 10 ^ w.point.toNat := by
  unfold Window.point
  simp only
  split
  · next hwhole =>
    have hlt : w.value < w.scale := by
      rcases Nat.div_eq_zero_iff.1 hwhole with hzero | hlt
      · omega
      · exact hlt
    -- the point of a small value is where the reciprocal, rounded up, has its
    generalize hreciprocal : (w.scale + w.value - 1) / w.value = r
    have hmul : r * w.value ≤ w.scale + w.value - 1 := hreciprocal ▸ Nat.div_mul_le_self _ _
    cases hdigits : wholeDigits (r - 1) with
    | zero => simp; omega
    | succ k =>
      have hpow := pow_wholeDigits_le hdigits
      have hneg : (-(1 - ((k + 1 : Nat) : Int))).toNat = k := by omega
      have hpos : (1 - ((k + 1 : Nat) : Int)).toNat = 0 := by omega
      rw [hneg, hpos, Nat.pow_zero, Nat.mul_one]
      have hle := Nat.mul_le_mul_left w.value hpow
      have hsub : w.value * (r - 1) = r * w.value - w.value := by
        rw [Nat.mul_sub, Nat.mul_one, Nat.mul_comm]
      omega
  · have hlt := lt_pow_wholeDigits (w.value / w.scale)
    rw [Nat.div_lt_iff_lt_mul hscale, Nat.mul_comm] at hlt
    have hneg : (-(wholeDigits (w.value / w.scale) : Int)).toNat = 0 := by omega
    rw [hneg, Nat.pow_zero, Nat.mul_one, Int.toNat_natCast]
    exact hlt

/-! ## The grids -/

/-- The last point of a grid that is not above the value. -/
def Window.below (w : Window) (power : Int) : Nat :=
  w.value * Nat.pow 10 (-power).toNat / (w.scale * Nat.pow 10 power.toNat)

/-- A grid has at most as many points below the value as it has digits above its last. -/
theorem Window.below_lt {w : Window} (hvalue : 0 < w.value) (hscale : 0 < w.scale) (k : Nat) :
    w.below (w.point - k) < 10 ^ k := by
  have hlt := w.value_lt hvalue hscale
  have hpow : ∀ n, Nat.pow 10 n = 10 ^ n := fun _ => rfl
  have hgrid : 0 < w.scale * 10 ^ (w.point - k).toNat :=
    Nat.mul_pos hscale (Nat.pow_pos (by decide))
  rw [Window.below, hpow, hpow, Nat.div_lt_iff_lt_mul hgrid]
  -- both sides of the bound on the value are scaled by what the grid is finer than one
  generalize hshift : (-(w.point - k)).toNat - (-w.point).toNat = j
  have hdown : (-(w.point - k)).toNat = (-w.point).toNat + j := by omega
  have hup : w.point.toNat + j = k + (w.point - k).toNat := by omega
  calc w.value * 10 ^ (-(w.point - k)).toNat
      = w.value * 10 ^ (-w.point).toNat * 10 ^ j := by rw [hdown, Nat.pow_add, Nat.mul_assoc]
    _ < w.scale * 10 ^ w.point.toNat * 10 ^ j :=
      Nat.mul_lt_mul_of_pos_right hlt (Nat.pow_pos (by decide))
    _ = w.scale * (10 ^ k * 10 ^ (w.point - k).toNat) := by
      rw [Nat.mul_assoc, ← Nat.pow_add, hup, Nat.pow_add]
    _ = 10 ^ k * (w.scale * 10 ^ (w.point - k).toNat) := Nat.mul_left_comm ..

/-- Only the two points next to the value are taken, and only inside the window. -/
theorem Window.nearest?_spec {w : Window} {tie : Tie} {power : Int} {d : Nat}
    (h : w.nearest? tie power = some d) :
    d ≤ w.below power + 1
      ∧ w.holds (d * Nat.pow 10 power.toNat) (Nat.pow 10 (-power).toNat) = true := by
  have below : w.holds (w.below power * Nat.pow 10 power.toNat) (Nat.pow 10 (-power).toNat) = true →
      some (w.below power) = some d → d ≤ w.below power + 1
        ∧ w.holds (d * Nat.pow 10 power.toNat) (Nat.pow 10 (-power).toNat) = true := by
    rintro hin ⟨⟩
    exact ⟨Nat.le_succ _, hin⟩
  have above : w.holds ((w.below power + 1) * Nat.pow 10 power.toNat) (Nat.pow 10 (-power).toNat)
        = true →
      some (w.below power + 1) = some d → d ≤ w.below power + 1
        ∧ w.holds (d * Nat.pow 10 power.toNat) (Nat.pow 10 (-power).toNat) = true := by
    rintro hin ⟨⟩
    exact ⟨Nat.le_refl _, hin⟩
  simp only [Window.nearest?] at h
  split at h
  · cases h
  · next hin _ => exact below hin h
  · next _ hin => exact above hin h
  · next hinBelow hinAbove =>
    -- both points are inside: the nearer one, or whichever the tie rule takes
    split at h
    · exact below hinBelow h
    · split at h
      · exact above hinAbove h
      · split at h
        · split at h
          · exact below hinBelow h
          · exact above hinAbove h
        · exact above hinAbove h

/-- What is inside a window is not above its upper end. -/
theorem Window.holds_le {w : Window} {num den : Nat} (h : w.holds num den = true) :
    num * w.scale ≤ w.high * den := by
  unfold Window.holds at h
  simp only at h
  split at h <;> simp only [Bool.and_eq_true, decide_eq_true_eq] at h <;> omega

/-- Nor is it zero, if the lower end is not. -/
theorem Window.pos_of_holds {w : Window} {num den : Nat} (hlow : 0 < w.low) (hden : 0 < den)
    (h : w.holds num den = true) : 0 < num := by
  have hpos : 0 < w.low * den := Nat.mul_pos hlow hden
  refine Nat.pos_of_ne_zero ?_
  rintro rfl
  unfold Window.holds at h
  simp only [Nat.zero_mul] at h
  split at h <;> simp only [Bool.and_eq_true, decide_eq_true_eq] at h <;> omega

/-! ## The number's window -/

theorem window_value_pos {mant : Nat} (expo : Int) (h : 0 < mant) :
    0 < (window mant expo).value := by
  simp only [window, Nat.shiftLeft_eq]
  exact Nat.mul_pos (by omega) (Nat.two_pow_pos _)

theorem window_scale_pos (mant : Nat) (expo : Int) : 0 < (window mant expo).scale := by
  simp only [window, Nat.shiftLeft_eq]
  exact Nat.mul_pos (by decide) (Nat.two_pow_pos _)

theorem window_low_pos {mant : Nat} (expo : Int) (h : 0 < mant) : 0 < (window mant expo).low := by
  simp only [window, Nat.shiftLeft_eq]
  refine Nat.mul_pos ?_ (Nat.two_pow_pos _)
  split <;> omega

/-- Below the largest number the window ends where there is room. -/
theorem window_high_le {mant : Nat} {expo : Int} (hmant : mant ≤ topMantissa)
    (hexpo : expo ≤ topExponent) (htop : mant ≠ topMantissa ∨ expo ≠ topExponent) :
    (window mant expo).high ≤ topDecimal * (window mant expo).scale := by
  simp only [topMantissa, topExponent] at hmant hexpo htop
  simp only [window, Nat.shiftLeft_eq]
  have hscale : topDecimal * 4 ≤ topDecimal * (4 * 2 ^ (-expo).toNat) :=
    Nat.mul_le_mul_left _ (Nat.le_mul_of_pos_right _ (Nat.two_pow_pos _))
  refine Nat.le_trans ?_ hscale
  by_cases hlast : expo = 971
  · -- the last exponent, but not the last mantissa
    subst hlast
    calc (4 * mant + 2) * 2 ^ (971 : Int).toNat ≤ (4 * (2 ^ 53 - 2) + 2) * 2 ^ 971 :=
          Nat.mul_le_mul (by omega) (Nat.pow_le_pow_right Nat.two_pos (by decide))
      _ ≤ topDecimal * 4 := by decide +kernel
  · calc (4 * mant + 2) * 2 ^ expo.toNat ≤ (4 * (2 ^ 53 - 1) + 2) * 2 ^ 970 :=
          Nat.mul_le_mul (by omega) (Nat.pow_le_pow_right Nat.two_pos (by omega))
      _ ≤ topDecimal * 4 := by decide +kernel

/-! ## Normal form -/

/-- The digits keep their value, and they do not become none. -/
theorem normalize_spec (digits : Nat) (power : Int) (h : 0 < digits) :
    ∃ k : Nat, (normalize digits power).2 = power + k
      ∧ (normalize digits power).1 * 10 ^ k = digits ∧ 0 < (normalize digits power).1 := by
  fun_induction normalize digits power with
  | case1 digits power hten ih =>
    obtain ⟨k, hpower, hdigits, hpos⟩ := ih (by omega)
    refine ⟨k + 1, by rw [hpower]; omega, ?_, hpos⟩
    rw [Nat.pow_succ, ← Nat.mul_assoc, hdigits]
    omega
  | case2 digits power hten => exact ⟨0, by omega, by omega, h⟩

/-! ## What is written can be read -/

/-- Digits and a power of ten that a reader has room for. -/
structure Writable (n : Nat) (p : Int) : Prop where
  /-- Zero has no power. -/
  plain : n = 0 → p = 0
  digits : n ≤ 10 ^ 17
  power : p ≤ topPower
  scaled : 0 ≤ p → (scale? n.toUInt64.toFloat p).isSome = true

/-- Digits and a power of ten that stay below the largest number leave room. Up to the power 291 it
is enough that the digits are few; from there on the value itself bounds them. -/
theorem le_room {n k : Nat} (hdigits : n ≤ 10 ^ 17) (hvalue : n * 10 ^ k ≤ topDecimal) :
    n ≤ (room k).1 * 2 ^ (room k).2 := by
  have hquotient : n ≤ topDecimal / 10 ^ k :=
    (Nat.le_div_iff_mul_le (Nat.pow_pos (by decide))).2 hvalue
  unfold room
  split
  · exact Nat.le_trans hdigits (by decide)
  · split
    · exact Nat.le_trans hdigits (by decide)
    · split
      · next heq =>
        subst heq
        have heven : topDecimal / 10 ^ 292 = topDecimal / 10 ^ 292 / 2 * 2 := by decide +kernel
        rw [Nat.pow_one, ← heven]
        exact hquotient
      · rw [Nat.pow_zero, Nat.mul_one]
        exact hquotient

/-- A value that is not above the bound has no power that is too large, and so there is a power to
scale by and room for its digits. -/
theorem writable_of_le {n : Nat} {p : Int} (hpos : 0 < n) (hdigits : n ≤ 10 ^ 17)
    (hvalue : 0 ≤ p → n * 10 ^ p.toNat ≤ topDecimal) : Writable n p := by
  have hpower : p ≤ topPower := by
    refine Int.not_lt.1 fun hlarge => ?_
    simp only [topPower] at hlarge
    have hten : 10 ^ (topPower + 1) ≤ n * 10 ^ p.toNat :=
      Nat.le_trans (Nat.pow_le_pow_right (by decide) (by simp only [topPower]; omega))
        (Nat.le_mul_of_pos_left _ hpos)
    have htop : topDecimal < 10 ^ (topPower + 1) := by decide +kernel
    exact Nat.not_le.2 htop (Nat.le_trans hten (hvalue (by omega)))
  refine ⟨fun hzero => absurd hzero (Nat.ne_of_gt hpos), hdigits, hpower, fun hp => ?_⟩
  have hroom := le_room hdigits (hvalue hp)
  have hsmall : n < 2 ^ 64 := by omega
  have htoNat : n.toUInt64.toNat = n := Nat.mod_eq_of_lt hsmall
  rw [← Int.toNat_of_nonneg hp]
  exact isSome_scale? (by omega) (by rwa [htoNat])

/-- Where a grid point is taken, its digits are few and its value is small enough. -/
theorem writable_normalize {w : Window} {tie : Tie} {d k : Nat} (hvalue : 0 < w.value)
    (hscale : 0 < w.scale) (hlow : 0 < w.low) (hhigh : w.high ≤ topDecimal * w.scale) (hk : k ≤ 17)
    (h : w.nearest? tie (w.point - k) = some d) :
    Writable (normalize d (w.point - k)).1 (normalize d (w.point - k)).2 := by
  obtain ⟨hbelow, hholds⟩ := Window.nearest?_spec h
  have hpow : ∀ n, Nat.pow 10 n = 10 ^ n := fun _ => rfl
  have hten : ∀ n, 0 < 10 ^ n := fun n => Nat.pow_pos (by decide)
  -- few digits, since the grid has few points below the value
  have hfew : d ≤ 10 ^ 17 := by
    have hgrid := w.below_lt hvalue hscale k
    have := Nat.pow_le_pow_right (show 0 < 10 by decide) hk
    omega
  have hd : 0 < d := by
    have := Window.pos_of_holds hlow (hten _) hholds
    exact Nat.pos_of_mul_pos_right this
  -- and not above the upper end, which is not above the bound
  have hle : d * 10 ^ (w.point - k).toNat ≤ topDecimal * 10 ^ (-(w.point - k)).toNat := by
    have hwindow := Window.holds_le hholds
    rw [hpow, hpow] at hwindow
    refine Nat.le_of_mul_le_mul_right (Nat.le_trans hwindow ?_) hscale
    rw [Nat.mul_right_comm]
    exact Nat.mul_le_mul_right _ hhigh
  obtain ⟨j, hpower, hdigits, hpos⟩ := normalize_spec d (w.point - k) hd
  generalize normalize d (w.point - k) = result at hpower hdigits hpos
  obtain ⟨n, p⟩ := result
  simp only at hpower hdigits hpos ⊢
  refine writable_of_le hpos ?_ fun hp => ?_
  · exact Nat.le_trans (Nat.le_mul_of_pos_right n (hten j)) (hdigits ▸ hfew)
  · -- the digits' value is that of the grid point
    refine Nat.le_of_mul_le_mul_right (Nat.le_trans (Nat.le_of_eq ?_) hle)
      (hten (-(w.point - k)).toNat)
    have hsum : p.toNat + (-(w.point - k)).toNat = j + (w.point - k).toNat := by omega
    rw [← hdigits, Nat.mul_assoc, Nat.mul_assoc, ← Nat.pow_add, ← Nat.pow_add, hsum]

theorem shortest_top : shortest .toEven topMantissa topExponent = (17976931348623157, 292) := by
  decide +kernel

/-- The largest number is written with more than there is room for, and is read all the same. -/
theorem writable_top : Writable 17976931348623157 292 where
  plain := by decide
  digits := by decide
  power := by decide
  scaled _ := by
    have hinf : ((17976931348623157 : Nat).toUInt64.toFloat * powerOfTen 292).isInf = false := by
      decide +kernel
    show (scale? _ ((292 : Nat) : Int)).isSome = true
    rw [scale?_natCast _ (by decide), hinf]
    rfl

/-- The digits of every finite number can be read. -/
theorem shortest_writable {mant : Nat} {expo : Int} (hpos : 0 < mant) (hmant : mant ≤ topMantissa)
    (hexpo : expo ≤ topExponent) :
    Writable (shortest .toEven mant expo).1 (shortest .toEven mant expo).2 := by
  by_cases htop : mant = topMantissa ∧ expo = topExponent
  · obtain ⟨rfl, rfl⟩ := htop
    rw [shortest_top]
    exact writable_top
  · have hhigh := window_high_le hmant hexpo (Decidable.not_and_iff_or_not.1 htop)
    unfold shortest
    simp only
    split
    · next digits power hfound =>
      -- the digits are a point of one of the grids that were tried
      obtain ⟨q, hq, hnearest⟩ := List.exists_of_findSome?_eq_some hfound
      obtain ⟨k, hk, rfl⟩ := List.mem_map.1 hq
      obtain ⟨d, hd, heq⟩ := Option.map_eq_some_iff.1 hnearest
      obtain ⟨rfl, rfl⟩ := Prod.mk.inj heq
      have hk := Nat.lt_succ_iff.1 (Nat.succ_lt_succ (List.mem_range.1 hk))
      exact writable_normalize (window_value_pos expo hpos) (window_scale_pos mant expo)
        (window_low_pos expo hpos) hhigh hk hd
    · exact ⟨fun _ => rfl, by decide, by decide,
        fun _ => isSome_scale? (Nat.zero_le _) (Nat.zero_le _)⟩

end PileCheck.Decimal
