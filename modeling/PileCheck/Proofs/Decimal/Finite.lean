import PileCheck.Proofs.Decimal.Rounding

/-!
# Finite numbers

What a bit pattern stands for is read in two ways: by the arithmetic, which unpacks its arguments
and packs its result, and by the writer (`ofBits`). Both read the same three fields (`unpack_eq`,
`magnitude_toBits`), and a number of the format is packed and unpacked without loss
(`unpack_pack`). So a bound on the exact result of an operation makes its result `IsFinite`.
-/

namespace PileCheck.Decimal

open Float.Model Float.Model.UnpackedFloat

/-- A number that is neither infinite nor undefined. -/
def IsFinite (x : Float) : Prop := AtMost topMantissa topExponent x.toModel.unpack

/-! ## Fields -/

/-- The number of a sign, an exponent field of 11 bits and 52 bits of fraction. -/
def ofFields (s : Sign) (exponent fraction : Nat) : UnpackedFloat :=
  if exponent = 2047 then if fraction = 0 then .infinity s else .notANumber
  else if exponent = 0 then
    if h : fraction = 0 then .zero s else .finite s fraction (-1074) (Nat.pos_of_ne_zero h)
  else .finite s (2 ^ 52 + fraction) ((exponent : Int) - 1075) (by omega)

/-- A pattern is read by its three fields. The branches are those of the format: all ones in the
exponent, none, or a number with its leading bit. -/
theorem unpack_eq (b : BitVec 64) :
    UnpackedFloat.unpack Format.binary64 b
      = ofFields (.ofBitVec (@unpackSign Format.binary64 b))
        (@unpackExponent Format.binary64 b).toNat
        (@unpackMantissa Format.binary64 b).toNat := by
  -- a field is all ones, or zero, exactly if its value is
  have hones : ∀ v : BitVec 11, v = -1#11 ↔ v.toNat = 2047 := fun v => by
    rw [← BitVec.toNat_inj]
    rfl
  have hzero : ∀ {w : Nat} (v : BitVec w), v = 0#w ↔ v.toNat = 0 := fun v => by
    rw [← BitVec.toNat_inj, BitVec.toNat_zero]
  have happend : ∀ v : BitVec 52, (1#1 ++ v).toNat = 2 ^ 52 + v.toNat := fun v => by
    rw [BitVec.toNat_append, ← Nat.shiftLeft_add_eq_or_of_lt v.isLt]
    rfl
  have hbias : ((Format.binary64.exponentBias : Nat) : Int)
      + (Format.binary64.mantissaBitsWithoutImplicit : Nat) = 1075 := rfl
  rw [UnpackedFloat.unpack, ofFields]
  split
  · next hv =>
    rw [if_pos ((hones _).1 hv)]
    split
    · next hw => rw [if_pos ((hzero _).1 hw)]
    · next hw => rw [if_neg (mt (hzero _).2 hw)]
  · next hv =>
    rw [if_neg (mt (hones _).2 hv)]
    split
    · next hv =>
      rw [if_pos ((hzero _).1 hv)]
      split
      · next hw => rw [dif_pos ((hzero _).1 hw)]
      · next hw =>
        rw [dif_neg (mt (hzero _).2 hw)]
        congr 1
        rw [(hzero _).1 hv, hbias]
        rfl
    · next hv =>
      rw [if_neg (mt (hzero _).2 hv)]
      congr 1
      exact happend _

/-- Whatever stands in the fields is a number of the format unless the exponent is all ones. -/
theorem atMost_ofFields (s : Sign) {exponent fraction : Nat} (he : exponent < 2047)
    (hf : fraction < 2 ^ 52) :
    AtMost topMantissa topExponent (ofFields s exponent fraction) := by
  unfold ofFields
  rw [if_neg (Nat.ne_of_lt he)]
  split
  · split
    · exact .zero s
    · exact Settled.atMost ⟨by omega, .inr rfl, Int.le_refl _⟩ (by decide) s _
  · have hg : (exponent : Int) - 1075 ≤ topExponent := by simp only [topExponent]; omega
    exact Settled.atMost ⟨by omega, .inl (by omega), by omega⟩ hg s _

/-! ## Packing -/

/-- Fields that are put together are read again. -/
theorem unpack_packComponents (s : Sign) (exponent : BitVec 11) (fraction : BitVec 52) :
    UnpackedFloat.unpack Format.binary64 (packComponents Format.binary64 s exponent fraction)
      = ofFields s exponent.toNat fraction.toNat := by
  rw [unpack_eq, unpackSign_packComponents, Sign.ofBitVec_toBitVec, unpackExponent_packComponents,
    unpackMantissa_packComponents]

theorem unpack_model_pack (u : UnpackedFloat) :
    (Float.Model.pack u).unpack
      = UnpackedFloat.unpack Format.binary64 (UnpackedFloat.pack Format.binary64 u) := rfl

/-- A number of the format is packed without loss. -/
theorem unpack_pack {u : UnpackedFloat} (h : AtMost topMantissa topExponent u) :
    (Float.Model.pack u).unpack = u := by
  rw [unpack_model_pack]
  cases h with
  | zero s => cases s <;> rfl
  | @finite s m e pos settled exponent _ =>
    have hlt := settled.lt
    have hlow := settled.low
    simp only [topExponent] at exponent
    have hbias : (e + (Format.binary64.exponentBias : Nat)
        + (Format.binary64.mantissaBitsWithoutImplicit : Nat)).toNat = (e + 1075).toNat := by
      show (e + (1023 : Nat) + (52 : Nat)).toNat = _
      omega
    have hbits : Format.binary64.mantissaBits = 53 := rfl
    simp only [UnpackedFloat.pack, hbias, hbits]
    rw [if_neg (by omega)]
    -- a leading bit that is left out, or the least exponent and no leading bit
    by_cases hnormal : 2 ^ 52 ≤ m
    · have hlog : m.log2 = 52 := Nat.le_antisymm (log2_le_of_lt hlt) (le_log2_of_le hnormal)
      rw [if_pos (by omega), unpack_packComponents, BitVec.toNat_ofNat, BitVec.toNat_ofNat,
        ofFields, if_neg (by omega), if_neg (by omega)]
      congr 1 <;> omega
    · obtain rfl : e = -1074 := settled.normal.resolve_left hnormal
      have hlog : m.log2 < 52 := (Nat.log2_lt (Nat.ne_of_gt pos)).2 (by omega)
      have hfraction : (BitVec.ofNat 52 m).toNat = m := by
        rw [BitVec.toNat_ofNat]
        exact Nat.mod_eq_of_lt (by omega)
      rw [if_neg (by omega), unpack_packComponents, ofFields, if_neg (by decide),
        if_pos (BitVec.toNat_zero), dif_neg (by rw [hfraction]; omega)]
      congr 1

/-- So the result of an operation is finite if it is in the format before it is packed. -/
theorem isFinite_pack {u : UnpackedFloat} (h : AtMost topMantissa topExponent u) :
    IsFinite (.ofModel (Float.Model.pack u)) := by
  have hunpack : (Float.Model.pack u).unpack = u := unpack_pack h
  rw [IsFinite, hunpack]
  exact h

/-- No number is packed as an undefined one, whatever its size. -/
theorem unpack_pack_finite (s : Sign) (m : Nat) (e : Int) (pos : 0 < m) :
    (∃ t, (Float.Model.pack (.finite s m e pos)).unpack = .infinity t)
      ∨ AtMost topMantissa topExponent (Float.Model.pack (.finite s m e pos)).unpack := by
  rw [unpack_model_pack]
  simp only [UnpackedFloat.pack]
  split
  · exact .inl ⟨s, by cases s <;> rfl⟩
  · next hsize =>
    split
    · rw [unpack_packComponents]
      refine .inr (atMost_ofFields s ?_ (BitVec.isLt _))
      rw [BitVec.toNat_ofNat]
      exact Nat.lt_of_le_of_lt (Nat.mod_le _ _) (by omega)
    · rw [unpack_packComponents]
      exact .inr (atMost_ofFields s (by decide) (BitVec.isLt _))

/-- What is finite passes for it. -/
theorem IsFinite.isInf {x : Float} (h : IsFinite x) : x.isInf = false := by
  show x.toModel.unpack.isInf = false
  rw [IsFinite] at h
  generalize x.toModel.unpack = u at h
  cases h <;> rfl

/-! ## The writer's view -/

/-- A number as the writer sees it, without its sign. -/
def magnitude : UnpackedFloat → Magnitude
  | .notANumber => .undefined
  | .infinity _ => .infinite
  | .zero _ => .zero
  | .finite _ m e _ => .finite m e

/-- The writer reads the same fields from the bits that the arithmetic unpacks. -/
theorem magnitude_toBits (x : Float) : (ofBits x.toBits).2 = magnitude x.toModel.unpack := by
  have hexponent : (@unpackExponent Format.binary64 x.toBits.toBitVec).toNat
      = x.toBits.toNat >>> 52 % 2048 := by
    simp only [unpackExponent, BitVec.toNat_cast, BitVec.extractLsb_toNat]
    rfl
  have hfraction : (@unpackMantissa Format.binary64 x.toBits.toBitVec).toNat
      = x.toBits.toNat % 2 ^ 52 := by
    simp only [unpackMantissa, BitVec.toNat_cast, BitVec.extractLsb_toNat]
    rfl
  have hunpack : x.toModel.unpack = UnpackedFloat.unpack Format.binary64 x.toBits.toBitVec := rfl
  have hleading : leadingBit = 2 ^ 52 := rfl
  rw [hunpack, unpack_eq, hexponent, hfraction]
  simp only [ofBits, ofFields, hleading]
  split
  · split <;> rfl
  · split
    · split <;> rfl
    · simp only [magnitude, Nat.add_comm]

/-- Nothing finite is undefined for the writer. -/
theorem IsFinite.magnitude_ne {x : Float} (h : IsFinite x) :
    magnitude x.toModel.unpack ≠ .undefined := by
  rw [IsFinite] at h
  generalize x.toModel.unpack = u at h
  cases h <;> exact Magnitude.noConfusion

end PileCheck.Decimal
