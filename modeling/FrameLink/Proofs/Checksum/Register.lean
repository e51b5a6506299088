import FrameLink.Checksum.Crc
import Mathlib.Algebra.Group.Nat.Defs

namespace FrameLink

/-- What a carry out of the register puts back into it. -/
def crc16Feedback (carry : Bool) : UInt16 := if carry then 0x1021 else 0

theorem crc16Feedback_xor (a b : Bool) :
    crc16Feedback (a ^^ b) = crc16Feedback a ^^^ crc16Feedback b := by
  cases a <;> cases b <;> decide

theorem crc16Bit_eq (crc : UInt16) :
    crc16Bit crc = (crc <<< 1) ^^^ crc16Feedback crc.toBitVec.msb := by
  have htop : crc &&& 0x8000 ≠ 0 ↔ crc.toBitVec.msb = true := by
    have h : (crc &&& 0x8000).toBitVec = crc.toBitVec &&& BitVec.twoPow 16 15 := rfl
    rw [Ne, ← UInt16.toBitVec_inj, h, BitVec.and_twoPow, BitVec.msb_eq_getLsbD_last]
    cases crc.toBitVec.getLsbD 15 <;> decide
  unfold crc16Bit crc16Feedback
  simp only [htop]
  split
  · rfl
  · rw [UInt16.xor_zero]

theorem crc16Bit_xor (x y : UInt16) : crc16Bit (x ^^^ y) = crc16Bit x ^^^ crc16Bit y := by
  rw [crc16Bit_eq, crc16Bit_eq x, crc16Bit_eq y, UInt16.toBitVec_xor, BitVec.msb_xor,
    UInt16.shiftLeft_xor, crc16Feedback_xor]
  ac_rfl

theorem toNat_crc16Bit_of_lt {crc : UInt16} (h : crc.toNat < 2 ^ 15) :
    (crc16Bit crc).toNat = crc.toNat * 2 := by
  have hmsb : crc.toBitVec.msb = false := by
    rw [BitVec.msb_eq_decide, decide_eq_false_iff_not]
    exact Nat.not_le.mpr h
  rw [crc16Bit_eq, hmsb, crc16Feedback, if_neg Bool.false_ne_true, UInt16.xor_zero,
    UInt16.toNat_shiftLeft, Nat.shiftLeft_eq]
  exact Nat.mod_eq_of_lt (Nat.mul_lt_mul_of_pos_right h Nat.two_pos)

theorem eq_zero_of_crc16Bit_eq_zero {crc : UInt16} (h : crc16Bit crc = 0) : crc = 0 := by
  by_cases hlt : crc.toNat < 2 ^ 15
  · have hd := toNat_crc16Bit_of_lt hlt
    rw [h] at hd
    apply UInt16.toNat_inj.mp
    simp only [UInt16.toNat_zero] at hd ⊢
    omega
  · -- the feedback is odd, and what is shifted is even
    have hmsb : crc.toBitVec.msb = true := by
      rw [BitVec.msb_eq_decide, decide_eq_true_iff]
      exact Nat.not_lt.mp hlt
    rw [crc16Bit_eq, hmsb, UInt16.xor_eq_zero_iff] at h
    have hn := congrArg UInt16.toNat h
    rw [UInt16.toNat_shiftLeft, Nat.shiftLeft_eq] at hn
    have hodd : (crc16Feedback true).toNat = 4129 := rfl
    have htwo : (1 : UInt16).toNat % 16 = 1 := rfl
    rw [hodd, htwo] at hn
    omega

theorem crc16Bit_injective : Function.Injective crc16Bit := by
  intro x y h
  apply UInt16.xor_eq_zero_iff.mp
  apply eq_zero_of_crc16Bit_eq_zero
  rw [crc16Bit_xor, h, UInt16.xor_self]

theorem crc16Shift_xor (x y : UInt16) : crc16Shift (x ^^^ y) = crc16Shift x ^^^ crc16Shift y := by
  simp only [crc16Shift, crc16Bit_xor]

theorem crc16Shift_injective : Function.Injective crc16Shift := by
  have h2 := crc16Bit_injective.comp crc16Bit_injective
  have h4 := h2.comp h2
  exact h4.comp h4

theorem toNat_repeat_crc16Bit {k : Nat} {crc : UInt16} (h : crc.toNat * 2 ^ k < 2 ^ 16) :
    (Nat.repeat crc16Bit k crc).toNat = crc.toNat * 2 ^ k := by
  induction k with
  | zero => exact (Nat.mul_one _).symm
  | succ k ih =>
    rw [Nat.pow_succ, ← Nat.mul_assoc] at h ⊢
    have hk := ih (by omega)
    rw [Nat.repeat, toNat_crc16Bit_of_lt (by omega), hk]

theorem crc16Shift_low (b : UInt8) : crc16Shift b.toUInt16 = b.toUInt16 <<< 8 := by
  have hlt : b.toUInt16.toNat * 2 ^ 8 < 2 ^ 16 := Nat.mul_lt_mul_of_pos_right b.toNat_lt (by decide)
  have h : (crc16Shift b.toUInt16).toNat = b.toUInt16.toNat * 2 ^ 8 := toNat_repeat_crc16Bit hlt
  apply UInt16.toNat_inj.mp
  rw [h, UInt16.toNat_shiftLeft, Nat.shiftLeft_eq]
  exact (Nat.mod_eq_of_lt hlt).symm

theorem crc16_eq_halves (crc : UInt16) :
    crc = (crc >>> 8).toUInt8.toUInt16 <<< 8 ^^^ crc.toUInt8.toUInt16 := by
  apply UInt16.toBitVec_inj.mp
  apply BitVec.eq_of_getLsbD_eq
  intro i hi
  simp only [UInt16.toBitVec_xor, UInt16.toBitVec_shiftLeft, UInt8.toBitVec_toUInt16,
    UInt16.toBitVec_toUInt8, UInt16.toBitVec_shiftRight, BitVec.getLsbD_xor, BitVec.shiftLeft_eq',
    BitVec.ushiftRight_eq', UInt16.toBitVec_ofNat, BitVec.getLsbD_shiftLeft,
    BitVec.getLsbD_setWidth, BitVec.getLsbD_ushiftRight]
  by_cases h : i < 8
  · simp [h, hi]
  · have hlt : i - 8 < 16 := by omega
    have hlow : i - 8 < 8 := by omega
    simp [h, hi, hlt, hlow, Nat.add_sub_cancel' (Nat.not_lt.mp h)]

theorem get_crc16Table (b : UInt8) : crc16Table.get b.toFin = crc16Shift (b.toUInt16 <<< 8) := by
  have hb : b.toNat < 256 := b.toNat_lt
  have h : crc16Table.get b.toFin = crc16Table[b.toNat] := rfl
  rw [h]
  simp [crc16Table]

/-- A step over the table is eight steps of the register that the byte has entered at the top. -/
theorem crc16_step (crc : UInt16) (b : UInt8) :
    (crc <<< 8) ^^^ crc16Table.get ((crc >>> 8).toUInt8 ^^^ b).toFin =
      crc16Shift (crc ^^^ b.toUInt16 <<< 8) := by
  have hlow : crc.toUInt8.toUInt16 <<< 8 = crc <<< 8 := by
    have hw : (8 : UInt16).toNat % 16 = 8 := rfl
    apply UInt16.toNat_inj.mp
    rw [UInt16.toNat_shiftLeft, UInt16.toNat_shiftLeft, UInt8.toNat_toUInt16, UInt16.toNat_toUInt8,
      hw, Nat.shiftLeft_eq, Nat.shiftLeft_eq]
    omega
  calc (crc <<< 8) ^^^ crc16Table.get ((crc >>> 8).toUInt8 ^^^ b).toFin
      = crc16Shift crc.toUInt8.toUInt16 ^^^
          (crc16Shift ((crc >>> 8).toUInt8.toUInt16 <<< 8) ^^^ crc16Shift (b.toUInt16 <<< 8)) := by
        rw [get_crc16Table, UInt8.toUInt16_xor, UInt16.shiftLeft_xor, crc16Shift_xor, crc16Shift_low, hlow]
    _ = crc16Shift (crc ^^^ b.toUInt16 <<< 8) := by
        conv => rhs; rw [crc16_eq_halves crc]
        simp only [crc16Shift_xor]
        ac_rfl

theorem crc16_eq_crc16Bitwise (data : Bytes) : crc16 data = crc16Bitwise data := by
  simp only [crc16, crc16Bitwise, crc16_step]

def crc32Feedback (carry : Bool) : UInt32 := if carry then 0xEDB88320 else 0

theorem crc32Feedback_xor (a b : Bool) :
    crc32Feedback (a ^^ b) = crc32Feedback a ^^^ crc32Feedback b := by
  cases a <;> cases b <;> decide

theorem crc32Bit_eq (crc : UInt32) :
    crc32Bit crc = (crc >>> 1) ^^^ crc32Feedback (crc.toBitVec.getLsbD 0) := by
  have hlow : crc &&& 1 ≠ 0 ↔ crc.toBitVec.getLsbD 0 = true := by
    have h : (crc &&& 1).toBitVec = crc.toBitVec &&& BitVec.twoPow 32 0 := rfl
    rw [Ne, ← UInt32.toBitVec_inj, h, BitVec.and_twoPow]
    cases crc.toBitVec.getLsbD 0 <;> decide
  unfold crc32Bit crc32Feedback
  simp only [hlow]
  split
  · rfl
  · rw [UInt32.xor_zero]

theorem crc32Bit_xor (x y : UInt32) : crc32Bit (x ^^^ y) = crc32Bit x ^^^ crc32Bit y := by
  rw [crc32Bit_eq, crc32Bit_eq x, crc32Bit_eq y, UInt32.toBitVec_xor, BitVec.getLsbD_xor,
    UInt32.shiftRight_xor, crc32Feedback_xor]
  ac_rfl

theorem toNat_crc32Bit_of_even {crc : UInt32} (h : crc.toNat % 2 = 0) :
    (crc32Bit crc).toNat = crc.toNat / 2 := by
  have hlow : crc.toBitVec.getLsbD 0 = false := by
    rw [BitVec.getLsbD, Nat.testBit_zero, decide_eq_false_iff_not]
    exact fun hone => Nat.zero_ne_one (h.symm.trans hone)
  rw [crc32Bit_eq, hlow, crc32Feedback, if_neg Bool.false_ne_true, UInt32.xor_zero,
    UInt32.toNat_shiftRight, Nat.shiftRight_eq_div_pow]
  rfl

theorem eq_zero_of_crc32Bit_eq_zero {crc : UInt32} (h : crc32Bit crc = 0) : crc = 0 := by
  by_cases heven : crc.toNat % 2 = 0
  · have hd := toNat_crc32Bit_of_even heven
    rw [h] at hd
    apply UInt32.toNat_inj.mp
    simp only [UInt32.toNat_zero] at hd ⊢
    omega
  · -- the feedback fills the top bit, which what is shifted leaves free
    have hlow : crc.toBitVec.getLsbD 0 = true := by
      rw [BitVec.getLsbD, Nat.testBit_zero, decide_eq_true_iff]
      exact Nat.mod_two_ne_zero.mp heven
    rw [crc32Bit_eq, hlow, UInt32.xor_eq_zero_iff] at h
    have hn := congrArg UInt32.toNat h
    rw [UInt32.toNat_shiftRight, Nat.shiftRight_eq_div_pow] at hn
    have htop : (crc32Feedback true).toNat = 3988292384 := rfl
    have hone : (1 : UInt32).toNat % 32 = 1 := rfl
    have hlt := crc.toNat_lt
    rw [htop, hone] at hn
    omega

theorem crc32Bit_injective : Function.Injective crc32Bit := by
  intro x y h
  apply UInt32.xor_eq_zero_iff.mp
  apply eq_zero_of_crc32Bit_eq_zero
  rw [crc32Bit_xor, h, UInt32.xor_self]

theorem crc32Shift_xor (x y : UInt32) : crc32Shift (x ^^^ y) = crc32Shift x ^^^ crc32Shift y := by
  simp only [crc32Shift, crc32Bit_xor]

theorem crc32Shift_injective : Function.Injective crc32Shift := by
  have h2 := crc32Bit_injective.comp crc32Bit_injective
  have h4 := h2.comp h2
  exact h4.comp h4

theorem toNat_repeat_crc32Bit {k n : Nat} {crc : UInt32} (h : crc.toNat = n * 2 ^ k) :
    (Nat.repeat crc32Bit k crc).toNat = n := by
  induction k generalizing n with
  | zero => exact h.trans (Nat.mul_one n)
  | succ k ih =>
    rw [Nat.pow_succ, Nat.mul_comm _ 2, ← Nat.mul_assoc] at h
    have hk := ih h
    have heven : (Nat.repeat crc32Bit k crc).toNat % 2 = 0 := by omega
    rw [Nat.repeat, toNat_crc32Bit_of_even heven, hk, Nat.mul_div_cancel _ Nat.two_pos]

theorem crc32Shift_high (crc : UInt32) : crc32Shift (crc >>> 8 <<< 8) = crc >>> 8 := by
  have h : (crc >>> 8 <<< 8).toNat = (crc >>> 8).toNat * 2 ^ 8 := by
    have hlt := crc.toNat_lt
    have hw : (8 : UInt32).toNat % 32 = 8 := rfl
    rw [UInt32.toNat_shiftLeft, UInt32.toNat_shiftRight, hw, Nat.shiftLeft_eq,
      Nat.shiftRight_eq_div_pow]
    omega
  apply UInt32.toNat_inj.mp
  exact toNat_repeat_crc32Bit h

theorem crc32_eq_parts (crc : UInt32) : crc = crc >>> 8 <<< 8 ^^^ crc.toUInt8.toUInt32 := by
  apply UInt32.toBitVec_inj.mp
  apply BitVec.eq_of_getLsbD_eq
  intro i hi
  simp only [UInt32.toBitVec_xor, UInt32.toBitVec_shiftLeft, UInt8.toBitVec_toUInt32,
    UInt32.toBitVec_toUInt8, UInt32.toBitVec_shiftRight, BitVec.getLsbD_xor, BitVec.shiftLeft_eq',
    BitVec.ushiftRight_eq', UInt32.toBitVec_ofNat, BitVec.getLsbD_shiftLeft,
    BitVec.getLsbD_setWidth, BitVec.getLsbD_ushiftRight]
  by_cases h : i < 8
  · simp [h, hi]
  · simp [h, hi, Nat.add_sub_cancel' (Nat.not_lt.mp h)]

theorem get_crc32Table (b : UInt8) : crc32Table.get b.toFin = crc32Shift b.toUInt32 := by
  have hb : b.toNat < 256 := b.toNat_lt
  have h : crc32Table.get b.toFin = crc32Table[b.toNat] := rfl
  rw [h]
  simp [crc32Table]

/-- A step over the table is eight steps of the register that the byte has entered at the bottom. -/
theorem crc32_step (crc : UInt32) (b : UInt8) :
    (crc >>> 8) ^^^ crc32Table.get (crc.toUInt8 ^^^ b).toFin = crc32Shift (crc ^^^ b.toUInt32) := by
  calc (crc >>> 8) ^^^ crc32Table.get (crc.toUInt8 ^^^ b).toFin
      = crc32Shift (crc >>> 8 <<< 8) ^^^
          (crc32Shift crc.toUInt8.toUInt32 ^^^ crc32Shift b.toUInt32) := by
        rw [get_crc32Table, UInt8.toUInt32_xor, crc32Shift_xor, crc32Shift_high]
    _ = crc32Shift (crc ^^^ b.toUInt32) := by
        conv => rhs; rw [crc32_eq_parts crc]
        simp only [crc32Shift_xor]
        ac_rfl

end FrameLink
