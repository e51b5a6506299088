import FrameLink.Proofs.Checksum.Register
import Mathlib.Algebra.CharP.Two
import Mathlib.Algebra.Field.ZMod
import Mathlib.Algebra.Polynomial.Div
import Mathlib.Tactic.ComputeDegree

namespace FrameLink.Crc16

open Polynomial

/-- The register takes in one bit of a message, which is added to the bit that it shifts out. -/
def takeBit (crc : UInt16) (bit : Bool) : UInt16 :=
  if crc.toBitVec.msb != bit then (crc <<< 1) ^^^ 0x1021 else crc <<< 1

/-- CRC-16/XMODEM bit by bit, from an empty register. -/
def serial (bits : List Bool) : UInt16 := bits.foldl takeBit 0

def byteBits (b : UInt8) : List Bool := (List.range 8).map b.toBitVec.getMsbD

def bits (data : Bytes) : List Bool := data.flatMap byteBits

def coefficient (b : Bool) : ZMod 2 := if b then 1 else 0

theorem coefficient_xor (a b : Bool) : coefficient (a ^^ b) = coefficient a + coefficient b := by
  cases a <;> cases b <;> decide

theorem coefficient_injective : Function.Injective coefficient := by
  intro a b h
  cases a <;> cases b <;> revert h <;> decide

noncomputable def wordPolynomial {w : ℕ} (x : BitVec w) : (ZMod 2)[X] :=
  ∑ i ∈ Finset.range w, monomial i (coefficient (x.getLsbD i))

section Word

variable {w : ℕ} (x y : BitVec w)

theorem coeff_wordPolynomial (i : ℕ) : (wordPolynomial x).coeff i = coefficient (x.getLsbD i) := by
  rw [wordPolynomial, finsetSum_coeff]
  simp only [coeff_monomial, Finset.sum_ite_eq', Finset.mem_range]
  split
  · rfl
  · next h =>
    rw [BitVec.getLsbD_of_ge x i (Nat.not_lt.mp h)]
    rfl

theorem wordPolynomial_xor : wordPolynomial (x ^^^ y) = wordPolynomial x + wordPolynomial y := by
  ext i
  rw [coeff_add, coeff_wordPolynomial, coeff_wordPolynomial, coeff_wordPolynomial,
    BitVec.getLsbD_xor, coefficient_xor]

theorem wordPolynomial_injective :
    Function.Injective (wordPolynomial : BitVec w → (ZMod 2)[X]) := by
  intro x y h
  apply BitVec.eq_of_getLsbD_eq
  intro i _
  apply coefficient_injective
  rw [← coeff_wordPolynomial, ← coeff_wordPolynomial, h]

theorem degree_wordPolynomial_lt : (wordPolynomial x).degree < w := by
  rw [degree_lt_iff_coeff_zero]
  intro i hi
  rw [coeff_wordPolynomial, BitVec.getLsbD_of_ge x i hi]
  rfl

end Word

theorem wordPolynomial_shiftLeft_one (crc : UInt16) :
    wordPolynomial (crc <<< 1).toBitVec =
      wordPolynomial crc.toBitVec * X + C (coefficient crc.toBitVec.msb) * X ^ 16 := by
  have hs : (crc <<< 1).toBitVec = crc.toBitVec <<< 1 := rfl
  ext i
  rw [hs, coeff_wordPolynomial, coeff_add, coeff_C_mul_X_pow, BitVec.getLsbD_shiftLeft]
  cases i with
  | zero => simp [coefficient]
  | succ i =>
    rw [coeff_mul_X, coeff_wordPolynomial, BitVec.msb_eq_getLsbD_last]
    obtain hlt | rfl | hgt := Nat.lt_trichotomy i 15
    · have hin : i + 1 < 16 := by omega
      have hne : i ≠ 15 := by omega
      simp [hin, hne, coefficient]
    · simp [CharTwo.add_self_eq_zero, coefficient]
    · have hout := BitVec.getLsbD_of_ge crc.toBitVec i (by omega)
      have hne : i ≠ 15 := by omega
      simp [hout, hne, coefficient]

theorem wordPolynomial_byte (b : UInt8) :
    wordPolynomial (b.toUInt16 <<< 8).toBitVec = wordPolynomial b.toBitVec * X ^ 8 := by
  have hs : (b.toUInt16 <<< 8).toBitVec = b.toBitVec.setWidth 16 <<< 8 := rfl
  ext i
  rw [hs, coeff_wordPolynomial, coeff_mul_X_pow', BitVec.getLsbD_shiftLeft, BitVec.getLsbD_setWidth]
  by_cases h : 8 ≤ i
  · rw [if_pos h, coeff_wordPolynomial]
    by_cases hi : i < 16
    · have hlt : i - 8 < 16 := by omega
      simp [hi, Nat.not_lt.mpr h, hlt]
    · have hout := BitVec.getLsbD_of_ge b.toBitVec (i - 8) (by omega)
      simp [hi, hout]
  · rw [if_neg h]
    simp [Nat.not_le.mp h, coefficient]

noncomputable def generator : (ZMod 2)[X] := X ^ 16 + X ^ 12 + X ^ 5 + 1

theorem generator_monic : generator.Monic := by
  unfold generator
  monicity!

theorem degree_generator : generator.degree = 16 := by
  unfold generator
  compute_degree!

/-- What the register feeds back is all of the generator but its highest power. -/
theorem generator_eq :
    generator = X ^ 16 + wordPolynomial (0x1021 : UInt16).toBitVec := by
  have hbits : (0x1021 : UInt16).toBitVec = 0x1021#16 := rfl
  have h : wordPolynomial (0x1021 : UInt16).toBitVec = X ^ 12 + X ^ 5 + 1 := by
    rw [hbits]
    simp only [wordPolynomial, Finset.sum_range_succ, coefficient]
    simp [← X_pow_eq_monomial]
    ring
  rw [h, generator]
  ring

theorem crc16Bit_eq_takeBit (crc : UInt16) : crc16Bit crc = takeBit crc false := by
  rw [crc16Bit_eq, takeBit, crc16Feedback, Bool.bne_false]
  split
  · rfl
  · exact UInt16.xor_zero

theorem wordPolynomial_takeBit (crc : UInt16) (bit : Bool) :
    wordPolynomial (takeBit crc bit).toBitVec + C (coefficient bit) * X ^ 16 =
      wordPolynomial crc.toBitVec * X +
        C (coefficient (crc.toBitVec.msb ^^ bit)) * generator := by
  have htake : wordPolynomial (takeBit crc bit).toBitVec =
      wordPolynomial (crc <<< 1).toBitVec +
        C (coefficient (crc.toBitVec.msb ^^ bit)) * wordPolynomial (0x1021 : UInt16).toBitVec := by
    have hsum : (crc.toBitVec.msb != bit) = (crc.toBitVec.msb ^^ bit) := rfl
    rw [takeBit, hsum]
    cases crc.toBitVec.msb ^^ bit with
    | false => simp [coefficient]
    | true => simp [coefficient, wordPolynomial_xor]
  rw [htake, wordPolynomial_shiftLeft_one, generator_eq, coefficient_xor, C_add]
  ring

/-- The register and the polynomial differ by a multiple of the generator. -/
def Holds (crc : UInt16) (p : (ZMod 2)[X]) : Prop :=
  generator ∣ wordPolynomial crc.toBitVec + p

namespace Holds

variable {crc crc' : UInt16} {p : (ZMod 2)[X]}

theorem zero : Holds 0 0 := by
  have h : wordPolynomial (0 : UInt16).toBitVec = 0 := by
    have hz : (0 : UInt16).toBitVec = 0#16 := rfl
    ext i
    rw [hz, coeff_wordPolynomial, BitVec.getLsbD_zero, coeff_zero]
    rfl
  rw [Holds, h, add_zero]
  exact dvd_zero _

theorem eq_modByMonic (h : Holds crc p) : wordPolynomial crc.toBitVec = p %ₘ generator := by
  have hlt : (wordPolynomial crc.toBitVec).degree < generator.degree := by
    rw [degree_generator]
    exact degree_wordPolynomial_lt _
  rw [Holds, ← CharTwo.sub_eq_add] at h
  rw [← modByMonic_eq_of_dvd_sub generator_monic h,
    (modByMonic_eq_self_iff generator_monic).mpr hlt]

theorem unique (h : Holds crc p) (h' : Holds crc' p) : crc = crc' := by
  apply UInt16.toBitVec_inj.mp
  apply wordPolynomial_injective
  rw [h.eq_modByMonic, h'.eq_modByMonic]

theorem bit (h : Holds crc p) (bit : Bool) :
    Holds (takeBit crc bit) (p * X + C (coefficient bit) * X ^ 16) := by
  have he :=
    calc wordPolynomial (takeBit crc bit).toBitVec + (p * X + C (coefficient bit) * X ^ 16)
        = wordPolynomial (takeBit crc bit).toBitVec + C (coefficient bit) * X ^ 16 + p * X := by
          ring
      _ = (wordPolynomial crc.toBitVec + p) * X +
            C (coefficient (crc.toBitVec.msb ^^ bit)) * generator := by
          rw [wordPolynomial_takeBit]
          ring
  rw [Holds, he]
  exact dvd_add (h.mul_right X) (dvd_mul_left _ _)

theorem repeat_bit (h : Holds crc p) (k : ℕ) : Holds (Nat.repeat crc16Bit k crc) (p * X ^ k) := by
  induction k with
  | zero => rwa [pow_zero, mul_one]
  | succ k ih =>
    have ht := ih.bit false
    rw [Nat.repeat, crc16Bit_eq_takeBit, pow_succ, ← mul_assoc]
    simpa [coefficient] using ht

theorem shift (h : Holds crc p) : Holds (crc16Shift crc) (p * X ^ 8) := h.repeat_bit 8

theorem xor (h : Holds crc p) (x : UInt16) : Holds (crc ^^^ x) (p + wordPolynomial x.toBitVec) := by
  have he : wordPolynomial (crc ^^^ x).toBitVec + (p + wordPolynomial x.toBitVec) =
      wordPolynomial crc.toBitVec + p := by
    rw [UInt16.toBitVec_xor, wordPolynomial_xor, add_add_add_comm, ← add_assoc,
      add_right_comm, add_assoc _ (wordPolynomial x.toBitVec), CharTwo.add_self_eq_zero, add_zero]
  rwa [Holds, he]

end Holds

noncomputable def appendBit (p : (ZMod 2)[X]) (b : Bool) : (ZMod 2)[X] := p * X + C (coefficient b)

noncomputable def messagePolynomial (bits : List Bool) : (ZMod 2)[X] := bits.foldl appendBit 0

theorem foldl_byteBits (p : (ZMod 2)[X]) (b : UInt8) :
    (byteBits b).foldl appendBit p = p * X ^ 8 + wordPolynomial b.toBitVec := by
  simp only [byteBits, List.range_succ, List.range_zero, List.nil_append, List.cons_append,
    List.map_cons, List.map_nil, List.foldl_cons, List.foldl_nil, appendBit, wordPolynomial,
    Finset.sum_range_succ, Finset.sum_range_zero, BitVec.getMsbD, ← C_mul_X_pow_eq_monomial]
  norm_num
  ring

/-- The register takes in a byte at the top, and shifts it out. -/
def enterByte (crc : UInt16) (b : UInt8) : UInt16 :=
  crc16Shift (crc ^^^ b.toUInt16 <<< (8 : UInt16))

theorem eq_foldl (data : Bytes) : crc16 data = data.foldl enterByte 0 :=
  crc16_eq_crc16Bitwise data

namespace Holds

variable {crc : UInt16} {p : (ZMod 2)[X]}

theorem byte (h : Holds crc (p * X ^ 16)) (b : UInt8) :
    Holds (enterByte crc b) ((p * X ^ 8 + wordPolynomial b.toBitVec) * X ^ 16) := by
  have hb := (h.xor (b.toUInt16 <<< 8)).shift
  have he : (p * X ^ 16 + wordPolynomial (b.toUInt16 <<< 8).toBitVec) * X ^ 8 =
      (p * X ^ 8 + wordPolynomial b.toBitVec) * X ^ 16 := by
    rw [wordPolynomial_byte]
    ring
  rwa [he] at hb

theorem foldl_takeBit (h : Holds crc (p * X ^ 16)) (bits : List Bool) :
    Holds (bits.foldl takeBit crc) (bits.foldl appendBit p * X ^ 16) := by
  induction bits generalizing crc p with
  | nil => exact h
  | cons b bits ih =>
    have hb := h.bit b
    rw [mul_right_comm, ← add_mul] at hb
    exact ih hb

theorem foldl_enterByte (h : Holds crc (p * X ^ 16)) (data : Bytes) :
    Holds (data.foldl enterByte crc) ((bits data).foldl appendBit p * X ^ 16) := by
  induction data generalizing crc p with
  | nil => exact h
  | cons b data ih =>
    rw [bits, List.flatMap_cons, List.foldl_append, foldl_byteBits]
    exact ih (h.byte b)

end Holds

theorem holds_serial (bits : List Bool) : Holds (serial bits) (messagePolynomial bits * X ^ 16) := by
  apply Holds.foldl_takeBit
  rw [zero_mul]
  exact .zero

theorem holds_crc16 (data : Bytes) :
    Holds (crc16 data) (messagePolynomial (bits data) * X ^ 16) := by
  rw [eq_foldl]
  apply Holds.foldl_enterByte
  rw [zero_mul]
  exact .zero

theorem enterByte_xor (x y : UInt16) (a b : UInt8) :
    enterByte (x ^^^ y) (a ^^^ b) = enterByte x a ^^^ enterByte y b := by
  rw [enterByte, enterByte, enterByte, ← crc16Shift_xor, UInt8.toUInt16_xor,
    UInt16.shiftLeft_xor]
  ac_rfl

theorem foldl_enterByte_xor {data other : Bytes} (h : other.length = data.length) (x y : UInt16) :
    (List.zipWith (· ^^^ ·) data other).foldl enterByte (x ^^^ y) =
      data.foldl enterByte x ^^^ other.foldl enterByte y := by
  induction data generalizing other x y with
  | nil =>
    rw [List.length_nil, List.length_eq_zero_iff] at h
    subst h
    rfl
  | cons a data ih =>
    obtain ⟨b, other, rfl⟩ := List.exists_cons_of_length_eq_add_one h
    rw [List.zipWith_cons_cons, List.foldl_cons, enterByte_xor]
    exact ih (Nat.succ.inj h) _ _

theorem xor_of_length_eq {data other : Bytes} (h : other.length = data.length) :
    crc16 (List.zipWith (· ^^^ ·) data other) = crc16 data ^^^ crc16 other := by
  rw [eq_foldl, eq_foldl, eq_foldl]
  exact foldl_enterByte_xor h 0 0

theorem beBytes_two (crc : UInt16) : beBytes 2 crc.toNat = [(crc >>> 8).toUInt8, crc.toUInt8] := by
  have hhigh : UInt8.ofNat (crc.toNat / 256) = (crc >>> 8).toUInt8 := by
    apply UInt8.toNat_inj.mp
    rw [UInt8.toNat_ofNat', UInt16.toNat_toUInt8, UInt16.toNat_shiftRight,
      Nat.shiftRight_eq_div_pow]
    rfl
  rw [beBytes, beBytes, beBytes, hhigh]
  rfl

/-- Its own check empties the register: the high byte leaves the low one at the top. -/
theorem append_check (data : Bytes) : crc16 (data ++ beBytes 2 (crc16 data).toNat) = 0 := by
  rw [eq_foldl, List.foldl_append, ← eq_foldl, beBytes_two]
  generalize crc16 data = crc
  have hhigh : enterByte crc (crc >>> 8).toUInt8 = crc.toUInt8.toUInt16 <<< 8 := by
    have hsplit : crc ^^^ (crc >>> 8).toUInt8.toUInt16 <<< 8 = crc.toUInt8.toUInt16 := by
      conv => lhs; arg 1; rw [crc16_eq_halves crc]
      rw [UInt16.xor_comm, ← UInt16.xor_assoc, UInt16.xor_self, UInt16.zero_xor]
    rw [enterByte, hsplit, crc16Shift_low]
  have hlow : enterByte (crc.toUInt8.toUInt16 <<< 8) crc.toUInt8 = 0 := by
    rw [enterByte, UInt16.xor_self]
    rfl
  rw [List.foldl_cons, List.foldl_cons, List.foldl_nil, hhigh, hlow]

/-- The check over a table is the one of the register that takes in bit by bit, and the remainder of
the message's multiple by x¹⁶. The check of a sum is the sum of the checks, and a message followed
by its check has the check zero. -/
theorem eq_remainder (data : Bytes) :
    crc16 data = serial (bits data) ∧
      wordPolynomial (crc16 data).toBitVec =
        (messagePolynomial (bits data) * X ^ 16) %ₘ (X ^ 16 + X ^ 12 + X ^ 5 + 1) ∧
      (∀ other : Bytes, other.length = data.length →
        crc16 (List.zipWith (· ^^^ ·) data other) = crc16 data ^^^ crc16 other) ∧
      crc16 (data ++ beBytes 2 (crc16 data).toNat) = 0 :=
  ⟨(holds_crc16 data).unique (holds_serial (bits data)), (holds_crc16 data).eq_modByMonic,
    fun _ => xor_of_length_eq, append_check data⟩

end FrameLink.Crc16
