import FrameLink.Checksum
import FrameLink.Proofs.Checksum.Register

namespace FrameLink

/-- The same bytes but for one. -/
inductive Damaged : Bytes → Bytes → Prop
  | here {b b' : UInt8} {bs : Bytes} (h : b ≠ b') : Damaged (b :: bs) (b' :: bs)
  | there {b : UInt8} {bs bs' : Bytes} (h : Damaged bs bs') : Damaged (b :: bs) (b :: bs')

theorem toUInt16_shiftLeft_injective :
    Function.Injective fun b : UInt8 => b.toUInt16 <<< (8 : UInt16) := by
  intro b b' h
  have hn := congrArg UInt16.toNat h
  have hw : (8 : UInt16).toNat % 16 = 8 := rfl
  have hb := b.toNat_lt
  have hb' := b'.toNat_lt
  simp only [UInt16.toNat_shiftLeft, UInt8.toNat_toUInt16, hw, Nat.shiftLeft_eq] at hn
  apply UInt8.toNat_inj.mp
  omega

namespace Damaged

variable {bs bs' xs ys zs : Bytes} {α : Type} {step : α → UInt8 → α}

theorem length_eq (h : Damaged bs bs') : bs'.length = bs.length := by
  induction h with
  | here => rfl
  | there _ ih => rw [List.length_cons, ih, List.length_cons]

theorem ne (h : Damaged bs bs') : bs ≠ bs' := by
  induction h with
  | here hb => exact fun he => hb (List.cons.inj he).1
  | there _ ih => exact fun he => ih (List.cons.inj he).2

theorem append_left (h : Damaged ys zs) (xs : Bytes) : Damaged (xs ++ ys) (xs ++ zs) := by
  induction xs with
  | nil => exact h
  | cons x xs ih => exact .there ih

theorem cases_append (h : Damaged (xs ++ ys) zs) :
    (∃ xs', Damaged xs xs' ∧ zs = xs' ++ ys) ∨ ∃ ys', Damaged ys ys' ∧ zs = xs ++ ys' := by
  induction xs generalizing zs with
  | nil => exact .inr ⟨zs, h, rfl⟩
  | cons x xs ih =>
    cases h with
    | @here _ b' _ hb => exact .inl ⟨b' :: xs, .here hb, rfl⟩
    | there h =>
      obtain ⟨xs', hx, rfl⟩ | ⟨ys', hy, rfl⟩ := ih h
      · exact .inl ⟨x :: xs', .there hx, rfl⟩
      · exact .inr ⟨ys', hy, rfl⟩

theorem of_modify {i : Nat} {flip : UInt8} (hi : i < bs.length) (hf : flip ≠ 0) :
    Damaged bs (bs.modify i (· ^^^ flip)) := by
  induction bs generalizing i with
  | nil => cases hi
  | cons b bs ih =>
    cases i with
    | zero =>
      refine .here fun he => hf ?_
      exact (UInt8.xor_right_inj b).mp (he.symm.trans UInt8.xor_zero.symm)
    | succ i => exact .there (ih (Nat.lt_of_succ_lt_succ hi))

theorem foldl_ne_of_ne (hs : ∀ b, Function.Injective fun s => step s b) {s s' : α} (h : s ≠ s')
    (bs : Bytes) : bs.foldl step s ≠ bs.foldl step s' := by
  induction bs generalizing s s' with
  | nil => exact h
  | cons b bs ih => exact ih fun he => h (hs b he)

/-- A check that steps from byte to byte notices damage, if no step forgets the state it comes from
nor the byte it takes in. -/
theorem foldl_ne (hs : ∀ b, Function.Injective fun s => step s b)
    (hb : ∀ s, Function.Injective (step s)) (h : Damaged bs bs') (s : α) :
    bs.foldl step s ≠ bs'.foldl step s := by
  induction h generalizing s with
  | here hne => exact foldl_ne_of_ne hs (fun he => hne (hb s he)) _
  | there _ ih => exact ih _

theorem xorAll_ne (h : Damaged bs bs') : xorAll bs ≠ xorAll bs' := by
  refine h.foldl_ne (fun b x y he => ?_) (fun s b b' he => ?_) 0
  · exact (UInt8.xor_left_inj b).mp he
  · exact (UInt8.xor_right_inj s).mp he

theorem crc16_ne (h : Damaged bs bs') : crc16 bs ≠ crc16 bs' := by
  rw [crc16_eq_crc16Bitwise, crc16_eq_crc16Bitwise]
  refine h.foldl_ne (fun b x y he => ?_) (fun s b b' he => ?_) 0
  · exact (UInt16.xor_left_inj _).mp (crc16Shift_injective he)
  · exact toUInt16_shiftLeft_injective ((UInt16.xor_right_inj s).mp (crc16Shift_injective he))

theorem crc32_ne (h : Damaged bs bs') : crc32 bs ≠ crc32 bs' := by
  simp only [crc32, crc32_step, ne_eq, UInt32.not_inj]
  refine h.foldl_ne (fun b x y he => ?_) (fun s b b' he => ?_) _
  · exact (UInt32.xor_left_inj _).mp (crc32Shift_injective he)
  · exact UInt8.toUInt32_inj.mp ((UInt32.xor_right_inj s).mp (crc32Shift_injective he))

end Damaged

namespace Checksum

variable {c : Checksum}

/-- The checksum as it travels tells damaged bytes from the intact ones. -/
def Sensitive (c : Checksum) : Prop :=
  ∀ {bs bs' : Bytes}, Damaged bs bs' → c.value bs ≠ c.value bs'

theorem value_eq_of_fits (hf : ∀ bs, (c.compute bs).toNat < wordCount c.width) (bs : Bytes) :
    c.value bs = (c.compute bs).toNat :=
  Nat.mod_eq_of_lt (hf bs)

theorem sensitive_of_fits (hf : ∀ bs, (c.compute bs).toNat < wordCount c.width)
    (hne : ∀ {bs bs' : Bytes}, Damaged bs bs' → c.compute bs ≠ c.compute bs') : c.Sensitive := by
  intro bs bs' h he
  rw [value_eq_of_fits hf, value_eq_of_fits hf] at he
  exact hne h (UInt32.toNat_inj.mp he)

theorem crc16Xmodem_sensitive : crc16Xmodem.Sensitive := by
  apply sensitive_of_fits
  · exact fun bs => (crc16 bs).toNat_lt
  · exact fun h he => h.crc16_ne (UInt16.toUInt32_inj.mp he)

theorem crc32Ieee_sensitive : crc32Ieee.Sensitive := by
  apply sensitive_of_fits
  · exact fun bs => (crc32 bs).toNat_lt
  · exact Damaged.crc32_ne

theorem xor8_sensitive : xor8.Sensitive := by
  apply sensitive_of_fits
  · exact fun bs => (xorAll bs).toNat_lt
  · exact fun h he => h.xorAll_ne (UInt8.toUInt32_inj.mp he)

end Checksum

theorem ChecksumAlgorithm.sensitive (a : ChecksumAlgorithm) : a.checksum.Sensitive := by
  cases a with
  | crc16 => exact Checksum.crc16Xmodem_sensitive
  | crc32 => exact Checksum.crc32Ieee_sensitive
  | xor8 => exact Checksum.xor8_sensitive

end FrameLink
