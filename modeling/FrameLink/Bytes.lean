namespace FrameLink

abbrev Bytes := List UInt8

def beBytes : Nat → Nat → Bytes
  | 0, _ => []
  | width + 1, n => beBytes width (n / 256) ++ [UInt8.ofNat n]

def beNat (bs : Bytes) : Nat :=
  bs.foldl (fun n b => n * 256 + b.toNat) 0

def xorAll (bs : Bytes) : UInt8 :=
  bs.foldl (fun acc b => acc ^^^ b) 0

@[simp] theorem length_beBytes (width n : Nat) : (beBytes width n).length = width := by
  induction width generalizing n with
  | zero => rfl
  | succ w ih => simp [beBytes, ih]

theorem beNat_append_singleton (bs : Bytes) (b : UInt8) :
    beNat (bs ++ [b]) = beNat bs * 256 + b.toNat := by
  simp [beNat]

def wordCount : Nat → Nat
  | 0 => 1
  | width + 1 => wordCount width * 256

theorem wordCount_pos (width : Nat) : 0 < wordCount width := by
  induction width with
  | zero => decide
  | succ w ih => simp only [wordCount]; omega

theorem beNat_beBytes (width n : Nat) (h : n < wordCount width) :
    beNat (beBytes width n) = n := by
  induction width generalizing n with
  | zero => simp only [wordCount] at h; simp [beBytes, beNat]; omega
  | succ w ih =>
    have hq : n / 256 < wordCount w := by simp only [wordCount] at h; omega
    rw [beBytes, beNat_append_singleton, ih _ hq, UInt8.toNat_ofNat']
    omega

theorem beBytes_beNat (width : Nat) (bs : Bytes) (h : bs.length = width) :
    beBytes width (beNat bs) = bs := by
  induction width generalizing bs with
  | zero => rw [List.length_eq_zero_iff.mp h]; rfl
  | succ w ih =>
    have hne : bs ≠ [] := by rintro rfl; cases h
    obtain ⟨init, b, rfl⟩ : ∃ init b, bs = init ++ [b] :=
      ⟨_, _, (List.dropLast_concat_getLast hne).symm⟩
    have hlen : init.length = w := by simpa using h
    have hb := b.toNat_lt
    have hq : (beNat init * 256 + b.toNat) / 256 = beNat init := by omega
    have hr : UInt8.ofNat (beNat init * 256 + b.toNat) = b := by
      apply UInt8.toNat_inj.mp
      rw [UInt8.toNat_ofNat']
      omega
    rw [beNat_append_singleton, beBytes, hq, hr, ih init hlen]

theorem foldl_beNat_lt (bs : Bytes) (n : Nat) :
    bs.foldl (fun n b => n * 256 + b.toNat) n < (n + 1) * wordCount bs.length := by
  induction bs generalizing n with
  | nil => simp [wordCount]
  | cons b bs ih =>
    have hb := b.toNat_lt
    have hle : n * 256 + b.toNat + 1 ≤ (n + 1) * 256 := by omega
    calc bs.foldl (fun n b => n * 256 + b.toNat) (n * 256 + b.toNat)
        < (n * 256 + b.toNat + 1) * wordCount bs.length := ih _
      _ ≤ (n + 1) * 256 * wordCount bs.length := Nat.mul_le_mul_right _ hle
      _ = (n + 1) * wordCount (b :: bs).length := by
        rw [List.length_cons, wordCount, Nat.mul_assoc, Nat.mul_comm 256]

theorem beNat_lt (bs : Bytes) : beNat bs < wordCount bs.length := by
  simpa [beNat] using foldl_beNat_lt bs 0

/-- Consecutive pieces of `size` bytes, the last one possibly shorter; a size of zero counts as
one. -/
def pieces (size : Nat) : Bytes → List Bytes
  | [] => []
  | b :: bs => (b :: bs.take (size - 1)) :: pieces size (bs.drop (size - 1))
termination_by bs => bs.length
decreasing_by simp only [List.length_drop, List.length_cons]; omega

end FrameLink
