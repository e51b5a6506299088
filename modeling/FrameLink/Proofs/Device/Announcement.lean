import FrameLink.Announcement

namespace FrameLink

/-- What every read keeps, a fetch keeps. -/
theorem fetchInto_keeps {σ : Type} {P : σ → Prop}
    {read : Nat → σ → Except TransportError Fetched × σ}
    (hread : ∀ room s, P s → P (read room s).2) (buffer : Bytes) (retries : Nat) (filled : Bytes)
    {s : σ} (hs : P s) : P (fetchInto read buffer retries filled s).2 := by
  have hnext {room : Nat} {r : Except TransportError Fetched} {s s' : σ}
      (hr : read room s = (r, s')) (hs : P s) : P s' := by
    have h := hread room s hs
    rwa [hr] at h
  fun_induction fetchInto read buffer retries filled s with
  | case1 => exact hs
  | case2 => exact hs
  | case3 b bs retries filled s s' hr ih => exact ih (hnext hr hs)
  | case4 b bs retries filled s e s' _ hr => exact hnext hr hs
  | case5 b bs retries filled s got s' hr _ _ ih => exact ih (hnext hr hs)
  | case6 b bs retries filled s got s' hr _ _ ih => exact ih (hnext hr hs)

namespace Announcement

variable {message : Bytes}

theorem ofHeader_compose_of_short (hne : message ≠ []) (hs : message.length ≤ maxEmbedded) :
    compose message = (UInt8.ofNat (message.length * 16 + 2) :: message, none) ∧
      ofHeader (compose message).1 = .embedded message := by
  have hc : compose message = (UInt8.ofNat (message.length * 16 + 2) :: message, none) := if_pos hs
  rw [maxEmbedded] at hs
  have hfirst : (UInt8.ofNat (message.length * 16 + 2)).toNat = message.length * 16 + 2 := by
    rw [UInt8.toNat_ofNat']
    omega
  have hkind : (message.length * 16 + 2) % 16 = 2 := by omega
  have hlength : (message.length * 16 + 2) / 16 = message.length := by omega
  refine ⟨hc, ?_⟩
  rw [hc]
  simp only [ofHeader, hfirst, hkind, hlength, List.take_length]
  rw [if_neg (mt List.isEmpty_iff.mp hne)]

theorem ofHeader_compose_of_long (hl : maxEmbedded < message.length)
    (hs : message.length < 65536) :
    compose message = (1 :: beBytes 2 message.length, some message) ∧
      ofHeader (compose message).1 = .extended message.length := by
  have hc : compose message = (1 :: beBytes 2 message.length, some message) :=
    if_neg (Nat.not_le.mpr hl)
  have hsize : beNat (beBytes 2 message.length) = message.length :=
    beNat_beBytes 2 message.length hs
  have hne : message.length ≠ 0 := Nat.ne_of_gt (Nat.lt_of_le_of_lt (Nat.zero_le _) hl)
  refine ⟨hc, ?_⟩
  rw [hc]
  simp only [beBytes, List.nil_append, List.cons_append] at hsize ⊢
  simp [ofHeader, hsize, hne]

end Announcement
end FrameLink
