import FrameLink.Proofs.Checksum.Damage
import FrameLink.Proofs.Decoder.Attempt

namespace FrameLink

theorem headerCheck_ne {length length' : Bytes} (h : Damaged length length') :
    headerCheck length ≠ headerCheck length' :=
  fun he => h.xorAll_ne (UInt8.not_inj.mp he)

theorem beNat_ne {bs bs' : Bytes} (h : Damaged bs bs') : beNat bs ≠ beNat bs' := by
  intro he
  have hw := beBytes_beNat bs'.length bs h.length_eq.symm
  rw [he, beBytes_beNat _ _ rfl] at hw
  exact h.ne hw.symm

namespace Codec

variable {c : Codec} {f : Frame} {n : Nat} {body carried bs bs' : Bytes}

theorem covered_damaged (c : Codec) {body body' : Bytes} (h : Damaged body body') :
    Damaged (c.covered body) (c.covered body') := by
  rw [covered_eq, covered_eq, h.length_eq]
  exact h.append_left _

/-- What the damaged bytes are rejected with. -/
def Mismatched (c : Codec) (bs : Bytes) : Prop :=
  ∃ carried computed, carried ≠ computed ∧
    Judged c bs (.reject (.checksumMismatch carried computed))

theorem mismatched_of_header (h : Damaged (c.header n) bs) (tail : Bytes) :
    c.Mismatched (bs ++ tail) := by
  obtain ⟨length, hl, rfl⟩ | ⟨check, hc, rfl⟩ := h.cases_append
  · have hlen : length.length = c.lengthWidth.bytes := by rw [hl.length_eq, length_beBytes]
    rw [List.append_assoc]
    refine ⟨_, _, ?_, .damagedHeader hlen (headerCheck_ne hl)⟩
    exact fun he => headerCheck_ne hl (UInt8.toNat_inj.mp he)
  · cases hc with
    | @here _ check _ hne =>
      rw [List.append_assoc]
      refine ⟨_, _, ?_, .damagedHeader (length_beBytes _ _) hne.symm⟩
      exact fun he => hne (UInt8.toNat_inj.mp he).symm
    | there hn => cases hn

theorem mismatched_of_body (hs : c.checksum.Sensitive) (hmax : body.length ≤ c.maxBody)
    (hmin : Frame.minBody ≤ body.length) (h : Damaged body bs) :
    c.Mismatched (c.header body.length ++
      (bs ++ beBytes c.checksum.width (c.checksum.value (c.covered body)))) := by
  have hv := beNat_beBytes _ _ (c.checksum.value_lt (c.covered body))
  have hne := hs (c.covered_damaged h)
  rw [← hv] at hne
  rw [← h.length_eq] at hmax hmin ⊢
  rw [← List.append_nil (beBytes _ _)]
  exact ⟨_, _, hne, .damagedBody hmax hmin (length_beBytes _ _) hne⟩

theorem mismatched_of_checksum (hmax : body.length ≤ c.maxBody)
    (hmin : Frame.minBody ≤ body.length)
    (h : Damaged (beBytes c.checksum.width (c.checksum.value (c.covered body))) bs) :
    c.Mismatched (c.header body.length ++ (body ++ bs)) := by
  have hv := beNat_beBytes _ _ (c.checksum.value_lt (c.covered body))
  have hne := beNat_ne h
  have hlen : bs.length = c.checksum.width := by rw [h.length_eq, length_beBytes]
  rw [hv] at hne
  rw [← List.append_nil bs]
  exact ⟨_, _, hne.symm, .damagedBody hmax hmin hlen hne.symm⟩

/-- One damaged byte behind the start marker is found out as a mismatch of check values, wherever it
lies. -/
theorem mismatched_of_damaged (hs : c.checksum.Sensitive)
    (hf : c.encode f = .ok (startMarker :: bs)) (h : Damaged bs bs') : c.Mismatched bs' := by
  obtain ⟨hmax, hb⟩ := encode_eq_ok_iff.mp hf
  have hmin : Frame.minBody ≤ f.body.length := by
    rw [Frame.length_body]
    exact Nat.le_add_right _ _
  rw [← Frame.length_body] at hmax
  rw [enclose, List.cons.injEq] at hb
  rw [hb.2, covered_eq, List.append_assoc, ← covered_eq] at h
  obtain ⟨header, hh, rfl⟩ | ⟨tail, ht, rfl⟩ := h.cases_append
  · exact mismatched_of_header hh _
  · obtain ⟨body, hbody, rfl⟩ | ⟨carried, hc, rfl⟩ := ht.cases_append
    · exact mismatched_of_body hs hmax hmin hbody
    · exact mismatched_of_checksum hmax hmin hc

theorem decode_marker (c : Codec) (bs : Bytes) :
    c.decode (startMarker :: bs) = match c.judge bs with
      | .incomplete => .waiting
      | .reject e => .anomaly e
      | .accept f _ => .frame f := by
  rw [decode, Decoder.new, Decoder.extend, List.nil_append, Decoder.next_of_marker]
  cases c.judge bs <;> rfl

/-- With a built-in checksum, damage to any single byte of an encoding behind its start marker is
reported as a mismatch of check values: never taken for a frame, for the beginning of one, or for a
malformed header. -/
theorem decode_damaged (w : LengthWidth) (requested : Nat) (a : ChecksumAlgorithm) {f : Frame}
    {bytes : Bytes} {i : Nat} {flip : UInt8}
    (hf : (make w requested a.checksum).encode f = .ok bytes) (hpos : 1 ≤ i)
    (hi : i < bytes.length) (hflip : flip ≠ 0) :
    ∃ carried computed, carried ≠ computed ∧
      (make w requested a.checksum).decode (bytes.modify i (· ^^^ flip)) =
        .anomaly (.checksumMismatch carried computed) := by
  obtain ⟨tail, rfl⟩ := exists_eq_cons_of_encode hf
  obtain ⟨j, rfl⟩ : ∃ j, i = j + 1 := Nat.exists_eq_add_of_le' hpos
  have hd : Damaged tail (tail.modify j (· ^^^ flip)) :=
    .of_modify (Nat.lt_of_succ_lt_succ hi) hflip
  obtain ⟨carried, computed, hne, hj⟩ := mismatched_of_damaged a.sensitive hf hd
  refine ⟨carried, computed, hne, ?_⟩
  rw [List.modify_succ_cons, decode_marker, hj.judge_eq]

/-- The last byte of a payload turns into a second start marker. -/
theorem decode_damaged_payload :
    let c := make .two 4096 ChecksumAlgorithm.crc16.checksum
    let bytes : Bytes := [0x7E, 0, 5, 0xFA, 0x7E, 0x7E, 2, 0x7E, 0x7F, 0x96, 0x56]
    c.encode ⟨0x7E7E, 2, [0x7E, 0x7F]⟩ = .ok bytes ∧
      ∃ carried computed, carried ≠ computed ∧
        c.decode (bytes.modify 8 (· ^^^ 1)) = .anomaly (.checksumMismatch carried computed) := by
  intro c bytes
  have hcov : c.covered (Frame.body ⟨0x7E7E, 2, [0x7E, 0x7F]⟩) =
      [0, 5, 0xFA, 0x7E, 0x7E, 2, 0x7E, 0x7F] := by decide
  have hcrc : (crc16 [0, 5, 0xFA, 0x7E, 0x7E, 2, 0x7E, 0x7F]).toUInt32 = 0x9656 := by
    rw [crc16_eq_crc16Bitwise]
    decide +kernel
  have hv : c.checksum.value [0, 5, 0xFA, 0x7E, 0x7E, 2, 0x7E, 0x7F] = 0x9656 :=
    congrArg c.checksum.clip hcrc
  have hf : c.encode ⟨0x7E7E, 2, [0x7E, 0x7F]⟩ = .ok bytes := by
    rw [encode_eq_ok_iff, enclose, hcov, hv]
    exact ⟨by decide, rfl⟩
  exact ⟨hf, decode_damaged .two 4096 .crc16 hf (by decide) (by decide) (by decide)⟩

end Codec
end FrameLink
