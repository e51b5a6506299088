import FrameLink.Proofs.Decoder.Attempt

namespace FrameLink

/-- A frame on the wire: its written form, and the noise behind it. -/
structure Sent where
  frame : Frame
  bytes : Bytes
  noise : Bytes

namespace Sent

def wire (s : Sent) : Bytes := s.bytes ++ s.noise

structure Intact (c : Codec) (s : Sent) : Prop where
  encoded : c.encode s.frame = .ok s.bytes
  quiet : startMarker ∉ s.noise

end Sent

namespace Decoder

variable {c : Codec} {bs noise part bytes : Bytes} {k : Nat} {f : Frame}

theorem drain_nil (c : Codec) (k : Nat) : (Decoder.mk c [] k).drain = ([], ⟨c, [], k⟩) := by
  have ha : Attempt ⟨c, [], k⟩ [] .waiting ⟨c, [], k⟩ := .exhausted List.not_mem_nil
  exact ha.drain_of_waiting

theorem drain_noise (hn : startMarker ∉ noise) :
    (Decoder.mk c (noise ++ bs) k).drain = (Decoder.mk c bs (k + noise.length)).drain :=
  drain_congr (next_append hn)

theorem drain_encoded (hf : c.encode f = .ok bytes) :
    (Decoder.mk c (bytes ++ bs) k).drain =
      (.ok f :: (Decoder.mk c bs k).drain.1, (Decoder.mk c bs k).drain.2) := by
  have ha : Attempt ⟨c, bytes ++ bs, k⟩ [.frame f] (.frame f) ⟨c, bs, k⟩ :=
    @Attempt.accepted _ [] _ _ _ List.not_mem_nil rfl hf
  exact ha.drain_of_result rfl

theorem drain_part (hf : c.encode f = .ok bytes) (hp : part <+: bytes) (hne : part ≠ bytes) :
    (Decoder.mk c part k).drain = ([], ⟨c, part, k⟩) := by
  obtain ⟨more, rfl⟩ := hp
  have hm : more ≠ [] := by
    rintro rfl
    exact hne (List.append_nil _).symm
  have ha : Attempt ⟨c, part, k⟩ [] .waiting ⟨c, part, k⟩ := by
    cases part with
    | nil => exact .exhausted List.not_mem_nil
    | cons b bs =>
      -- the part begins with the start marker, so there is no noise in front of it
      obtain ⟨tail, ht⟩ := Codec.exists_eq_cons_of_encode hf
      obtain ⟨rfl, rfl⟩ := List.cons.inj ht
      exact @Attempt.pending _ [] _ List.not_mem_nil rfl (Codec.judge_of_encode_append hf hm)
  exact ha.drain_of_waiting

theorem drain_sent {sent : List Sent} (hs : ∀ s ∈ sent, s.Intact c) :
    (Decoder.mk c (sent.flatMap Sent.wire ++ bs) k).drain =
      (sent.map (fun s => .ok s.frame) ++
          (Decoder.mk c bs (k + (sent.flatMap Sent.noise).length)).drain.1,
        (Decoder.mk c bs (k + (sent.flatMap Sent.noise).length)).drain.2) := by
  induction sent generalizing k with
  | nil => rfl
  | cons s sent ih =>
    obtain ⟨hf, hn⟩ := hs s List.mem_cons_self
    have hw : (s :: sent).flatMap Sent.wire ++ bs =
        s.bytes ++ (s.noise ++ (sent.flatMap Sent.wire ++ bs)) := by
      simp only [List.flatMap_cons, Sent.wire, List.append_assoc]
    rw [hw, drain_encoded hf, drain_noise hn, ih fun t ht => hs t (List.mem_cons_of_mem _ ht)]
    simp only [List.map_cons, List.flatMap_cons, List.length_append, List.cons_append, Nat.add_assoc]

/-- A codec refuses the frames beyond its limit and no others; and a new decoder reads what a codec
writes, whatever noise lies between the frames, up to the unfinished frame at the end. -/
theorem drain_stream (w : LengthWidth) (requested : Nat) (checksum : Checksum) :
    let c := Codec.make w requested checksum
    let limit := min requested w.maxBody
    (∀ f e, c.encode f = .error e ↔
      limit < f.bodyLength ∧ e = .frameTooLarge f.bodyLength limit) ∧
    (∀ f, f.bodyLength ≤ limit →
      ∃ bytes, c.encode f = .ok bytes ∧ bytes.length = c.encodedLength f.payload.length) ∧
    ∀ (noise : Bytes) (sent : List Sent) (last : Frame) (bytes part : Bytes),
      startMarker ∉ noise → (∀ s ∈ sent, s.Intact c) →
      c.encode last = .ok bytes → part <+: bytes → part ≠ bytes →
      ((new c).extend (noise ++ (sent.flatMap Sent.wire ++ part))).drain =
        (sent.map fun s => .ok s.frame,
          ⟨c, part, noise.length + (sent.flatMap Sent.noise).length⟩) := by
  intro c limit
  refine ⟨fun f e => Codec.encode_eq_error_iff, fun f hf => ?_, ?_⟩
  · have henc : c.encode f = .ok (c.enclose f.body) := Codec.encode_eq_ok_iff.mpr ⟨hf, rfl⟩
    exact ⟨_, henc, Codec.length_encode henc⟩
  · intro noise sent last bytes part hn hs hf hp hne
    rw [new, extend, List.nil_append, drain_noise hn, drain_sent hs, drain_part hf hp hne,
      List.append_nil, Nat.zero_add]

/-- A payload of start markers, noise before and behind it, a frame without payload, and the first
bytes of a third. -/
theorem drain_stream_of_two :
    ((new (.make .one 1000 (.poly31 3 (by decide) (by decide)))).extend
      ([0x13, 0x37] ++ ([0x7E, 0x06, 0xF9, 0x12, 0x34, 0x02, 0x7E, 0x7E, 0x03, 0xAC, 0x8A, 0xDD] ++
        [0xFF] ++ ([0x7E, 0x03, 0xFC, 0, 0x07, 0x7E, 0x8E, 0xC1, 0xB7] ++ []) ++
        [0x7E, 0x06, 0xF9, 0x12]))).drain =
      ([.ok ⟨0x1234, 0x02, [0x7E, 0x7E, 0x03]⟩, .ok ⟨7, 0x7E, []⟩],
        ⟨.make .one 1000 (.poly31 3 (by decide) (by decide)), [0x7E, 0x06, 0xF9, 0x12], 3⟩) := by
  have hs : ∀ s ∈ [Sent.mk ⟨0x1234, 0x02, [0x7E, 0x7E, 0x03]⟩
        [0x7E, 0x06, 0xF9, 0x12, 0x34, 0x02, 0x7E, 0x7E, 0x03, 0xAC, 0x8A, 0xDD] [0xFF],
      Sent.mk ⟨7, 0x7E, []⟩ [0x7E, 0x03, 0xFC, 0, 0x07, 0x7E, 0x8E, 0xC1, 0xB7] []],
      s.Intact (.make .one 1000 (.poly31 3 (by decide) (by decide))) := by
    intro s hs
    rw [List.mem_cons, List.mem_singleton] at hs
    obtain rfl | rfl := hs
    · exact ⟨rfl, by decide⟩
    · exact ⟨rfl, by decide⟩
  exact (drain_stream .one 1000 (.poly31 3 (by decide) (by decide))).2.2 [0x13, 0x37] _
    ⟨0x1234, 0x02, [0x7E, 0x7E, 0x03]⟩ _ _ (by decide) hs rfl ⟨_, rfl⟩ (by decide)

end Decoder
end FrameLink
