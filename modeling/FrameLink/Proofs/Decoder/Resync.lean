import FrameLink.Proofs.Decoder.Account

namespace FrameLink

variable {c : Codec} {segments before : List Segment} {f : Frame} {o : Nat}

/-- The offset `o` lies inside a frame that was handed out, behind its first byte. -/
def Covered (c : Codec) (segments : List Segment) (o : Nat) : Prop :=
  ∃ p g, StartsAt c segments p (.frame g) ∧ p < o ∧ o < p + (c.enclose g.body).length

theorem Covered.append_right (h : Covered c segments o) (after : List Segment) :
    Covered c (segments ++ after) o := by
  obtain ⟨p, g, hg, hlt, hend⟩ := h
  exact ⟨p, g, hg.append_right after, hlt, hend⟩

theorem Covered.append_left (h : Covered c segments o) :
    Covered c (before ++ segments) ((before.flatMap (Segment.bytes c)).length + o) := by
  obtain ⟨p, g, hg, hlt, hend⟩ := h
  exact ⟨_, g, hg.append_left, by omega, by omega⟩

theorem Covered.lt_length (h : Covered c segments o) :
    o < (segments.flatMap (Segment.bytes c)).length := by
  obtain ⟨p, g, hg, -, hend⟩ := h
  exact Nat.lt_of_lt_of_le hend hg.end_le

theorem Covered.not_startsAt (h : Covered c segments o) (s : Segment) : ¬ StartsAt c segments o s := by
  intro hs
  obtain ⟨p, g, hg, hlt, hend⟩ := h
  exact Nat.lt_irrefl _ (Nat.lt_of_lt_of_le hend (hg.end_le_of_lt hs hlt))

namespace Decoder

variable {d d' : Decoder} {u : List Segment} {r : Decoded} {noise bs bytes : Bytes}

theorem length_noise_append (c : Codec) (noise : Bytes) (s : Segment) :
    ((noise.map Segment.noise ++ [s]).flatMap (Segment.bytes c)).length =
      noise.length + (s.bytes c).length := by
  simp

theorem startsAt_noise_append (c : Codec) (noise : Bytes) (s : Segment) :
    StartsAt c (noise.map .noise ++ [s]) noise.length s := by
  have h : StartsAt c (noise.map .noise ++ [s]) _ s := StartsAt.head.append_left
  simpa using h

theorem exists_offset (hn : startMarker ∉ noise) (hf : c.encode f = .ok bytes)
    (hp : bytes <+: (noise ++ bs).drop o) : ∃ j, o = noise.length + j ∧ bytes <+: bs.drop j := by
  by_cases hlt : o < noise.length
  · obtain ⟨tail, rfl⟩ := Codec.exists_eq_cons_of_encode hf
    rw [List.drop_append_of_le_length (Nat.le_of_lt hlt), List.drop_eq_getElem_cons hlt,
      List.cons_append, List.cons_prefix_cons] at hp
    exact absurd (hp.1 ▸ List.getElem_mem hlt) hn
  · obtain ⟨j, rfl⟩ := Nat.exists_eq_add_of_le (Nat.not_lt.mp hlt)
    rw [List.drop_length_add_append] at hp
    exact ⟨j, rfl, hp⟩

/-- One attempt, and an encoding at the offset `o` of what is held: the attempt takes it, or takes a
frame that covers its first byte, or leaves it whole. -/
theorem Attempt.meets (h : Attempt d u r d') (hf : d.codec.encode f = .ok bytes)
    (hp : bytes <+: d.buffer.drop o) :
    StartsAt d.codec u o (.frame f) ∨ Covered d.codec u o ∨
      ∃ i, o = (u.flatMap (Segment.bytes d.codec)).length + i ∧ bytes <+: d'.buffer.drop i ∧
        (r = .waiting → 0 < i) := by
  cases h with
  | exhausted hn =>
    rw [← List.append_nil d.buffer] at hp
    obtain ⟨j, -, hj⟩ := exists_offset hn hf hp
    obtain ⟨tail, rfl⟩ := Codec.exists_eq_cons_of_encode hf
    simp at hj
  | @pending noise bs hn hb hj =>
    rw [hb] at hp
    obtain ⟨j, rfl, hq⟩ := exists_offset hn hf hp
    refine .inr (.inr ⟨j, by rw [Segment.flatMap_noise], hq, fun _ => ?_⟩)
    cases j with
    | zero =>
      -- a whole encoding behind the noise would have been accepted
      obtain ⟨rest, ha⟩ := Codec.exists_judge_eq_accept hf hq
      rw [hj] at ha
      cases ha
    | succ j => exact Nat.succ_pos j
  | @rejected noise bs e hn hb hj =>
    rw [hb] at hp
    obtain ⟨j, rfl, hq⟩ := exists_offset hn hf hp
    cases j with
    | zero =>
      obtain ⟨rest, ha⟩ := Codec.exists_judge_eq_accept hf hq
      rw [hj] at ha
      cases ha
    | succ j =>
      refine .inr (.inr ⟨j, ?_, hq, fun hw => by cases hw⟩)
      rw [length_noise_append]
      simp only [Segment.bytes, List.length_singleton]
      omega
  | @accepted noise other rest g hn hb hg =>
    obtain ⟨tail, rfl⟩ := Codec.exists_eq_cons_of_encode hg
    rw [hb, List.cons_append] at hp
    obtain ⟨j, rfl, hq⟩ := exists_offset hn hf hp
    cases j with
    | zero =>
      obtain ⟨behind, ha⟩ := Codec.exists_judge_eq_accept hf hq
      rw [Codec.judge_eq_accept_iff.mpr ⟨tail, hg, rfl⟩] at ha
      cases ha
      exact .inl (startsAt_noise_append _ _ _)
    | succ j =>
      have hlen : (d.codec.enclose g.body).length = tail.length + 1 := by
        rw [← (Codec.encode_eq_ok_iff.mp hg).2, List.length_cons]
      by_cases hlt : j < tail.length
      · exact .inr (.inl ⟨noise.length, g, startsAt_noise_append _ _ _, by omega, by omega⟩)
      · obtain ⟨i, rfl⟩ := Nat.exists_eq_add_of_le (Nat.not_lt.mp hlt)
        rw [List.drop_succ_cons, List.drop_length_add_append] at hq
        refine .inr (.inr ⟨i, ?_, hq, fun hw => by cases hw⟩)
        rw [length_noise_append, Segment.bytes]
        omega

theorem drain_meets (hf : d.codec.encode f = .ok bytes) (hp : bytes <+: d.buffer.drop o) :
    StartsAt d.codec d.segments o (.frame f) ∨ Covered d.codec d.segments o ∨
      (d.segments.flatMap (Segment.bytes d.codec)).length < o := by
  -- the offset is always counted from the front of what is still held
  induction d using drain_induction generalizing o with
  | waiting d u d' h =>
    rw [h.segments_of_waiting]
    obtain hs | hc | ⟨i, rfl, -, hi⟩ := h.meets hf hp
    · exact .inl hs
    · exact .inr (.inl hc)
    · exact .inr (.inr (Nat.lt_add_of_pos_right (hi rfl)))
  | result d u r' r d' h hr ih =>
    rw [h.accounts.codec] at ih
    rw [h.segments_of_result hr]
    obtain hs | hc | ⟨i, rfl, hi, -⟩ := h.meets hf hp
    · exact .inl (hs.append_right _)
    · exact .inr (.inl (hc.append_right _))
    · obtain hs | hc | hlt := ih hf hi
      · exact .inl hs.append_left
      · exact .inr (.inl hc.append_left)
      · refine .inr (.inr ?_)
        rw [List.flatMap_append, List.length_append]
        omega

/-- Whatever lies around it, an encoding in the input of a new decoder meets one of three fates: its
frame is handed out, or a frame handed out covers its first byte, or a candidate in front of it
still waits. Its first byte is never skipped. -/
theorem intact_frame_kept (c : Codec) {stream bytes : Bytes} {o : Nat} {f : Frame}
    (hf : c.encode f = .ok bytes) (hp : bytes <+: stream.drop o) :
    let d := (new c).extend stream
    let returned := StartsAt c d.segments o (.frame f)
    let covered := Covered c d.segments o
    let waiting := stream.length - d.drain.2.buffer.length < o
    Accounts d d.drain.2 { results := d.drain.1 } d.segments ∧
      (returned ∨ covered ∨ waiting) ∧
      ¬ (returned ∧ covered) ∧ ¬ (returned ∧ waiting) ∧ ¬ (covered ∧ waiting) ∧
      ∀ s, StartsAt c d.segments o s → s = .frame f := by
  intro d returned covered waiting
  have ha := drain_accounts d
  have hd : d.buffer = stream := List.nil_append stream
  have hlen : stream.length =
      (d.segments.flatMap (Segment.bytes c)).length + d.drain.2.buffer.length := by
    rw [← List.length_append, ← hd, ← List.append_nil d.buffer]
    exact congrArg List.length ha.bytes
  have hmeets : returned ∨ covered ∨ (d.segments.flatMap (Segment.bytes c)).length < o :=
    drain_meets (d := d) hf (by rwa [hd])
  have hstart : ∀ s, StartsAt c d.segments o s →
      ¬ (d.segments.flatMap (Segment.bytes c)).length < o := by
    intro s hs hlt
    have hend := hs.end_le
    omega
  refine ⟨ha, ?_, ?_, ?_, ?_, ?_⟩
  · obtain ht | hc | hlt := hmeets
    · exact .inl ht
    · exact .inr (.inl hc)
    · exact .inr (.inr (by omega))
  · exact fun ⟨ht, hc⟩ => hc.not_startsAt _ ht
  · exact fun ⟨ht, hw⟩ => hstart _ ht (by omega)
  · rintro ⟨hc, hw⟩
    have hlt := hc.lt_length
    omega
  · intro s hs
    obtain ht | hc | hlt := hmeets
    · exact hs.eq_of_eq ht rfl
    · exact absurd hs (hc.not_startsAt s)
    · exact absurd hlt (hstart s hs)

/-- Behind noise, a damaged length and a candidate whose body swallows the start of the frame. -/
theorem intact_frame_kept_behind_damage :
    let c := Codec.make .one 200 .xor8
    let stream : Bytes := [0, 0x7E, 0xFF, 0, 0x7E, 4, 0xFB, 0x7E, 3, 0xFC, 0, 7, 0x7E, 0x86]
    let d := (new c).extend stream
    c.encode ⟨7, 0x7E, []⟩ = .ok [0x7E, 3, 0xFC, 0, 7, 0x7E, 0x86] ∧
      [0x7E, 3, 0xFC, 0, 7, 0x7E, 0x86] <+: stream.drop 7 ∧
      (StartsAt c d.segments 7 (.frame ⟨7, 0x7E, []⟩) ∨ Covered c d.segments 7 ∨
        stream.length - d.drain.2.buffer.length < 7) :=
  ⟨rfl, ⟨[], rfl⟩, (intact_frame_kept _ rfl ⟨[], rfl⟩).2.1⟩

end Decoder
end FrameLink
