import FrameLink.Proofs.Codec.Candidate
import FrameLink.Proofs.Decoder.Segment

namespace FrameLink

namespace Decoder

variable {c : Codec} {noise bs : Bytes} {k : Nat} {d d' : Decoder} {u : List Segment} {o : Decoded}
  {r : Except ProtocolError Frame}

theorem ne_marker_of_mem (hn : startMarker ∉ noise) : ∀ b ∈ noise, (b != startMarker) = true := by
  intro b hb
  rw [bne_iff_ne]
  rintro rfl
  exact hn hb

theorem takeWhile_of_noise (hn : startMarker ∉ noise) :
    noise.takeWhile (· != startMarker) = noise := by
  have h : (noise ++ []).takeWhile (· != startMarker) = noise ++ [] :=
    List.takeWhile_append_of_pos (ne_marker_of_mem hn)
  rwa [List.append_nil] at h

theorem takeWhile_append_marker (hn : startMarker ∉ noise) :
    (noise ++ startMarker :: bs).takeWhile (· != startMarker) = noise := by
  rw [List.takeWhile_append_of_pos (ne_marker_of_mem hn), List.takeWhile_cons_of_neg (by simp),
    List.append_nil]

theorem next_append (hn : startMarker ∉ noise) :
    (Decoder.mk c (noise ++ bs) k).next = (Decoder.mk c bs (k + noise.length)).next := by
  unfold next
  simp only [List.takeWhile_append_of_pos (ne_marker_of_mem hn),
    List.dropWhile_append_of_pos (ne_marker_of_mem hn), List.length_append, Nat.add_assoc]

theorem next_of_marker :
    (Decoder.mk c (startMarker :: bs) k).next = match c.judge bs with
      | .incomplete => (.waiting, ⟨c, startMarker :: bs, k⟩)
      | .reject e => (.anomaly e, ⟨c, bs, k + 1⟩)
      | .accept f rest => (.frame f, ⟨c, rest, k⟩) := by
  have hm : ¬ (startMarker != startMarker) = true := by decide
  cases hj : c.judge bs <;>
    simp only [next, List.takeWhile_cons_of_neg (p := (· != startMarker)) hm,
      List.dropWhile_cons_of_neg (p := (· != startMarker)) hm, hj, List.length_nil, Nat.add_zero]

/-- The segments that the next attempt uses up. -/
def used (d : Decoder) : List Segment :=
  (d.buffer.takeWhile (· != startMarker)).map .noise ++ d.next.1.segments

/-- One attempt: behind the noise the bytes end, or a candidate waits, is rejected or accepted. -/
inductive Attempt (d : Decoder) : List Segment → Decoded → Decoder → Prop
  | exhausted (hn : startMarker ∉ d.buffer) :
      Attempt d (d.buffer.map .noise) .waiting
        { d with buffer := [], skipped := d.skipped + d.buffer.length }
  | pending {noise bs : Bytes} (hn : startMarker ∉ noise)
      (hb : d.buffer = noise ++ startMarker :: bs) (hj : d.codec.judge bs = .incomplete) :
      Attempt d (noise.map .noise) .waiting
        { d with buffer := startMarker :: bs, skipped := d.skipped + noise.length }
  | rejected {noise bs : Bytes} {e : ProtocolError} (hn : startMarker ∉ noise)
      (hb : d.buffer = noise ++ startMarker :: bs) (hj : d.codec.judge bs = .reject e) :
      Attempt d (noise.map .noise ++ [.rejected e]) (.anomaly e)
        { d with buffer := bs, skipped := d.skipped + noise.length + 1 }
  | accepted {noise bytes rest : Bytes} {f : Frame} (hn : startMarker ∉ noise)
      (hb : d.buffer = noise ++ (bytes ++ rest)) (hf : d.codec.encode f = .ok bytes) :
      Attempt d (noise.map .noise ++ [.frame f]) (.frame f)
        { d with buffer := rest, skipped := d.skipped + noise.length }

theorem Attempt.next_eq (h : Attempt d u o d') : d.next = (o, d') := by
  obtain ⟨c, buffer, k⟩ := d
  cases h with
  | exhausted hn =>
    have h : (Decoder.mk c (buffer ++ []) k).next = _ := next_append hn
    rwa [List.append_nil] at h
  | pending hn hb hj =>
    subst hb
    rw [next_append hn, next_of_marker, hj]
  | rejected hn hb hj =>
    subst hb
    rw [next_append hn, next_of_marker, hj]
  | accepted hn hb hf =>
    subst hb
    obtain ⟨tail, rfl⟩ := Codec.exists_eq_cons_of_encode hf
    rw [next_append hn, List.cons_append, next_of_marker,
      Codec.judge_eq_accept_iff.mpr ⟨tail, hf, rfl⟩]

theorem Attempt.used_eq (h : Attempt d u o d') : d.used = u := by
  rw [used, h.next_eq]
  cases h with
  | exhausted hn => rw [takeWhile_of_noise hn, Decoded.segments, List.append_nil]
  | pending hn hb hj =>
    rw [hb, takeWhile_append_marker hn, Decoded.segments, List.append_nil]
  | rejected hn hb hj => rw [hb, takeWhile_append_marker hn, Decoded.segments]
  | accepted hn hb hf =>
    obtain ⟨tail, rfl⟩ := Codec.exists_eq_cons_of_encode hf
    rw [hb, List.cons_append, takeWhile_append_marker hn, Decoded.segments]

theorem exists_attempt (d : Decoder) : ∃ u o d', Attempt d u o d' := by
  by_cases hm : startMarker ∈ d.buffer
  · obtain ⟨noise, bs, hb, hn⟩ := List.eq_append_cons_of_mem hm
    cases hj : d.codec.judge bs with
    | incomplete => exact ⟨_, _, _, .pending hn hb hj⟩
    | reject e => exact ⟨_, _, _, .rejected hn hb hj⟩
    | accept f rest =>
      obtain ⟨bytes, hf, rfl⟩ := Codec.judge_eq_accept_iff.mp hj
      exact ⟨_, _, _, .accepted hn hb hf⟩
  · exact ⟨_, _, _, .exhausted hm⟩

/-- An attempt that reports something reports the same when more bytes arrive. -/
theorem Attempt.extend (h : Attempt d u o d') (hr : o.result = some r) (more : Bytes) :
    Attempt (d.extend more) u o (d'.extend more) := by
  cases h with
  | exhausted | pending => cases hr
  | @rejected noise bs e hn hb hj =>
    refine @Attempt.rejected _ noise (bs ++ more) e hn ?_ ?_
    · rw [Decoder.extend, hb, List.append_assoc, List.cons_append]
    · have hj' := Codec.judge_append (by rw [hj]; nofun) more
      rwa [hj] at hj'
  | @accepted noise bytes rest f hn hb hf =>
    refine @Attempt.accepted _ noise bytes (rest ++ more) f hn ?_ hf
    rw [Decoder.extend, hb, List.append_assoc, List.append_assoc]

/-- An attempt that waits can be resumed: the noise it has thrown away is not missed. -/
theorem Attempt.next_resumed (h : Attempt d u .waiting d') (more : Bytes) :
    (d'.extend more).next = (d.extend more).next := by
  cases h with
  | exhausted hn => exact (next_append hn).symm
  | pending hn hb hj =>
    simp only [Decoder.extend, hb, List.append_assoc]
    exact (next_append hn).symm

theorem drain_eq (d : Decoder) :
    d.drain = match d.next.1.result with
      | none => ([], d.next.2)
      | some r => (r :: d.next.2.drain.1, d.next.2.drain.2) := by
  rw [drain]
  split
  · next hd => simp only [hd, Decoded.result]
  · next hd => simp only [hd, Decoded.result]
  · next hd => simp only [hd, Decoded.result]

theorem drain_congr (h : d.next = d'.next) : d.drain = d'.drain := by
  rw [drain_eq d, drain_eq d', h]

theorem Attempt.drain_of_waiting (h : Attempt d u .waiting d') : d.drain = ([], d') := by
  rw [drain_eq, h.next_eq]
  rfl

theorem Attempt.drain_of_result (h : Attempt d u o d') (hr : o.result = some r) :
    d.drain = (r :: d'.drain.1, d'.drain.2) := by
  rw [drain_eq, h.next_eq]
  simp only [hr]

theorem eq_waiting_of_result (h : o.result = none) : o = .waiting := by
  cases o with
  | waiting => rfl
  | frame | anomaly => cases h

/-- Induction along the attempts of a drain. -/
@[elab_as_elim]
theorem drain_induction {motive : Decoder → Prop}
    (waiting : ∀ d u d', Attempt d u .waiting d' → motive d)
    (result : ∀ d u o r d', Attempt d u o d' → o.result = some r → motive d' → motive d)
    (d : Decoder) : motive d := by
  obtain ⟨u, o, d', ha⟩ := exists_attempt d
  cases hr : o.result with
  | none => exact waiting d u d' (eq_waiting_of_result hr ▸ ha)
  | some r => exact result d u o r d' ha hr (drain_induction waiting result d')
termination_by d.buffer.length
decreasing_by
  have hlt : d.next.1 ≠ .waiting → d.next.2.buffer.length < d.buffer.length := length_next_lt
  rw [ha.next_eq] at hlt
  refine hlt fun hw => ?_
  cases hw
  cases hr

end Decoder
end FrameLink
