import FrameLink.Proofs.Decoder.Account

namespace FrameLink

namespace Codec

variable {c : Codec} {n : Nat} {bs tail : Bytes}

def frameLength (c : Codec) (n : Nat) : Nat := c.headerLength + n + c.checksum.width

theorem length_marked_header (c : Codec) (n : Nat) (tail : Bytes) :
    (startMarker :: (c.header n ++ tail)).length = c.headerLength + tail.length := by
  simp only [List.length_cons, List.length_append, header, length_beBytes, List.length_nil,
    headerLength]
  omega

theorem cases_of_judge_incomplete (h : c.judge bs = .incomplete) :
    bs.length ≤ c.lengthWidth.bytes ∨ ∃ n tail, bs = c.header n ++ tail ∧ Frame.minBody ≤ n ∧
      n ≤ c.maxBody ∧ tail.length < n + c.checksum.width := by
  rw [judge_eq_iff] at h
  cases h with
  | headless h => exact .inl h
  | unfinished hmax hmin h => exact .inr ⟨_, _, rfl, hmin, hmax, h⟩

theorem judge_of_complete (hmin : Frame.minBody ≤ n) (hmax : n ≤ c.maxBody)
    (h : n + c.checksum.width ≤ tail.length) :
    (∃ f rest, c.judge (c.header n ++ tail) = .accept f rest) ∨
      ∃ carried computed,
        c.judge (c.header n ++ tail) = .reject (.checksumMismatch carried computed) := by
  have hw : ¬ ((tail.drop n).take c.checksum.width).length < c.checksum.width := by
    rw [List.length_take, List.length_drop]
    omega
  rw [judge_header_of_range hmax hmin, judgeBody, if_neg hw]
  split
  · exact .inr ⟨_, _, rfl⟩
  · have hbody : Frame.minBody ≤ (tail.take n).length := by
      rw [List.length_take]
      omega
    obtain ⟨f, hf⟩ := Frame.exists_body_eq hbody
    rw [← hf, Frame.ofBody_body]
    exact .inl ⟨_, _, rfl⟩

/-- As long as no byte of the checksum has arrived, a frame can still come of a candidate. -/
theorem exists_completion (hmin : Frame.minBody ≤ n) (hmax : n ≤ c.maxBody) (h : tail.length ≤ n) :
    ∃ more f, tail.length + more.length = n + c.checksum.width ∧
      c.judge (c.header n ++ (tail ++ more)) = .accept f [] := by
  have hbody : (tail ++ List.replicate (n - tail.length) 0).length = n := by
    rw [List.length_append, List.length_replicate]
    omega
  obtain ⟨f, hf⟩ := Frame.exists_body_eq (Nat.le_trans hmin (Nat.le_of_eq hbody.symm))
  have hlen : f.body.length = n := by rw [hf, hbody]
  have henc : c.encode f = .ok (c.enclose f.body) := by
    rw [encode_eq_ok_iff, ← Frame.length_body, hlen]
    exact ⟨hmax, rfl⟩
  refine ⟨List.replicate (n - tail.length) 0 ++
    beBytes c.checksum.width (c.checksum.value (c.covered f.body)), f, ?_, ?_⟩
  · rw [List.length_append, List.length_replicate, length_beBytes]
    omega
  · rw [judge_eq_accept_iff]
    refine ⟨_, henc, ?_⟩
    rw [List.append_nil, covered_eq, hlen, ← List.append_assoc tail, ← hf, List.append_assoc]

end Codec

namespace Decoder

variable {d d' : Decoder} {u : List Segment} {n : Nat}

inductive Drains : Decoder → List (Except ProtocolError Frame) → Decoder → Prop
  | waiting {d d' : Decoder} (h : d.next = (.waiting, d')) : Drains d [] d'
  | result {d last : Decoder} {r : Except ProtocolError Frame}
      {results : List (Except ProtocolError Frame)} (h : d.next.1.result = some r)
      (hs : Drains d.next.2 results last) : Drains d (r :: results) last

theorem drains_drain (d : Decoder) : Drains d d.drain.1 d.drain.2 := by
  induction d using drain_induction with
  | waiting d u d' h =>
    rw [h.drain_of_waiting]
    exact .waiting h.next_eq
  | result d u o r d' h hr ih =>
    rw [h.drain_of_result hr]
    refine .result ?_ ?_
    · rw [h.next_eq, hr]
    · rwa [h.next_eq]

theorem Drains.length_add_le {results : List (Except ProtocolError Frame)}
    (h : Drains d results d') :
    results.length + d'.buffer.length ≤ d.buffer.length := by
  induction h with
  | @waiting d d' h =>
    obtain ⟨u, o, d'', ha⟩ := exists_attempt d
    have hb := ha.accounts.bytes
    rw [ha.next_eq] at h
    cases h
    rw [List.append_nil] at hb
    rw [hb, List.length_append, List.length_nil]
    omega
  | @result d last r results h hs ih =>
    have hlt : d.next.2.buffer.length < d.buffer.length := by
      refine length_next_lt fun hw => ?_
      rw [hw] at h
      cases h
    rw [List.length_cons]
    omega

/-- The bytes held begin with a header in order, and less than the frame it declares is there. -/
structure Expects (d : Decoder) (n : Nat) : Prop where
  header : ∃ tail, d.buffer = startMarker :: (d.codec.header n ++ tail)
  min : Frame.minBody ≤ n
  max : n ≤ d.codec.maxBody
  short : d.buffer.length < d.codec.frameLength n

/-- The wait comes to an end with the last byte of the declared frame. -/
theorem Expects.next_extend (h : d.Expects n) {more : Bytes}
    (hm : d.codec.frameLength n ≤ d.buffer.length + more.length) :
    (∃ f, (d.extend more).next.1 = .frame f) ∨
      ∃ carried computed, (d.extend more).next.1 = .anomaly (.checksumMismatch carried computed) := by
  obtain ⟨c, buffer, k⟩ := d
  obtain ⟨⟨tail, hb⟩, hmin, hmax, -⟩ := h
  dsimp only at hb hmin hmax hm ⊢
  subst hb
  have hlen : n + c.checksum.width ≤ (tail ++ more).length := by
    rw [Codec.length_marked_header, Codec.frameLength] at hm
    rw [List.length_append]
    omega
  rw [extend, List.cons_append, List.append_assoc, next_of_marker]
  obtain ⟨f, rest, hj⟩ | ⟨carried, computed, hj⟩ := Codec.judge_of_complete hmin hmax hlen
  · exact .inl ⟨f, by rw [hj]⟩
  · exact .inr ⟨carried, computed, by rw [hj]⟩

theorem Expects.exists_frame (h : d.Expects n) (hl : d.buffer.length ≤ d.codec.headerLength + n) :
    ∃ more f, d.buffer.length + more.length = d.codec.frameLength n ∧
      (d.extend more).next.1 = .frame f := by
  obtain ⟨c, buffer, k⟩ := d
  obtain ⟨⟨tail, hb⟩, hmin, hmax, -⟩ := h
  dsimp only at hb hmin hmax hl ⊢
  subst hb
  rw [Codec.length_marked_header] at hl
  have htail : tail.length ≤ n := by omega
  obtain ⟨more, f, hlen, hj⟩ := Codec.exists_completion hmin hmax htail
  refine ⟨more, f, ?_, ?_⟩
  · rw [Codec.length_marked_header, Codec.frameLength]
    omega
  · rw [extend, List.cons_append, List.append_assoc, next_of_marker, hj]

theorem Attempt.rest (h : Attempt d u .waiting d') :
    d'.buffer = [] ∨
      (∃ bs, d'.buffer = startMarker :: bs ∧ d'.buffer.length < d'.codec.headerLength) ∨
      ∃ n, d'.Expects n := by
  cases h with
  | exhausted hn => exact .inl rfl
  | @pending noise bs hn hb hj =>
    obtain hshort | ⟨n, tail, rfl, hmin, hmax, hlen⟩ := Codec.cases_of_judge_incomplete hj
    · refine .inr (.inl ⟨bs, rfl, ?_⟩)
      dsimp only
      rw [Codec.headerLength, List.length_cons]
      omega
    · refine .inr (.inr ⟨n, ⟨tail, rfl⟩, hmin, hmax, ?_⟩)
      dsimp only
      rw [Codec.length_marked_header, Codec.frameLength]
      omega

/-- An attempt that has found no complete frame finds none when it is made again. -/
theorem Attempt.next_again (h : Attempt d u .waiting d') : d'.next = (.waiting, d') := by
  have hr := h.next_resumed []
  have he (d : Decoder) : d.extend [] = d := by rw [Decoder.extend, List.append_nil]
  rwa [he, he, h.next_eq] at hr

theorem exists_attempt_waiting (d : Decoder) :
    ∃ d' u, Attempt d' u .waiting d.drain.2 ∧ d'.codec = d.codec := by
  induction d using drain_induction with
  | waiting d u d' h =>
    rw [h.drain_of_waiting]
    exact ⟨d, u, h, rfl⟩
  | result d u o r d' h hr ih =>
    obtain ⟨d'', u', ha, hc⟩ := ih
    rw [h.drain_of_result hr]
    exact ⟨d'', u', ha, hc.trans h.accounts.codec⟩

/-- Draining comes to an end after at most as many results as there are bytes, and from there no
attempt changes anything. What is left is nothing, or less than a header behind a start marker, or
less than the frame that a header in order declares. In the last case the missing bytes of that
frame bring a frame or a wrong checksum, and a frame is possible while no byte of its checksum is
there. -/
theorem drain_rests (d : Decoder) :
    ∃ results last, Drains d results last ∧ d.drain = (results, last) ∧ last.codec = d.codec ∧
      results.length + last.buffer.length ≤ d.buffer.length ∧ last.next = (.waiting, last) ∧
      (last.buffer = [] ∨
        (∃ bs, last.buffer = startMarker :: bs ∧ last.buffer.length < d.codec.headerLength) ∨
        ∃ n, last.Expects n ∧
          (∀ more, d.codec.frameLength n ≤ last.buffer.length + more.length →
            (∃ f, (last.extend more).next.1 = .frame f) ∨ ∃ carried computed,
              (last.extend more).next.1 = .anomaly (.checksumMismatch carried computed)) ∧
          (last.buffer.length ≤ d.codec.headerLength + n →
            ∃ more f, last.buffer.length + more.length = d.codec.frameLength n ∧
              (last.extend more).next.1 = .frame f)) := by
  obtain ⟨d', u, ha, hc⟩ := exists_attempt_waiting d
  have hcodec : d.drain.2.codec = d.codec := ha.accounts.codec.trans hc
  have hdrains := drains_drain d
  refine ⟨d.drain.1, d.drain.2, hdrains, rfl, hcodec, hdrains.length_add_le, ha.next_again, ?_⟩
  rw [← hcodec]
  obtain hnil | hhead | ⟨n, hn⟩ := ha.rest
  · exact .inl hnil
  · exact .inr (.inl hhead)
  · exact .inr (.inr ⟨n, hn, fun _ => hn.next_extend, hn.exists_frame⟩)

end Decoder
end FrameLink
