import FrameLink.Proofs.Decoder.Attempt

namespace FrameLink

/-- What passes between a decoder and its user: the bytes fed, the frames and anomalies reported,
how many bytes the user was told were skipped, and how many the user had thrown away. -/
structure Ledger where
  fed : Bytes := []
  results : List (Except ProtocolError Frame) := []
  taken : Nat := 0
  dropped : Nat := 0

instance : Append Ledger where
  append l l' := ⟨l.fed ++ l'.fed, l.results ++ l'.results, l.taken + l'.taken, l.dropped + l'.dropped⟩

/-- The segments account for what a decoder did on its way from `d` to `d'`: they are the bytes held
and fed, up to those still held, and they say what was reported and how many bytes were skipped. -/
structure Accounts (d d' : Decoder) (l : Ledger) (segments : List Segment) : Prop where
  codec : d'.codec = d.codec
  bytes : d.buffer ++ l.fed = segments.flatMap (Segment.bytes d.codec) ++ d'.buffer
  genuine : ∀ s ∈ segments, s.Genuine d.codec
  results : segments.filterMap Segment.result = l.results
  skipped : d.skipped + segments.countP Segment.isSkipped = l.taken + d'.skipped
  dropped : segments.countP Segment.isDropped = l.dropped

namespace Accounts

variable {c : Codec} {d d' d'' : Decoder} {l l' : Ledger} {segments segments' : List Segment}
  {noise bs bytes : Bytes} {k : Nat}

theorem refl (d : Decoder) : Accounts d d {} [] where
  codec := rfl
  bytes := List.append_nil _
  genuine := nofun
  results := rfl
  skipped := (Nat.zero_add _).symm
  dropped := rfl

theorem trans (h : Accounts d d' l segments) (h' : Accounts d' d'' l' segments') :
    Accounts d d'' (l ++ l') (segments ++ segments') where
  codec := h'.codec.trans h.codec
  bytes := by
    have hb := h'.bytes
    rw [h.codec] at hb
    calc d.buffer ++ (l.fed ++ l'.fed)
        = segments.flatMap (Segment.bytes d.codec) ++ (d'.buffer ++ l'.fed) := by
          rw [← List.append_assoc, h.bytes, List.append_assoc]
      _ = (segments ++ segments').flatMap (Segment.bytes d.codec) ++ d''.buffer := by
          rw [hb, List.flatMap_append, List.append_assoc]
  genuine := by
    intro s hs
    cases List.mem_append.mp hs with
    | inl hs => exact h.genuine s hs
    | inr hs => exact h.codec ▸ h'.genuine s hs
  results := by
    rw [List.filterMap_append, h.results, h'.results]
    rfl
  skipped := by
    have hs := h.skipped
    have hs' := h'.skipped
    have ht : (l ++ l').taken = l.taken + l'.taken := rfl
    rw [List.countP_append, ht]
    omega
  dropped := by
    rw [List.countP_append, h.dropped, h'.dropped]
    rfl

theorem of_noise (hn : startMarker ∉ noise) :
    Accounts ⟨c, noise ++ bs, k⟩ ⟨c, bs, k + noise.length⟩ {} (noise.map .noise) where
  codec := rfl
  bytes := by rw [Segment.flatMap_noise, List.append_nil]
  genuine := by
    intro s hs
    obtain ⟨b, hb, rfl⟩ := List.mem_map.mp hs
    rintro rfl
    exact hn hb
  results := by simp [List.filterMap_map, Segment.result]
  skipped := by simp [List.countP_map, Segment.isSkipped]
  dropped := by simp [List.countP_map, Segment.isDropped]

theorem of_rejected (e : ProtocolError) :
    Accounts ⟨c, startMarker :: bs, k⟩ ⟨c, bs, k + 1⟩ { results := [.error e] } [.rejected e] where
  codec := rfl
  bytes := List.append_nil _
  genuine := by simp [Segment.Genuine]
  results := rfl
  skipped := (Nat.zero_add _).symm
  dropped := rfl

theorem of_accepted {f : Frame} (hf : c.encode f = .ok bytes) :
    Accounts ⟨c, bytes ++ bs, k⟩ ⟨c, bs, k⟩ { results := [.ok f] } [.frame f] where
  codec := rfl
  bytes := by
    obtain ⟨-, rfl⟩ := Codec.encode_eq_ok_iff.mp hf
    simp [Segment.bytes]
  genuine := by
    obtain ⟨-, rfl⟩ := Codec.encode_eq_ok_iff.mp hf
    simpa [Segment.Genuine] using hf
  results := rfl
  skipped := (Nat.zero_add _).symm
  dropped := rfl

theorem of_dropped :
    Accounts ⟨c, bs, k⟩ ⟨c, [], k + bs.length⟩ { dropped := bs.length } (bs.map .dropped) where
  codec := rfl
  bytes := by rw [Segment.flatMap_dropped]
  genuine := by
    intro s hs
    obtain ⟨b, hb, rfl⟩ := List.mem_map.mp hs
    trivial
  results := by simp [List.filterMap_map, Segment.result]
  skipped := by simp [List.countP_map, Segment.isSkipped]
  dropped := by simp [List.countP_map, Segment.isDropped]

end Accounts

namespace Decoder

variable {d d' : Decoder} {u : List Segment} {o : Decoded} {r : Except ProtocolError Frame}

def segments (d : Decoder) : List Segment :=
  match _h : d.next.1.result with
  | none => d.used
  | some _ => d.used ++ d.next.2.segments
termination_by d.buffer.length
decreasing_by exact length_next_lt fun hw => by rw [hw] at _h; cases _h

theorem Attempt.accounts (h : Attempt d u o d') :
    Accounts d d' { results := o.result.toList } u := by
  obtain ⟨c, buffer, k⟩ := d
  cases h with
  | exhausted hn =>
    have h : Accounts ⟨c, buffer ++ [], k⟩ _ {} _ := Accounts.of_noise hn
    rwa [List.append_nil] at h
  | pending hn hb hj =>
    subst hb
    exact Accounts.of_noise hn
  | rejected hn hb hj =>
    subst hb
    exact (Accounts.of_noise hn).trans (Accounts.of_rejected _)
  | accepted hn hb hf =>
    subst hb
    exact (Accounts.of_noise hn).trans (Accounts.of_accepted hf)

theorem next_accounts (d : Decoder) :
    Accounts d d.next.2 { results := d.next.1.result.toList } d.used := by
  obtain ⟨u, o, d', h⟩ := exists_attempt d
  rw [h.used_eq, h.next_eq]
  exact h.accounts

theorem segments_eq (d : Decoder) :
    d.segments = match d.next.1.result with
      | none => d.used
      | some _ => d.used ++ d.next.2.segments := by
  rw [segments]
  split
  · next hr => rw [hr]
  · next hr => rw [hr]

theorem Attempt.segments_of_waiting (h : Attempt d u .waiting d') : d.segments = u := by
  rw [segments_eq, h.used_eq, h.next_eq]
  rfl

theorem Attempt.segments_of_result (h : Attempt d u o d') (hr : o.result = some r) :
    d.segments = u ++ d'.segments := by
  rw [segments_eq, h.used_eq, h.next_eq]
  simp only [hr]

theorem drain_accounts (d : Decoder) : Accounts d d.drain.2 { results := d.drain.1 } d.segments := by
  induction d using drain_induction with
  | waiting d u d' h =>
    rw [h.drain_of_waiting, h.segments_of_waiting]
    exact h.accounts
  | result d u o r d' h hr ih =>
    have ha := h.accounts
    rw [hr] at ha
    rw [h.drain_of_result hr, h.segments_of_result hr]
    exact ha.trans ih

end Decoder
end FrameLink
