import FrameLink.Proofs.Decoder.Attempt

namespace FrameLink.Decoder

theorem drain_extend (d : Decoder) (more : Bytes) :
    (d.extend more).drain =
      (d.drain.1 ++ (d.drain.2.extend more).drain.1, (d.drain.2.extend more).drain.2) := by
  induction d using drain_induction with
  | waiting d u d' h =>
    rw [h.drain_of_waiting, List.nil_append, drain_congr (h.next_resumed more)]
  | result d u o r d' h hr ih =>
    rw [(h.extend hr more).drain_of_result hr, ih, h.drain_of_result hr, List.cons_append]

theorem feed_cons (d : Decoder) (bs : Bytes) (transfers : List Bytes) :
    d.feed (bs :: transfers) =
      ((d.extend bs).drain.1 ++ ((d.extend bs).drain.2.feed transfers).1,
        ((d.extend bs).drain.2.feed transfers).2) := rfl

theorem feed_append (d : Decoder) (xs ys : List Bytes) :
    d.feed (xs ++ ys) = ((d.feed xs).1 ++ ((d.feed xs).2.feed ys).1, ((d.feed xs).2.feed ys).2) := by
  induction xs generalizing d with
  | nil => rfl
  | cons bs xs ih => rw [List.cons_append, feed_cons, feed_cons, ih, List.append_assoc]

theorem feed_singleton (d : Decoder) (bs : Bytes) : d.feed [bs] = (d.extend bs).drain := by
  rw [feed_cons, feed, List.append_nil]

theorem next_skipped (d : Decoder) (n : Nat) :
    { d with skipped := d.skipped + n }.next =
      (d.next.1, { d.next.2 with skipped := d.next.2.skipped + n }) := by
  rw [next, next]
  dsimp only
  split
  · simp only [Nat.add_right_comm]
  · split <;> simp only [Nat.add_right_comm]

theorem drain_skipped (d : Decoder) (n : Nat) :
    { d with skipped := d.skipped + n }.drain =
      (d.drain.1, { d.drain.2 with skipped := d.drain.2.skipped + n }) := by
  induction d using drain_induction with
  | waiting d u d' h =>
    rw [h.drain_of_waiting, drain_eq, next_skipped, h.next_eq]
    rfl
  | result d u o r d' h hr ih =>
    rw [h.drain_of_result hr, drain_eq, next_skipped, h.next_eq]
    simp only [hr, ih]

theorem exists_drain_eq (d : Decoder) : ∃ results, ∃ last : Decoder, ∀ n,
    { d with skipped := n }.drain = (results, { last with skipped := last.skipped + n }) := by
  let fresh : Decoder := { d with skipped := 0 }
  refine ⟨fresh.drain.1, fresh.drain.2, fun n => ?_⟩
  have h := drain_skipped fresh n
  rwa [Nat.zero_add] at h

theorem feed_eq_drain (d : Decoder) {transfers : List Bytes} (h : transfers ≠ []) :
    d.feed transfers = (d.extend transfers.flatten).drain := by
  induction transfers generalizing d with
  | nil => exact absurd rfl h
  | cons bs transfers ih =>
    have hjoin : d.extend (bs :: transfers).flatten = (d.extend bs).extend transfers.flatten := by
      simp only [extend, List.flatten_cons, List.append_assoc]
    rw [hjoin, feed_cons]
    cases transfers with
    | nil => simp only [feed, extend, List.flatten_nil, List.append_nil]
    | cons next transfers => rw [ih _ (List.cons_ne_nil _ _), drain_extend (d.extend bs)]

theorem eq_nil_iff_of_flatten_eq {xs ys : List Bytes} (hx : [] ∉ xs) (hy : [] ∉ ys)
    (h : xs.flatten = ys.flatten) : xs = [] ↔ ys = [] := by
  have hnil {zs : List Bytes} (hz : [] ∉ zs) : zs = [] ↔ zs.flatten = [] := by
    refine ⟨fun he => he ▸ rfl, fun he => List.eq_nil_iff_forall_not_mem.mpr fun z hm => ?_⟩
    exact hz (List.flatten_eq_nil_iff.mp he z hm ▸ hm)
  rw [hnil hx, hnil hy, h]

/-- Where no transfer is empty, even the number of transfers does not matter. -/
theorem feed_congr (d : Decoder) {xs ys : List Bytes} (hx : [] ∉ xs) (hy : [] ∉ ys)
    (h : xs.flatten = ys.flatten) : d.feed xs = d.feed ys := by
  have hnil := eq_nil_iff_of_flatten_eq hx hy h
  by_cases hxs : xs = []
  · rw [hxs, hnil.mp hxs]
  · rw [feed_eq_drain d hxs, feed_eq_drain d (mt hnil.mpr hxs), h]

/-- Two ways of cutting the same bytes into transfers give the same frames and anomalies in the same
order, and leave the same decoder behind. -/
theorem feed_eq_of_flatten_eq (d : Decoder) {xs ys : List Bytes} (hx : xs ≠ []) (hy : ys ≠ [])
    (h : xs.flatten = ys.flatten) : d.feed xs = d.feed ys := by
  rw [feed_eq_drain d hx, feed_eq_drain d hy, h]

/-- A decoder that holds a false start; the cuts fall into the noise, the length and the
checksum. -/
theorem feed_eq_of_cuts :
    [[0x13], [], [0x7E, 0x03], [0xFC, 0, 1, 2, 0x7E], [0xFC]].flatten =
      [[0x13, 0x7E], [0x03, 0xFC, 0, 1, 2], [0x7E, 0xFC]].flatten ∧
    (Decoder.mk (.make .one 200 .xor8) [0x7E, 0x04] 5).feed
      [[0x13], [], [0x7E, 0x03], [0xFC, 0, 1, 2, 0x7E], [0xFC]] =
    (Decoder.mk (.make .one 200 .xor8) [0x7E, 0x04] 5).feed
      [[0x13, 0x7E], [0x03, 0xFC, 0, 1, 2], [0x7E, 0xFC]] :=
  ⟨rfl, feed_eq_of_flatten_eq _ (by decide) (by decide) rfl⟩

end FrameLink.Decoder
