import FrameLink.Proofs.Codec.Corruption
import FrameLink.Proofs.Decoder.Resync
import FrameLink.Proofs.Decoder.RoundTrip
import Mathlib.Algebra.GroupWithZero.Nat

namespace FrameLink

/-- How many start markers a result uses up. -/
def Codec.markers (c : Codec) : Except ProtocolError Frame → Nat
  | .ok f => (c.enclose f.body).count startMarker
  | .error _ => 1

namespace Decoder

variable {c : Codec} {g : Frame} {bs tail follow : Bytes} {k : Nat} {e : ProtocolError}

/-- Each start marker is part of a frame that is handed out, or is paid for by one anomaly, or is
still held. -/
theorem drain_markers (d : Decoder) :
    d.buffer.count startMarker =
      (d.drain.1.map d.codec.markers).sum + d.drain.2.buffer.count startMarker := by
  induction d using drain_induction with
  | waiting d u d' h =>
    rw [h.drain_of_waiting, List.map_nil, List.sum_nil, Nat.zero_add]
    cases h with
    | exhausted hn => exact List.count_eq_zero.mpr hn
    | pending hn hb hj =>
      rw [hb, List.count_append, List.count_eq_zero.mpr hn, Nat.zero_add]
  | result d u o r d' h hr ih =>
    rw [h.accounts.codec] at ih
    rw [h.drain_of_result hr, List.map_cons, List.sum_cons, Nat.add_assoc, ← ih]
    cases h with
    | exhausted | pending => cases hr
    | rejected hn hb hj =>
      cases hr
      rw [hb, List.count_append, List.count_eq_zero.mpr hn, List.count_cons_self, Codec.markers,
        Nat.zero_add, Nat.add_comm]
    | accepted hn hb hf =>
      cases hr
      obtain ⟨-, rfl⟩ := Codec.encode_eq_ok_iff.mp hf
      rw [hb, List.count_append, List.count_append, List.count_eq_zero.mpr hn, Codec.markers,
        Nat.zero_add]

theorem rejected_of_judged (hj : c.judge bs = .reject e) (k : Nat) :
    Attempt ⟨c, startMarker :: bs, k⟩ [.rejected e] (.anomaly e) ⟨c, bs, k + 1⟩ :=
  @Attempt.rejected _ [] _ _ List.not_mem_nil rfl hj

theorem accepted_behind (hn : startMarker ∉ tail) (hg : c.encode g = .ok follow) (k : Nat) :
    Attempt ⟨c, tail ++ follow, k⟩ (tail.map .noise ++ [.frame g]) (.frame g)
      ⟨c, [], k + tail.length⟩ := by
  have hb : tail ++ follow = tail ++ (follow ++ []) := by rw [List.append_nil]
  exact @Attempt.accepted _ tail follow [] g hn hb hg

theorem drain_behind (hn : startMarker ∉ tail) (hg : c.encode g = .ok follow) (k : Nat) :
    (Decoder.mk c (tail ++ follow) k).drain = ([.ok g], ⟨c, [], k + tail.length⟩) := by
  rw [(accepted_behind hn hg k).drain_of_result rfl, drain_nil]

/-- A rejected candidate and an encoding behind it. They come to one anomaly and that frame, with
nothing held, exactly when no start marker is left between the two. -/
theorem drain_rejected_iff (hj : c.judge (tail ++ follow) = .reject e)
    (hg : c.encode g = .ok follow) :
    let d := (new c).extend (startMarker :: tail ++ follow)
    (∃ e, d.drain.1 = [.error e, .ok g] ∧ d.drain.2.buffer = []) ↔ startMarker ∉ tail := by
  intro d
  constructor
  · rintro ⟨e', hresults, hempty⟩
    have hm := drain_markers d
    obtain ⟨-, hb⟩ := Codec.encode_eq_ok_iff.mp hg
    have hbuffer : d.buffer = startMarker :: tail ++ follow := List.nil_append _
    have hcodec : d.codec = c := rfl
    rw [hresults, hempty, hbuffer, hcodec] at hm
    simp only [List.cons_append, List.count_cons_self, List.count_append, hb, List.map_cons,
      List.map_nil, List.sum_cons, List.sum_nil, Codec.markers, List.count_nil] at hm
    exact List.count_eq_zero.mp (by omega)
  · intro hn
    have hd : d.drain = _ := (rejected_of_judged hj 0).drain_of_result rfl
    rw [hd, drain_behind hn hg]
    exact ⟨e, rfl, rfl⟩

theorem startsAt_behind (hj : c.judge (tail ++ follow) = .reject e) (hn : startMarker ∉ tail)
    (hg : c.encode g = .ok follow) :
    StartsAt c ((new c).extend (startMarker :: tail ++ follow)).segments (tail.length + 1)
      (.frame g) := by
  have hd : ((new c).extend (startMarker :: tail ++ follow)).segments = _ :=
    (rejected_of_judged hj 0).segments_of_result rfl
  rw [hd, (accepted_behind hn hg 1).segments_of_result rfl, List.singleton_append,
    Nat.add_comm tail.length 1]
  exact .tail ((startsAt_noise_append c tail (.frame g)).append_right _)

end Decoder
end FrameLink
