import FrameLink.Proofs.Decoder.Account

namespace FrameLink.Decoder

/-- What a user can ask of a decoder. -/
inductive Op where
  | extend (bs : Bytes)
  | next
  | drain
  | takeSkipped
  | reset

def perform (d : Decoder) : Op → Ledger × Decoder
  | .extend bs => ({ fed := bs }, d.extend bs)
  | .next => ({ results := d.next.1.result.toList }, d.next.2)
  | .drain => ({ results := d.drain.1 }, d.drain.2)
  | .takeSkipped => ({ taken := d.takeSkipped.1 }, d.takeSkipped.2)
  | .reset => ({ dropped := d.reset.1 }, d.reset.2)

def run (d : Decoder) : List Op → Ledger × Decoder
  | [] => ({}, d)
  | op :: ops =>
    let (now, d) := d.perform op
    let (later, d) := d.run ops
    (now ++ later, d)

def spent (d : Decoder) : Op → List Segment
  | .extend _ => []
  | .next => d.used
  | .drain => d.segments
  | .takeSkipped => []
  | .reset => d.buffer.map .dropped

def history (d : Decoder) : List Op → List Segment
  | [] => []
  | op :: ops => d.spent op ++ (d.perform op).2.history ops

theorem perform_accounts (d : Decoder) (op : Op) :
    Accounts d (d.perform op).2 (d.perform op).1 (d.spent op) := by
  cases op with
  | extend bs => exact ⟨rfl, rfl, nofun, rfl, (Nat.zero_add _).symm, rfl⟩
  | next => exact next_accounts d
  | drain => exact drain_accounts d
  | takeSkipped => exact ⟨rfl, List.append_nil _, nofun, rfl, rfl, rfl⟩
  | reset => exact Accounts.of_dropped

theorem run_accounts (d : Decoder) (ops : List Op) :
    Accounts d (d.run ops).2 (d.run ops).1 (d.history ops) := by
  induction ops generalizing d with
  | nil => exact Accounts.refl d
  | cons op ops ih => exact (perform_accounts d op).trans (ih (d.perform op).2)

/-- Whatever is asked of a new decoder: the bytes fed are, in order, the encodings of the frames
handed out and the bytes skipped, and then the bytes still held. Each anomaly has its skipped start
marker, and the skipped bytes are those the user was told of and those not yet told. -/
theorem run_new_accounts (c : Codec) (ops : List Op) :
    let l := ((new c).run ops).1
    let d := ((new c).run ops).2
    ∃ segments : List Segment,
      l.fed = segments.flatMap (Segment.bytes c) ++ d.buffer ∧
      (∀ s ∈ segments, s.Genuine c) ∧
      segments.filterMap Segment.result = l.results ∧
      segments.countP Segment.isSkipped = l.taken + d.skipped ∧
      segments.countP Segment.isDropped = l.dropped := by
  intro l d
  have h : Accounts (new c) d l ((new c).history ops) := run_accounts (new c) ops
  refine ⟨(new c).history ops, h.bytes, h.genuine, h.results, ?_, h.dropped⟩
  rw [← h.skipped, new, Nat.zero_add]

end FrameLink.Decoder
