import FrameLink.Device.Bench
import FrameLink.Proofs.Session.Client

namespace FrameLink
namespace Session

variable {σ : Type} {s : Session σ} {h : Handle} {p : Pending}

/-- Dropping or cancelling a handle concerns no request but its own. -/
def Isolated (s : Session σ) (h : Handle) : Prop :=
  ((s.cancelHandle h).1 = true → s.table.awaits h.ticket = true) ∧
    ∀ p ∈ s.table.pending, p.ticket ≠ h.ticket →
      (s.cancelHandle h).2.Undecided p ∧ (s.withdraw h).Undecided p

instance (s : Session σ) (h : Handle) : Decidable (s.Isolated h) :=
  inferInstanceAs (Decidable (_ ∧ _))

theorem pending_cancel (s : Session σ) (seq : SequenceId) :
    (s.cancel seq).2.table.pending = s.table.pending.filter fun p => p.seq != seq := by
  cases hf : s.table.find? seq with
  | none =>
    have hne := PendingTable.find?_eq_none_iff.mp hf
    rw [cancel, finish_of_free hf]
    exact (List.filter_eq_self.mpr fun p hp => bne_iff_ne.mpr (hne p hp)).symm
  | some p =>
    rw [cancel_of_pending hf]
    rfl

theorem mem_cancel {seq : SequenceId} :
    p ∈ (s.cancel seq).2.table.pending ↔ p ∈ s.table.pending ∧ p.seq ≠ seq := by
  rw [pending_cancel, List.mem_filter, bne_iff_ne]

theorem cancel_fst (s : Session σ) (seq : SequenceId) :
    (s.cancel seq).1 = s.table.isPending seq := by
  rw [PendingTable.isPending]
  cases hf : s.table.find? seq with
  | none => rw [cancel, finish_of_free hf]; rfl
  | some q => rw [cancel_of_pending hf]; rfl

namespace Books

theorem cancel_undecided (hb : s.Books) {seq : SequenceId} (hp : p ∈ s.table.pending)
    (hs : p.seq ≠ seq) : (s.cancel seq).2.Undecided p :=
  (hb.cancel seq).undecided_of_pending (mem_cancel.mpr ⟨hp, hs⟩)

theorem cancel_answers (hb : s.Books) (hp : p ∈ s.table.pending) :
    (s.cancel p.seq).1 = true ∧
      (s.cancel p.seq).2.answer? p.ticket = some (.error (.cancelled p.seq)) := by
  have hnone : s.answers.lookup p.ticket = none :=
    Option.isNone_iff_eq_none.mp (hb.undecided_of_pending hp).2
  rw [cancel_of_pending (hb.sound.find?_of_mem hp)]
  refine ⟨rfl, ?_⟩
  rw [answer?, List.lookup_append, hnone, Option.none_or, List.lookup_cons_self]

theorem isolated_iff (hb : s.Books) (hi : h ∈ s.issued) :
    s.Isolated h ↔ ¬ ∃ p ∈ s.table.pending, p.seq = h.seq ∧ h.ticket < p.ticket := by
  have hspares := hb.spares_iff hi (hb.cancel h.seq) fun p => mem_cancel
  constructor
  · rintro ⟨-, hkeep⟩
    exact hspares.mp fun p hp hne => (hkeep p hp hne).1
  · intro hnone
    constructor
    · intro hc
      have hpending : s.table.isPending h.seq = true := (cancel_fst s h.seq).symm.trans hc
      obtain ⟨p, hp, hs⟩ := PendingTable.isPending_eq_true_iff.mp hpending
      have hown : p.ticket = h.ticket := by
        by_contra hne
        exact hnone ⟨p, hp, hs, hb.lt_of_same_id hp hi hs hne⟩
      exact List.any_eq_true.mpr ⟨p, hp, beq_iff_eq.mpr hown⟩
    · intro p hp hne
      have hkeep := hspares.mpr hnone p hp hne
      exact ⟨hkeep, hkeep⟩

end Books
end Session

namespace Client

open Session

variable {σ : Type}

/-- Whatever has been done with a new session: who drops or cancels a handle hits no request but its
own, unless the id of the handle has been given to a later request that waits. That one is cancelled
then, and all others are left alone. -/
theorem isolated_iff_of_held (T : Transport σ) (settings : SessionSettings) (selector : Selector)
    (pace : Pace) (link : σ) (calls : List (Call σ)) (h : Handle)
    (hm : h ∈ (run T { session := Session.new settings selector pace link } calls).held) :
    let s := (run T { session := Session.new settings selector pace link } calls).session
    (s.Isolated h ↔ ¬ ∃ p ∈ s.table.pending, p.seq = h.seq ∧ h.ticket < p.ticket) ∧
      (∀ p ∈ s.table.pending, p.seq ≠ h.seq →
        (s.cancelHandle h).2.Undecided p ∧ (s.withdraw h).Undecided p) ∧
      ∀ p ∈ s.table.pending, p.seq = h.seq →
        (s.cancelHandle h).1 = true ∧
          (s.cancelHandle h).2.answer? p.ticket = some (.error (.cancelled h.seq)) ∧
          (s.withdraw h).answer? p.ticket = some (.error (.cancelled h.seq)) := by
  intro s
  have hk := (Kept.new settings selector pace link).run T calls
  have hb : s.Books := hk.settled.books
  refine ⟨hb.isolated_iff (hk.untold h (List.mem_append_left _ hm)), ?_, ?_⟩
  · intro p hp hs
    have hkeep := hb.cancel_undecided hp hs
    exact ⟨hkeep, hkeep⟩
  · intro p hp hs
    have hc := hb.cancel_answers hp
    rw [hs] at hc
    exact ⟨hc.1, hc.2, hc.2⟩

/-- A session that has sent a request, has connected anew, and has sent another request. -/
def reconnected : Client Bench :=
  run Bench.transport
    { session := Session.new .standard .standard .stepped (.new SessionSettings.standard.codec) }
    [.connect, .send Opcode.request [0x61], .close, .connect, .send Opcode.request [0x62]]

theorem isolated_iff_of_reconnected :
    (⟨1, 1⟩ : Handle) ∈ reconnected.held ∧
      (reconnected.session.Isolated ⟨1, 1⟩ ↔
        ¬ ∃ p ∈ reconnected.session.table.pending, p.seq = 1 ∧ 1 < p.ticket) := by
  have hm : (⟨1, 1⟩ : Handle) ∈ reconnected.held := by decide +kernel
  exact ⟨hm, (isolated_iff_of_held _ _ _ _ _ _ _ hm).1⟩

/-- The old handle of a session that has connected anew reaches a request that is not its own. -/
theorem reconnected_not_isolated :
    ∃ h ∈ reconnected.held, ¬ reconnected.session.Isolated h := by decide +kernel

end Client
end FrameLink
