import FrameLink.Proofs.PendingTable.Calls
import FrameLink.Proofs.PendingTable.Marks

namespace FrameLink.PendingTable

/-- What a table tells of its ids. -/
inductive Report where
  | issued (p : Pending)
  | left (r : Retired)
  | drained
deriving DecidableEq

namespace Report

/-- Whoever had this id does not have it any more. -/
def Frees (seq : SequenceId) : Report → Prop
  | issued _ => False
  | left r => r.seq = seq
  | drained => True

def Names (seq : SequenceId) : Report → Prop
  | issued p => p.seq = seq
  | left r => r.seq = seq
  | drained => False

end Report

variable {t : PendingTable} {past : List Report} {x y : Report} {P : Report → Prop} {p : Pending}
  {r r' : Retired} {seq : SequenceId} {ticket : Ticket} {now later : Nat} {outcome : Completion}

def Since (x : Report) (P : Report → Prop) (past : List Report) : Prop :=
  ∃ later earlier, past = later ++ x :: earlier ∧ ∀ y ∈ later, P y

theorem not_since_nil : ¬ Since x P [] := by
  rintro ⟨later, earlier, h, -⟩
  cases (List.append_eq_nil_iff.mp h.symm).2

theorem since_cons : Since x P (y :: past) ↔ y = x ∨ P y ∧ Since x P past := by
  constructor
  · rintro ⟨later, earlier, h, hall⟩
    cases later with
    | nil => exact .inl (List.cons.inj h).1
    | cons z later =>
      obtain ⟨rfl, hrest⟩ := List.cons.inj h
      obtain ⟨hy, hlater⟩ := List.forall_mem_cons.mp hall
      exact .inr ⟨hy, later, earlier, hrest, hlater⟩
  · rintro (rfl | ⟨hy, later, earlier, rfl, hlater⟩)
    · exact ⟨[], past, rfl, List.forall_mem_nil _⟩
    · exact ⟨y :: later, earlier, rfl, List.forall_mem_cons.mpr ⟨hy, hlater⟩⟩

def Waits (past : List Report) (p : Pending) : Prop :=
  Since (.issued p) (fun y => ¬ y.Frees p.seq) past

/-- The id left in this way when it left last, and has not been given out since. -/
def LastLeft (past : List Report) (r : Retired) : Prop :=
  Since (.left r) (fun y => ¬ y.Names r.seq) past

theorem waits_issued {q : Pending} : Waits (.issued q :: past) p ↔ q = p ∨ Waits past p := by
  simp [Waits, since_cons, Report.Frees]

theorem waits_left : Waits (.left r :: past) p ↔ r.seq ≠ p.seq ∧ Waits past p := by
  simp [Waits, since_cons, Report.Frees]

theorem not_waits_drained : ¬ Waits (.drained :: past) p := by
  simp [Waits, since_cons, Report.Frees]

theorem lastLeft_issued : LastLeft (.issued p :: past) r ↔ p.seq ≠ r.seq ∧ LastLeft past r := by
  simp [LastLeft, since_cons, Report.Names]

theorem lastLeft_left :
    LastLeft (.left r' :: past) r ↔ r' = r ∨ r'.seq ≠ r.seq ∧ LastLeft past r := by
  simp [LastLeft, since_cons, Report.Names]

theorem lastLeft_drained : LastLeft (.drained :: past) r ↔ LastLeft past r := by
  simp [LastLeft, since_cons, Report.Names]

/-- An id has left last but once. -/
theorem LastLeft.unique (h : LastLeft past r) (h' : LastLeft past r') (he : r.seq = r'.seq) :
    r = r' := by
  induction past with
  | nil => exact absurd h not_since_nil
  | cons y past ih =>
    cases y with
    | issued p => exact ih (lastLeft_issued.mp h).2 (lastLeft_issued.mp h').2
    | drained => exact ih (lastLeft_drained.mp h) (lastLeft_drained.mp h')
    | left q =>
      obtain rfl | ⟨hne, h⟩ := lastLeft_left.mp h
      · obtain rfl | ⟨hne, -⟩ := lastLeft_left.mp h'
        · rfl
        · exact absurd he hne
      · obtain rfl | ⟨-, h'⟩ := lastLeft_left.mp h'
        · exact absurd he.symm hne
        · exact ih h h'

/-- The table knows of its past whatever matters now: who waits, and how each id left last, unless
that was too long ago. -/
structure Faithful (t : PendingTable) (past : List Report) (now : Nat) : Prop where
  sound : t.Sound
  pending : ∀ p, p ∈ t.pending ↔ Waits past p
  retired : ∀ r ∈ t.retired, LastLeft past r
  remembered : ∀ r, LastLeft past r → r ∈ t.retired ∨ t.window.nanos < now - r.since

namespace Faithful

theorem of_closed (hs : t.Sound) (hp : t.pending = []) (hr : t.retired = []) (now : Nat) :
    Faithful t [] now where
  sound := hs
  pending := fun p => by
    rw [hp]
    exact iff_of_false List.not_mem_nil not_since_nil
  retired := fun r hm => absurd (hr ▸ hm) List.not_mem_nil
  remembered := fun r h => absurd h not_since_nil

theorem mono (h : Faithful t past now) (hle : now ≤ later) : Faithful t past later where
  sound := h.sound
  pending := h.pending
  retired := h.retired
  remembered := fun r hr => (h.remembered r hr).imp_right fun hold => by omega

theorem prune (h : Faithful t past now) : Faithful (t.prune now) past now where
  sound := h.sound.prune now
  pending := h.pending
  retired := fun r hm => h.retired r (List.mem_of_mem_filter hm)
  remembered := by
    intro r hr
    by_cases hyoung : now - r.since ≤ t.window.nanos
    · refine (h.remembered r hr).imp_left fun hm => ?_
      exact List.mem_filter.mpr ⟨hm, decide_eq_true hyoung⟩
    · exact .inr (Nat.lt_of_not_le hyoung)

theorem enter (h : Faithful t past now) (hc : t.closed = none)
    (hp : t.isPending t.due = false) (ticket : Ticket) :
    Faithful (t.enter ticket) (.issued ⟨t.due, ticket⟩ :: past) now where
  sound := h.sound.enter hc hp
  pending := by
    intro p
    rw [waits_issued, ← h.pending, PendingTable.enter, List.mem_append, List.mem_singleton, or_comm,
      eq_comm]
  retired := by
    intro r hm
    obtain ⟨hm, hne⟩ := List.mem_filter.mp hm
    exact lastLeft_issued.mpr ⟨Ne.symm (bne_iff_ne.mp hne), h.retired r hm⟩
  remembered := by
    intro r hr
    obtain ⟨hne, hr⟩ := lastLeft_issued.mp hr
    refine (h.remembered r hr).imp_left fun hm => ?_
    exact List.mem_filter.mpr ⟨hm, bne_iff_ne.mpr (Ne.symm hne)⟩

theorem retire (h : Faithful t past now) (hp : t.find? seq = some p) (outcome : Completion) :
    Faithful (t.retire seq now outcome) (.left ⟨seq, now, outcome⟩ :: past) now where
  sound := h.sound.retire hp now outcome
  pending := by
    intro q
    rw [waits_left, ← h.pending, mem_retire, and_comm, ne_comm]
  retired := by
    intro r hm
    rw [lastLeft_left]
    obtain rfl | hm := List.mem_cons.mp hm
    · exact .inl rfl
    · obtain ⟨hm, hne⟩ := List.mem_filter.mp hm
      exact .inr ⟨Ne.symm (bne_iff_ne.mp hne), h.retired r hm⟩
  remembered := by
    intro r hr
    obtain rfl | ⟨hne, hr⟩ := lastLeft_left.mp hr
    · exact .inl List.mem_cons_self
    · refine (h.remembered r hr).imp_left fun hm => List.mem_cons_of_mem _ ?_
      exact List.mem_filter.mpr ⟨hm, bne_iff_ne.mpr (Ne.symm hne)⟩

theorem failAll (h : Faithful t past now) (e : SessionError) :
    Faithful (t.failAll e).2 (.drained :: past) now where
  sound := h.sound.failAll e
  pending := fun _ => iff_of_false List.not_mem_nil not_waits_drained
  retired := fun r hm => lastLeft_drained.mpr (h.retired r hm)
  remembered := fun r hr => h.remembered r (lastLeft_drained.mp hr)

theorem isPending_iff (h : Faithful t past now) :
    t.isPending seq = true ↔ ∃ ticket, Waits past ⟨seq, ticket⟩ := by
  rw [isPending_eq_true_iff]
  constructor
  · rintro ⟨⟨_, ticket⟩, hm, rfl⟩
    exact ⟨ticket, (h.pending _).mp hm⟩
  · rintro ⟨ticket, hw⟩
    exact ⟨_, (h.pending _).mpr hw, rfl⟩

theorem route_eq_completed_iff (h : Faithful t past now) :
    (t.route now seq).1 = .completed ticket ↔ Waits past ⟨seq, ticket⟩ := by
  rw [← h.pending]
  constructor
  · intro hr
    cases hf : t.find? seq with
    | some p =>
      rw [route_of_pending now hf] at hr
      cases hr
      rw [← seq_of_find? hf]
      exact mem_of_find? hf
    | none =>
      obtain ⟨r, hr', hne⟩ := route_of_free now hf
      rw [hr'] at hr
      exact absurd hr (hne ticket)
  · intro hm
    rw [route_of_pending now (h.sound.find?_of_mem hm)]

/-- What the table remembers of an id is how it left last, if that was not too long ago. -/
theorem outcome?_eq_some_iff (h : Faithful t past now) :
    (t.prune now).outcome? seq = some outcome ↔
      ∃ since, LastLeft past ⟨seq, since, outcome⟩ ∧ now - since ≤ t.window.nanos := by
  constructor
  · intro ho
    obtain ⟨⟨seq', since, _⟩, hr, rfl⟩ := Option.map_eq_some_iff.mp ho
    obtain ⟨hm, hyoung⟩ := List.mem_filter.mp (List.mem_of_find?_eq_some hr)
    obtain rfl : seq' = seq := by simpa using List.find?_some hr
    exact ⟨since, h.retired _ hm, of_decide_eq_true hyoung⟩
  · rintro ⟨since, hlast, hyoung⟩
    have hm : ⟨seq, since, outcome⟩ ∈ t.retired :=
      (h.remembered _ hlast).resolve_right (Nat.not_lt.mpr hyoung)
    have hkept : ⟨seq, since, outcome⟩ ∈ (t.prune now).retired :=
      List.mem_filter.mpr ⟨hm, decide_eq_true hyoung⟩
    obtain ⟨r, hr⟩ : ∃ r, (t.prune now).retired.find? (fun r => r.seq == seq) = some r :=
      Option.isSome_iff_exists.mp (List.find?_isSome.mpr ⟨_, hkept, beq_self_eq_true seq⟩)
    have hfound : LastLeft past r := h.prune.retired r (List.mem_of_find?_eq_some hr)
    have hseq : r.seq = seq := by simpa using List.find?_some hr
    rw [outcome?, hr, hfound.unique hlast hseq]
    rfl

end Faithful

def Op.time? : Op → Option Nat
  | .route now _ => some now
  | .finish now _ _ => some now
  | _ => none

namespace History

variable {u : History} {op : Op} {ops : List Op}

/-- The past of a table when a call has been made. What was before it was opened does not count. -/
def tell (u : History) (past : List Report) : Op → List Report
  | .reopen => []
  | .register ticket =>
    match u.table.register ticket with
    | .ok (seq, _) => .issued ⟨seq, ticket⟩ :: past
    | .error _ => past
  | .route now f =>
    match (u.table.route now f.seq).1 with
    | .completed _ => .left ⟨f.seq, now, .completed⟩ :: past
    | _ => past
  | .finish now seq outcome =>
    if (u.table.finish now seq outcome).isSome then .left ⟨seq, now, outcome⟩ :: past else past
  | .failAll _ => .drained :: past

def told (u : History) (past : List Report) : List Op → List Report
  | [] => past
  | op :: ops => told (u.perform op) (u.tell past op) ops

theorem faithful_perform (h : Faithful u.table past now)
    (hle : ∀ time, op.time? = some time → now ≤ time) :
    Faithful (u.perform op).table (u.tell past op) (op.time?.getD now) := by
  cases op with
  | reopen => exact .of_closed h.sound.reopen rfl rfl now
  | register ticket =>
    rw [perform, tell]
    cases hr : u.table.register ticket with
    | error e => exact h
    | ok given =>
      obtain ⟨seq, table⟩ := given
      obtain ⟨hc, hp, rfl, rfl⟩ := register_eq_ok_iff.mp hr
      exact h.enter hc hp ticket
  | route time f =>
    have h' := h.mono (hle time rfl)
    rw [perform, tell]
    cases hf : u.table.find? f.seq with
    | some p =>
      rw [route_of_pending time hf]
      exact h'.prune.retire hf .completed
    | none =>
      obtain ⟨r, hr, hne⟩ := route_of_free time hf
      rw [hr]
      cases r with
      | completed ticket => exact absurd rfl (hne ticket)
      | duplicate _ => exact h'.prune
      | unmatched => exact h'.prune
  | finish time seq outcome =>
    have h' := h.mono (hle time rfl)
    rw [perform, tell]
    cases hf : u.table.find? seq with
    | some p =>
      rw [finish_of_pending hf]
      exact h'.retire hf outcome
    | none =>
      rw [finish_of_free hf]
      exact h'
  | failAll e => exact h.failAll e

theorem window_perform (u : History) (op : Op) : (u.perform op).table.window = u.table.window := by
  cases op with
  | reopen | failAll e => rfl
  | register ticket =>
    rw [perform]
    cases hr : u.table.register ticket with
    | error e => rfl
    | ok given =>
      obtain ⟨seq, table⟩ := given
      obtain ⟨-, -, -, rfl⟩ := register_eq_ok_iff.mp hr
      rfl
  | route time f =>
    rw [perform]
    cases hf : u.table.find? f.seq with
    | some p =>
      rw [route_of_pending time hf]
      rfl
    | none =>
      obtain ⟨r, hr, -⟩ := route_of_free time hf
      rw [hr]
      rfl
  | finish time seq outcome =>
    rw [perform]
    cases hf : u.table.find? seq with
    | some p =>
      rw [finish_of_pending hf]
      rfl
    | none => rw [finish_of_free hf]

theorem window_run (u : History) (ops : List Op) : (u.run ops).table.window = u.table.window := by
  induction ops generalizing u with
  | nil => rfl
  | cons op ops ih => exact (ih _).trans (window_perform u op)

/-- Whatever is asked of a table, at times that never go back, it stays faithful to its past. -/
theorem faithful_run (h : Faithful u.table past now)
    (hs : (now :: (ops.filterMap Op.time? ++ [later])).Pairwise (· ≤ ·)) :
    Faithful (u.run ops).table (u.told past ops) later := by
  induction ops generalizing u past now with
  | nil => exact h.mono (List.rel_of_pairwise_cons hs List.mem_cons_self)
  | cons op ops ih =>
    -- a call that tells no time is made at the time of the call before it
    have htimes : (∀ time, op.time? = some time → now ≤ time) ∧
        (op.time?.getD now :: (ops.filterMap Op.time? ++ [later])).Pairwise (· ≤ ·) := by
      cases ht : op.time? with
      | none =>
        rw [List.filterMap_cons_none ht] at hs
        exact ⟨nofun, hs⟩
      | some time =>
        rw [List.filterMap_cons_some ht, List.cons_append, List.pairwise_cons] at hs
        refine ⟨fun time' he => ?_, hs.2⟩
        cases he
        exact hs.1 time List.mem_cons_self
    exact ih (faithful_perform h htimes.1) htimes.2

end History
end FrameLink.PendingTable
