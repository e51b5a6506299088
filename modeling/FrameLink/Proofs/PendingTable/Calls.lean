import FrameLink.Proofs.PendingTable.Sound

namespace FrameLink.PendingTable

inductive Op where
  | reopen
  | register (ticket : Ticket)
  | route (now : Nat) (f : Frame)
  | finish (now : Nat) (seq : SequenceId) (outcome : Completion)
  | failAll (e : SessionError)

/-- A table in use, and the ids that it has given out since it was last opened, in that order. -/
structure History where
  table : PendingTable
  given : List SequenceId := []

namespace History

def perform (u : History) : Op → History
  | .reopen => { table := u.table.reopen }
  | .register ticket =>
    match u.table.register ticket with
    | .ok (seq, table) => { table := table, given := u.given ++ [seq] }
    | .error _ => u
  | .route now f => { u with table := (u.table.route now f.seq).2 }
  | .finish now seq outcome =>
    match u.table.finish now seq outcome with
    | some (_, table) => { u with table := table }
    | none => u
  | .failAll e => { u with table := (u.table.failAll e).2 }

def run (u : History) (ops : List Op) : History := ops.foldl perform u

theorem perform_register_of_error {u : History} {ticket : Ticket} {e : SessionError}
    (h : u.table.register ticket = .error e) : u.perform (.register ticket) = u := by
  simp only [perform, h]

theorem perform_register_of_ok {u : History} {ticket : Ticket} {seq : SequenceId}
    {table : PendingTable} (h : u.table.register ticket = .ok (seq, table)) :
    u.perform (.register ticket) = ⟨table, u.given ++ [seq]⟩ := by
  simp only [perform, h]

/-- The table is sound, and it has given out its ids in order around the circle. -/
structure Lawful (space : Nat) (u : History) : Prop where
  space_eq : u.table.space = space
  sound : u.table.Sound
  next : u.table.next = u.given.length % space
  given : ∀ (n : Nat) (h : n < u.given.length), u.given[n].toNat = n % space

namespace Lawful

variable {space : Nat} {u : History}

theorem of_table (h : Lawful space u) {table : PendingTable} (hs : table.Sound)
    (hspace : table.space = u.table.space) (hnext : table.next = u.table.next) :
    Lawful space { u with table := table } where
  space_eq := hspace.trans h.space_eq
  sound := hs
  next := hnext.trans h.next
  given := h.given

theorem reopen (h : Lawful space u) : Lawful space { table := u.table.reopen } where
  space_eq := h.space_eq
  sound := h.sound.reopen
  next := (Nat.zero_mod space).symm
  given := nofun

theorem enter (h : Lawful space u) (ticket : Ticket) (hc : u.table.closed = none)
    (hp : u.table.isPending u.table.due = false) :
    Lawful space ⟨u.table.enter ticket, u.given ++ [u.table.due]⟩ where
  space_eq := h.space_eq
  sound := h.sound.enter hc hp
  next := by
    have hn : (u.table.next + 1) % u.table.space = (u.given ++ [u.table.due]).length % space := by
      rw [List.length_append, List.length_singleton, h.next, h.space_eq, Nat.mod_add_mod]
    exact hn
  given := by
    intro n hn
    rw [List.length_append, List.length_singleton] at hn
    by_cases hlt : n < u.given.length
    · simp only [List.getElem_append_left hlt]
      exact h.given n hlt
    · have hlast : n = u.given.length := by omega
      subst hlast
      simp only [List.getElem_concat_length]
      rw [h.sound.toNat_due, h.next]

theorem perform (h : Lawful space u) (op : Op) : Lawful space (u.perform op) := by
  cases op with
  | reopen => exact h.reopen
  | register ticket =>
    cases hr : u.table.register ticket with
    | error e => rwa [perform_register_of_error hr]
    | ok given =>
      obtain ⟨seq, table⟩ := given
      obtain ⟨hc, hp, rfl, rfl⟩ := register_eq_ok_iff.mp hr
      rw [perform_register_of_ok hr]
      exact h.enter ticket hc hp
  | route now f =>
    rw [History.perform]
    cases hf : u.table.find? f.seq with
    | some p =>
      rw [route_of_pending now hf]
      exact h.of_table ((h.sound.prune now).retire hf now .completed) rfl rfl
    | none =>
      obtain ⟨r, hr, -⟩ := route_of_free now hf
      rw [hr]
      exact h.of_table (h.sound.prune now) rfl rfl
  | finish now seq outcome =>
    rw [History.perform]
    cases hf : u.table.find? seq with
    | some p =>
      rw [finish_of_pending hf]
      exact h.of_table (h.sound.retire hf now outcome) rfl rfl
    | none => rwa [finish_of_free hf]
  | failAll e => exact h.of_table (h.sound.failAll e) rfl rfl

theorem run (h : Lawful space u) (ops : List Op) : Lawful space (u.run ops) := by
  induction ops generalizing u with
  | nil => exact h
  | cons op ops ih => exact ih (h.perform op)

end Lawful

theorem lawful_new (space : Nat) (window : Duration) :
    Lawful (max minSpace (min space maxSpace)) { table := PendingTable.new space window } where
  space_eq := rfl
  sound := .new space window
  next := (Nat.zero_mod _).symm
  given := nofun

/-- Whatever is asked of a new table: since it was last opened it has given out the ids in order
around the circle, none of them skipped. It refuses a request just when it is closed, or when the id
that is due is still in use, and a refusal changes nothing. All ids that it knows lie on the circle,
none is both in use and remembered, and a closed table has none in use. -/
theorem run_new_lawful (space : Nat) (window : Duration) (ops : List Op) :
    let u := run { table := PendingTable.new space window } ops
    let t := u.table
    let due := u.given.length % t.space
    t.space = max 2 (min space 65536) ∧
    (∀ (n : Nat) (h : n < u.given.length), u.given[n].toNat = n % t.space) ∧
    (∀ ticket seq t', t.register ticket = .ok (seq, t') →
      seq.toNat = due ∧ u.perform (.register ticket) = ⟨t', u.given ++ [seq]⟩) ∧
    (∀ ticket e, t.register ticket = .error e ↔
      t.closed = some e ∨ t.closed = none ∧ t.isPending (UInt16.ofNat due) = true ∧
        e = .sequenceSpaceExhausted t.pending.length) ∧
    (∀ ticket e, t.register ticket = .error e → u.perform (.register ticket) = u) ∧
    t.next < t.space ∧
    (∀ p ∈ t.pending, p.seq.toNat < t.space) ∧ (∀ r ∈ t.retired, r.seq.toNat < t.space) ∧
    (∀ p ∈ t.pending, ∀ r ∈ t.retired, p.seq ≠ r.seq) ∧
    (t.pending.map Pending.seq).Nodup ∧ t.pending.length ≤ t.space ∧
    (t.closed ≠ none → t.pending = []) := by
  intro u t due
  have h : Lawful (max minSpace (min space maxSpace)) u := (lawful_new space window).run ops
  have hdue : t.next = due := by rw [h.next, ← h.space_eq]
  refine ⟨h.space_eq, ?_, ?_, ?_, fun _ _ => perform_register_of_error, h.sound.next_lt,
    h.sound.pending_lt, h.sound.retired_lt, h.sound.apart, h.sound.distinct,
    h.sound.length_pending_le, h.sound.closed⟩
  · rw [h.space_eq]
    exact h.given
  · intro ticket seq t' hr
    obtain ⟨-, -, rfl, -⟩ := register_eq_ok_iff.mp hr
    exact ⟨h.sound.toNat_due.trans hdue, perform_register_of_ok hr⟩
  · intro ticket e
    rw [← hdue]
    exact register_eq_error_iff

end History
end FrameLink.PendingTable
