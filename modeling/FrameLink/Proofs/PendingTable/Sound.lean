import FrameLink.Session.PendingTable
import Mathlib.Data.List.Nodup
import Mathlib.Data.List.Perm.Subperm

namespace FrameLink.PendingTable

variable {t t' : PendingTable} {seq : SequenceId} {ticket : Ticket} {p : Pending} {now : Nat}
  {outcome : Completion} {e : SessionError}

def due (t : PendingTable) : SequenceId := UInt16.ofNat t.next

def enter (t : PendingTable) (ticket : Ticket) : PendingTable :=
  { t with
    next := (t.next + 1) % t.space
    pending := t.pending ++ [⟨t.due, ticket⟩]
    retired := t.retired.filter fun r => r.seq != t.due }

theorem find?_eq_none_iff : t.find? seq = none ↔ ∀ p ∈ t.pending, p.seq ≠ seq := by
  simp [find?]

theorem mem_of_find? (h : t.find? seq = some p) : p ∈ t.pending := List.mem_of_find?_eq_some h

theorem seq_of_find? (h : t.find? seq = some p) : p.seq = seq := by
  simpa using List.find?_some h

theorem isPending_eq_true_iff : t.isPending seq = true ↔ ∃ p ∈ t.pending, p.seq = seq := by
  simp [isPending, find?]

theorem isPending_eq_false_iff : t.isPending seq = false ↔ ∀ p ∈ t.pending, p.seq ≠ seq := by
  simp [isPending, find?]

theorem register_of_closed (h : t.closed = some e) : t.register ticket = .error e := by
  simp only [register, h]

theorem register_of_pending (h : t.closed = none) (hp : t.isPending t.due = true) :
    t.register ticket = .error (.sequenceSpaceExhausted t.pending.length) := by
  simp only [register, h]
  exact if_pos hp

theorem register_of_free (h : t.closed = none) (hp : t.isPending t.due = false) :
    t.register ticket = .ok (t.due, t.enter ticket) := by
  simp only [register, enter, due, h]
  exact if_neg (Bool.eq_false_iff.mp hp)

/-- A request is refused by a closed table, and while the id that is due next is in use. -/
theorem register_eq_error_iff :
    t.register ticket = .error e ↔
      t.closed = some e ∨ t.closed = none ∧ t.isPending t.due = true ∧
        e = .sequenceSpaceExhausted t.pending.length := by
  cases hc : t.closed with
  | some e' => simp [register_of_closed hc]
  | none =>
    cases hp : t.isPending t.due with
    | true => simp [register_of_pending hc hp, eq_comm]
    | false => simp [register_of_free hc hp]

theorem register_eq_ok_iff :
    t.register ticket = .ok (seq, t') ↔
      t.closed = none ∧ t.isPending t.due = false ∧ seq = t.due ∧ t' = t.enter ticket := by
  cases hc : t.closed with
  | some e' => simp [register_of_closed hc]
  | none =>
    cases hp : t.isPending t.due with
    | true => simp [register_of_pending hc hp]
    | false => simp [register_of_free hc hp, eq_comm]

theorem route_of_pending (now : Nat) (h : t.find? seq = some p) :
    t.route now seq = (.completed p.ticket, (t.prune now).retire seq now .completed) := by
  have hp : (t.prune now).find? seq = some p := h
  simp only [route, hp]

/-- A frame that answers no request changes nothing but what is remembered of the past. -/
theorem route_of_free (now : Nat) (h : t.find? seq = none) :
    ∃ r, t.route now seq = (r, t.prune now) ∧ ∀ ticket, r ≠ .completed ticket := by
  have hp : (t.prune now).find? seq = none := h
  cases hr : (t.prune now).retired.find? fun r => r.seq == seq with
  | some r => exact ⟨.duplicate r.outcome, by simp only [route, hp, hr], nofun⟩
  | none => exact ⟨.unmatched, by simp only [route, hp, hr], nofun⟩

theorem finish_of_pending (h : t.find? seq = some p) :
    t.finish now seq outcome = some (p.ticket, t.retire seq now outcome) := by
  simp only [finish, h, Option.map_some]

theorem finish_of_free (h : t.find? seq = none) : t.finish now seq outcome = none := by
  simp only [finish, h, Option.map_none]

theorem mem_retire {q : Pending} :
    q ∈ (t.retire seq now outcome).pending ↔ q ∈ t.pending ∧ q.seq ≠ seq := by
  rw [retire, List.mem_filter, bne_iff_ne]

/-- What holds of a table at all times. -/
structure Sound (t : PendingTable) : Prop where
  le_space : minSpace ≤ t.space
  space_le : t.space ≤ maxSpace
  next_lt : t.next < t.space
  pending_lt : ∀ p ∈ t.pending, p.seq.toNat < t.space
  retired_lt : ∀ r ∈ t.retired, r.seq.toNat < t.space
  distinct : (t.pending.map Pending.seq).Nodup
  apart : ∀ p ∈ t.pending, ∀ r ∈ t.retired, p.seq ≠ r.seq
  closed : t.closed ≠ none → t.pending = []

namespace Sound

theorem new (space : Nat) (window : Duration) : (PendingTable.new space window).Sound where
  le_space := Nat.le_max_left ..
  space_le := by simp only [PendingTable.new, minSpace, maxSpace]; omega
  next_lt := by simp only [PendingTable.new, minSpace, maxSpace]; omega
  pending_lt := nofun
  retired_lt := nofun
  distinct := List.nodup_nil
  apart := nofun
  closed := fun _ => rfl

theorem toNat_due (h : t.Sound) : t.due.toNat = t.next := by
  have hlt := Nat.lt_of_lt_of_le h.next_lt h.space_le
  exact Nat.mod_eq_of_lt hlt

theorem space_pos (h : t.Sound) : 0 < t.space := Nat.zero_lt_of_lt h.next_lt

theorem reopen (h : t.Sound) : t.reopen.Sound where
  le_space := h.le_space
  space_le := h.space_le
  next_lt := h.space_pos
  pending_lt := nofun
  retired_lt := nofun
  distinct := List.nodup_nil
  apart := nofun
  closed := fun _ => rfl

theorem enter (h : t.Sound) (hc : t.closed = none) (hp : t.isPending t.due = false) :
    (t.enter ticket).Sound where
  le_space := h.le_space
  space_le := h.space_le
  next_lt := Nat.mod_lt _ h.space_pos
  pending_lt := by
    intro p hm
    cases List.mem_append.mp hm with
    | inl hm => exact h.pending_lt p hm
    | inr hm =>
      cases List.mem_singleton.mp hm
      rw [h.toNat_due]
      exact h.next_lt
  retired_lt := fun r hr => h.retired_lt r (List.mem_of_mem_filter hr)
  distinct := by
    rw [PendingTable.enter, List.map_append, List.nodup_append]
    refine ⟨h.distinct, List.nodup_singleton _, ?_⟩
    intro seq hs seq' hs' he
    obtain ⟨p, hm, rfl⟩ := List.mem_map.mp hs
    cases List.mem_singleton.mp hs'
    exact isPending_eq_false_iff.mp hp p hm he
  apart := by
    intro p hm r hr
    obtain ⟨hr, hne⟩ := List.mem_filter.mp hr
    cases List.mem_append.mp hm with
    | inl hm => exact h.apart p hm r hr
    | inr hm =>
      cases List.mem_singleton.mp hm
      exact Ne.symm (bne_iff_ne.mp hne)
  closed := fun hne => absurd hc hne

theorem prune (h : t.Sound) (now : Nat) : (t.prune now).Sound where
  le_space := h.le_space
  space_le := h.space_le
  next_lt := h.next_lt
  pending_lt := h.pending_lt
  retired_lt := fun r hr => h.retired_lt r (List.mem_of_mem_filter hr)
  distinct := h.distinct
  apart := fun p hm r hr => h.apart p hm r (List.mem_of_mem_filter hr)
  closed := h.closed

theorem retire (h : t.Sound) (hp : t.find? seq = some p) (now : Nat) (outcome : Completion) :
    (t.retire seq now outcome).Sound where
  le_space := h.le_space
  space_le := h.space_le
  next_lt := h.next_lt
  pending_lt := fun p hm => h.pending_lt p (List.mem_of_mem_filter hm)
  retired_lt := by
    intro r hr
    cases List.mem_cons.mp hr with
    | inl hr =>
      rw [hr, ← seq_of_find? hp]
      exact h.pending_lt p (mem_of_find? hp)
    | inr hr => exact h.retired_lt r (List.mem_of_mem_filter hr)
  distinct := h.distinct.sublist (List.filter_sublist.map _)
  apart := by
    intro p hm r hr
    obtain ⟨hm, hne⟩ := List.mem_filter.mp hm
    cases List.mem_cons.mp hr with
    | inl hr => rw [hr]; exact bne_iff_ne.mp hne
    | inr hr => exact h.apart p hm r (List.mem_of_mem_filter hr)
  closed := fun hne => by rw [PendingTable.retire, h.closed hne, List.filter_nil]

theorem failAll (h : t.Sound) (e : SessionError) : (t.failAll e).2.Sound where
  le_space := h.le_space
  space_le := h.space_le
  next_lt := h.next_lt
  pending_lt := nofun
  retired_lt := h.retired_lt
  distinct := List.nodup_nil
  apart := nofun
  closed := fun _ => rfl

theorem find?_of_mem (h : t.Sound) (hm : p ∈ t.pending) : t.find? p.seq = some p := by
  cases hf : t.find? p.seq with
  | none => exact absurd rfl (find?_eq_none_iff.mp hf p hm)
  | some q =>
    have hq := mem_of_find? hf
    rw [List.inj_on_of_nodup_map h.distinct hq hm (seq_of_find? hf)]

theorem length_pending_le (h : t.Sound) : t.pending.length ≤ t.space := by
  have hn : (t.pending.map fun p => p.seq.toNat).Nodup := by
    have hm : t.pending.map (fun p => p.seq.toNat) = (t.pending.map Pending.seq).map UInt16.toNat := by
      rw [List.map_map]
      rfl
    rw [hm]
    exact h.distinct.map fun _ _ => UInt16.toNat_inj.mp
  have hsub : (t.pending.map fun p => p.seq.toNat) ⊆ List.range t.space := by
    intro n hn
    obtain ⟨p, hp, rfl⟩ := List.mem_map.mp hn
    exact List.mem_range.mpr (h.pending_lt p hp)
  have hlen := (hn.subperm hsub).length_le
  rwa [List.length_map, List.length_range] at hlen

end Sound
end FrameLink.PendingTable
