import FrameLink.Proofs.PendingTable.Sound

namespace FrameLink.PendingTable

variable {t : PendingTable} {seq other : SequenceId} {p : Pending} {now later : Nat}
  {outcome : Completion}

def outcome? (t : PendingTable) (seq : SequenceId) : Option Completion :=
  (t.retired.find? fun r => r.seq == seq).map Retired.outcome

/-- Whoever is remembered at one time still is at another one. -/
def Keeps (t : PendingTable) (now later : Nat) : Prop :=
  ∀ r ∈ t.retired, now - r.since ≤ t.window.nanos → later - r.since ≤ t.window.nanos

instance (t : PendingTable) (now later : Nat) : Decidable (t.Keeps now later) :=
  inferInstanceAs (Decidable (∀ r ∈ _, _))

theorem Keeps.prune_eq (h : t.Keeps now later) (hle : now ≤ later) : t.prune later = t.prune now := by
  have hr : t.retired.filter (fun r => later - r.since ≤ t.window.nanos) =
      t.retired.filter (fun r => now - r.since ≤ t.window.nanos) := by
    refine List.filter_congr fun r hr => decide_eq_decide.mpr ⟨fun hlater => ?_, h r hr⟩
    omega
  rw [prune, hr, prune]

theorem prune_eq_self (h : ∀ r ∈ t.retired, now - r.since ≤ t.window.nanos) : t.prune now = t := by
  rw [prune, List.filter_eq_self.mpr fun r hr => decide_eq_true (h r hr)]

theorem prune_prune (t : PendingTable) (now : Nat) : (t.prune now).prune now = t.prune now :=
  prune_eq_self fun _ hr => of_decide_eq_true (List.mem_filter.mp hr).2

theorem prune_retire (t : PendingTable) (seq : SequenceId) (now : Nat) (outcome : Completion) :
    ((t.prune now).retire seq now outcome).prune now = (t.prune now).retire seq now outcome := by
  refine prune_eq_self fun r hr => ?_
  cases List.mem_cons.mp hr with
  | inl hr =>
    rw [hr, Nat.sub_self]
    exact Nat.zero_le _
  | inr hr => exact of_decide_eq_true (List.mem_filter.mp (List.mem_of_mem_filter hr)).2

theorem prune_route (t : PendingTable) (now : Nat) (seq : SequenceId) :
    (t.route now seq).2.prune now = (t.route now seq).2 := by
  cases hf : t.find? seq with
  | some p =>
    rw [route_of_pending now hf]
    exact prune_retire t seq now .completed
  | none =>
    obtain ⟨r, hr, -⟩ := route_of_free now hf
    rw [hr]
    exact prune_prune t now

theorem route_of_remembered (hf : t.find? seq = none) (ho : (t.prune now).outcome? seq = some outcome) :
    t.route now seq = (.duplicate outcome, t.prune now) := by
  have hp : (t.prune now).find? seq = none := hf
  obtain ⟨r, hr, rfl⟩ := Option.map_eq_some_iff.mp ho
  simp only [route, hp, hr]

theorem route_of_forgotten (hf : t.find? seq = none) (ho : (t.prune now).outcome? seq = none) :
    t.route now seq = (.unmatched, t.prune now) := by
  have hp : (t.prune now).find? seq = none := hf
  have hr := Option.map_eq_none_iff.mp ho
  simp only [route, hp, hr]

theorem route_eq_unmatched_iff :
    (t.route now seq).1 = .unmatched ↔ t.find? seq = none ∧ (t.prune now).outcome? seq = none := by
  cases hf : t.find? seq with
  | some p =>
    rw [route_of_pending now hf]
    exact iff_of_false nofun fun h => nomatch h.1
  | none =>
    rw [eq_self, true_and]
    cases ho : (t.prune now).outcome? seq with
    | some outcome =>
      rw [route_of_remembered hf ho]
      exact iff_of_false nofun nofun
    | none =>
      rw [route_of_forgotten hf ho]
      exact iff_of_true rfl rfl

theorem route_eq_duplicate_iff :
    (t.route now seq).1 = .duplicate outcome ↔
      t.find? seq = none ∧ (t.prune now).outcome? seq = some outcome := by
  cases hf : t.find? seq with
  | some p =>
    rw [route_of_pending now hf]
    exact iff_of_false nofun fun h => nomatch h.1
  | none =>
    rw [eq_self, true_and]
    cases ho : (t.prune now).outcome? seq with
    | some outcome =>
      rw [route_of_remembered hf ho]
      simp
    | none =>
      rw [route_of_forgotten hf ho]
      exact iff_of_false nofun nofun

/-- What is made of a frame depends on the requests that wait, and on what is remembered of its
id. -/
theorem route_congr {t' : PendingTable} {later : Nat} (hp : t'.pending = t.pending)
    (ho : (t'.prune later).outcome? seq = (t.prune now).outcome? seq) :
    (t'.route later seq).1 = (t.route now seq).1 := by
  have hfind : t'.find? seq = t.find? seq := by rw [find?, hp, find?]
  cases hf : t.find? seq with
  | some p => rw [route_of_pending now hf, route_of_pending later (hfind.trans hf)]
  | none =>
    cases hs : (t.prune now).outcome? seq with
    | some outcome =>
      rw [route_of_remembered hf hs, route_of_remembered (hfind.trans hf) (ho.trans hs)]
    | none => rw [route_of_forgotten hf hs, route_of_forgotten (hfind.trans hf) (ho.trans hs)]

theorem route_prune_of_le (hle : now ≤ later) (seq : SequenceId) :
    ((t.prune now).route later seq).1 = (t.route later seq).1 := by
  have he : (t.prune now).prune later = t.prune later := by
    rw [prune, prune, prune, List.filter_filter]
    refine congrArg (PendingTable.mk _ _ _ _ · _) (List.filter_congr fun r _ => ?_)
    rw [← Bool.decide_and]
    refine decide_eq_decide.mpr (and_iff_left_of_imp fun h => ?_)
    dsimp only at h
    omega
  exact route_congr rfl (congrArg (outcome? · seq) he)

/-- It makes no difference to a frame that other ids are forgotten than its own. -/
theorem route_prune_of_young
    (hyoung : ∀ r ∈ t.retired, r.seq = seq → now - r.since ≤ t.window.nanos) (later : Nat) :
    ((t.prune now).route later seq).1 = (t.route later seq).1 := by
  refine route_congr rfl ?_
  rw [outcome?, outcome?, ← List.head?_filter, ← List.head?_filter, prune, prune, prune,
    List.filter_filter, List.filter_filter, List.filter_filter]
  refine congrArg (fun marks => (List.head? marks).map Retired.outcome) ?_
  refine List.filter_congr fun r hr => ?_
  by_cases he : r.seq = seq
  · simp [he, hyoung r hr he]
  · simp [he]

theorem find?_filter_seq (t : PendingTable) (ids : List SequenceId) (seq : SequenceId) :
    (t.pending.filter fun p => p.seq ∉ ids).find? (fun p => p.seq == seq) =
      if seq ∈ ids then none else t.find? seq := by
  split
  · next hm =>
    refine List.find?_eq_none.mpr fun p hp he => ?_
    rw [← beq_iff_eq.mp he] at hm
    exact of_decide_eq_true (List.mem_filter.mp hp).2 hm
  · next hn =>
    rw [find?, ← List.head?_filter, ← List.head?_filter, List.filter_filter]
    refine congrArg _ (List.filter_congr fun p _ => ?_)
    by_cases he : p.seq = seq
    · rw [he, decide_eq_true hn, Bool.and_true]
    · rw [beq_false_of_ne he, Bool.false_and]

theorem pending_route (t : PendingTable) (now : Nat) (seq : SequenceId) :
    (t.route now seq).2.pending = t.pending.filter fun p => p.seq ≠ seq := by
  cases hf : t.find? seq with
  | some p =>
    rw [route_of_pending now hf]
    exact List.filter_congr fun p _ => (decide_not ..).symm
  | none =>
    obtain ⟨r, hr, -⟩ := route_of_free now hf
    rw [hr]
    refine (List.filter_eq_self.mpr fun p hp => ?_).symm
    exact decide_eq_true (find?_eq_none_iff.mp hf p hp)

theorem outcome?_retire (t : PendingTable) (seq : SequenceId) (now : Nat) (outcome : Completion) :
    (t.retire seq now outcome).outcome? other =
      if other = seq then some outcome else t.outcome? other := by
  rw [outcome?, retire, List.find?_cons]
  dsimp only
  by_cases he : other = seq
  · rw [if_pos he, he, beq_self_eq_true]
    rfl
  · rw [if_neg he, beq_false_of_ne (Ne.symm he), outcome?, ← List.head?_filter, ← List.head?_filter,
      List.filter_filter]
    refine congrArg (fun marks => (List.head? marks).map Retired.outcome) ?_
    refine List.filter_congr fun r _ => ?_
    by_cases hr : r.seq = other
    · rw [hr, bne_iff_ne.mpr he, Bool.and_true]
    · rw [beq_false_of_ne hr, Bool.false_and]

theorem outcome?_route (t : PendingTable) (now : Nat) (seq other : SequenceId) :
    (t.route now seq).2.outcome? other =
      if other = seq ∧ t.isPending seq = true then some .completed
      else (t.prune now).outcome? other := by
  cases hf : t.find? seq with
  | some p =>
    rw [route_of_pending now hf, outcome?_retire]
    have hp : t.isPending seq = true := by rw [isPending, hf]; rfl
    simp only [hp, and_true]
  | none =>
    obtain ⟨r, hr, -⟩ := route_of_free now hf
    have hp : t.isPending seq = false := by rw [isPending, hf]; rfl
    rw [hr, hp, if_neg (fun h => Bool.false_ne_true h.2)]

/-- The table with the marks that are still remembered, whoever made them when. -/
def ageless (t : PendingTable) (now : Nat) : PendingTable :=
  { t with retired := (t.prune now).retired.map fun r => { r with since := 0 } }

theorem Keeps.ageless_eq (h : t.Keeps now later) (hle : now ≤ later) :
    t.ageless later = t.ageless now := by
  rw [ageless, h.prune_eq hle, ageless]

theorem prune_ageless (t : PendingTable) (now : Nat) : (t.ageless now).prune 0 = t.ageless now :=
  prune_eq_self fun _ _ => by rw [Nat.zero_sub]; exact Nat.zero_le _

theorem ageless_prune (t : PendingTable) (now : Nat) : (t.prune now).ageless now = t.ageless now := by
  rw [ageless, prune_prune, ageless]
  rfl

theorem outcome?_ageless (t : PendingTable) (now : Nat) (seq : SequenceId) :
    (t.ageless now).outcome? seq = (t.prune now).outcome? seq := by
  rw [outcome?, ageless, List.find?_map, Option.map_map, outcome?]
  rfl

theorem ageless_retire (t : PendingTable) (seq : SequenceId) (now : Nat) (outcome : Completion) :
    ((t.prune now).retire seq now outcome).ageless now = (t.ageless now).retire seq 0 outcome := by
  rw [ageless, prune_retire, retire, retire, ageless, List.map_cons, List.filter_map]
  rfl

/-- What is made of a frame depends on the marks that are still remembered, not on their times. -/
theorem route_ageless (t : PendingTable) (now : Nat) (seq : SequenceId) :
    (t.ageless now).route 0 seq = ((t.route now seq).1, (t.route now seq).2.ageless now) := by
  cases hf : t.find? seq with
  | some p =>
    have hf' : (t.ageless now).find? seq = some p := hf
    rw [route_of_pending now hf, route_of_pending 0 hf', prune_ageless, ageless_retire]
  | none =>
    have hf' : (t.ageless now).find? seq = none := hf
    have ho' : ((t.ageless now).prune 0).outcome? seq = (t.prune now).outcome? seq := by
      rw [prune_ageless, outcome?_ageless]
    cases ho : (t.prune now).outcome? seq with
    | some outcome =>
      rw [route_of_remembered hf ho, route_of_remembered hf' (ho'.trans ho), prune_ageless,
        ageless_prune]
    | none =>
      rw [route_of_forgotten hf ho, route_of_forgotten hf' (ho'.trans ho), prune_ageless,
        ageless_prune]

end FrameLink.PendingTable
