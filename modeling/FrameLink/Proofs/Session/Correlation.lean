import FrameLink.Proofs.PendingTable.Marks
import FrameLink.Proofs.Session.Faults
import FrameLink.Proofs.Session.Turns

namespace FrameLink

/-- Two lists hold the same frames, those with the same id in the same order. -/
def Reordered (xs ys : List Frame) : Prop :=
  ∀ seq, xs.filter (fun f => f.seq == seq) = ys.filter (fun f => f.seq == seq)

namespace Reordered

variable {xs ys : List Frame}

theorem perm (h : Reordered xs ys) : xs.Perm ys := by
  refine List.perm_iff_count.mpr fun f => ?_
  let same (g : Frame) : Bool := g.seq == f.seq
  have hf : same f = true := beq_self_eq_true _
  calc xs.count f = (xs.filter same).count f := (List.count_filter hf).symm
    _ = (ys.filter same).count f := congrArg (List.count f) (h f.seq)
    _ = ys.count f := List.count_filter hf

theorem find? (h : Reordered xs ys) (seq : SequenceId) :
    xs.find? (fun f => f.seq == seq) = ys.find? (fun f => f.seq == seq) := by
  rw [← List.head?_filter, h seq, List.head?_filter]

theorem mem_ids (h : Reordered xs ys) {seq : SequenceId} :
    seq ∈ xs.map Frame.seq ↔ seq ∈ ys.map Frame.seq :=
  (h.perm.map Frame.seq).mem_iff

theorem of_ids (h : ∀ g ∈ xs ++ ys,
    xs.filter (fun f => f.seq == g.seq) = ys.filter (fun f => f.seq == g.seq)) : Reordered xs ys := by
  intro seq
  by_cases hm : seq ∈ (xs ++ ys).map Frame.seq
  · obtain ⟨g, hg, rfl⟩ := List.mem_map.mp hm
    exact h g hg
  · have hnone {zs : List Frame} (hz : zs ⊆ xs ++ ys) : zs.filter (fun f => f.seq == seq) = [] := by
      refine List.filter_eq_nil_iff.mpr fun f hf he => hm ?_
      rw [← beq_iff_eq.mp he]
      exact List.mem_map_of_mem (hz hf)
    rw [hnone (List.subset_append_left xs ys), hnone (List.subset_append_right xs ys)]

end Reordered

namespace Session

variable {σ : Type} {T : Transport σ} {s s' s'' : Session σ} {f : Frame} {frames more : List Frame}
  {arrivals : List (Duration × Frame)} {a : Duration × Frame} {p : Pending} {ticket : Ticket}

def hear (s : Session σ) (a : Duration × Frame) : Session σ :=
  { s with clock := s.clock + a.1.nanos }.receive a.2

def hearAll (s : Session σ) (arrivals : List (Duration × Frame)) : Session σ :=
  arrivals.foldl hear s

/-- No id that is remembered is forgotten before the last of the frames has arrived. -/
def Remembers : Session σ → List (Duration × Frame) → Prop
  | _, [] => True
  | s, a :: rest => s.table.Keeps s.clock (s.clock + a.1.nanos + 1) ∧ (s.hear a).Remembers rest

instance decidableRemembers : (s : Session σ) → (arrivals : List (Duration × Frame)) →
    Decidable (s.Remembers arrivals)
  | _, [] => inferInstanceAs (Decidable True)
  | s, a :: rest =>
    have := decidableRemembers (s.hear a) rest
    inferInstanceAs (Decidable (_ ∧ _))

def known (s : Session σ) (seq : SequenceId) : Option Completion :=
  (s.table.prune s.clock).outcome? seq

/-- A frame that answers no request, neither one that waits nor one that is remembered. -/
def Stray (s : Session σ) (f : Frame) : Prop :=
  s.table.find? f.seq = none ∧ s.known f.seq = none

instance (s : Session σ) (f : Frame) : Decidable (s.Stray f) :=
  inferInstanceAs (Decidable (_ ∧ _))

def serves (s : Session σ) (ticket : Ticket) (f : Frame) : Bool :=
  (s.table.find? f.seq).any fun p => p.ticket == ticket

/-- What has become of frames, told by what they found when the first of them came. -/
structure Settles (frames : List Frame) (s s' : Session σ) : Prop where
  pending : s'.table.pending = s.table.pending.filter fun p => p.seq ∉ frames.map Frame.seq
  known : ∀ seq, s'.known seq =
    if seq ∈ frames.map Frame.seq ∧ s.table.isPending seq = true then some .completed
    else s.known seq
  answers : ∀ ticket, s'.answer? ticket =
    (s.answer? ticket).or ((frames.find? (s.serves ticket)).map .ok)
  streams : SameStreams ((frames.filter fun f => s.Stray f).foldl publish s) s'
  stats : s'.stats = { s.stats with
    framesReceived := s.stats.framesReceived + frames.length
    duplicateResponses := s'.stats.duplicateResponses }
  duplicates : s'.stats.duplicateResponses + s.table.pending.length +
      frames.countP (fun f => s.Stray f) =
    s.stats.duplicateResponses + frames.length + s'.table.pending.length

theorem table_route (s : Session σ) (f : Frame) :
    (s.route f).table = (s.table.route s.tick.clock f.seq).2 ∧ (s.route f).clock = s.tick.clock := by
  have he : (s.tick.note (.routed f)).table.route (s.tick.note (.routed f)).clock f.seq =
      s.table.route s.tick.clock f.seq := rfl
  rw [route, he]
  rcases s.table.route s.tick.clock f.seq with ⟨_ | _ | _, table⟩
  · exact ⟨rfl, rfl⟩
  · exact ⟨rfl, rfl⟩
  · dsimp only
    rw [publish]
    split <;> exact ⟨rfl, rfl⟩

theorem answer?_route (s : Session σ) (f : Frame) (ticket : Ticket) :
    (s.route f).answer? ticket =
      (s.answer? ticket).or (if s.serves ticket f = true then some (.ok f) else none) := by
  rw [answer?, answer?, serves]
  cases hf : s.table.find? f.seq with
  | some p =>
    rw [route_of_pending hf, List.lookup_append, List.lookup_cons, Option.any_some]
    by_cases ht : p.ticket = ticket
    · rw [ht, beq_self_eq_true]
      rfl
    · rw [beq_false_of_ne ht, beq_false_of_ne (Ne.symm ht)]
      rfl
  | none =>
    rw [(route_of_free hf).2.answers]
    exact Option.or_none.symm

theorem length_pending_route (ht : s.table.Sound) (hf : s.table.find? f.seq = some p) :
    s.table.pending.length = (s.route f).table.pending.length + 1 := by
  rw [(table_route s f).1, PendingTable.route_of_pending _ hf]
  exact ((ht.prune s.tick.clock).perm_retire hf s.tick.clock .completed).length_eq

theorem duplicates_route (ht : s.table.Sound) (f : Frame) :
    (s.route f).stats.duplicateResponses + s.table.pending.length +
        (if s.Unmatched f then 1 else 0) =
      s.stats.duplicateResponses + 1 + (s.route f).table.pending.length := by
  cases hf : s.table.find? f.seq with
  | some p =>
    have hu : ¬ s.Unmatched f := by
      rw [Unmatched, PendingTable.route_of_pending _ hf]
      simp
    have hstats : (s.route f).stats = s.stats := by
      rw [route_of_pending hf]
      rfl
    rw [length_pending_route ht hf, if_neg hu, hstats]
    omega
  | none =>
    obtain ⟨r, hr, hne⟩ := PendingTable.route_of_free s.tick.clock hf
    have hpending : (s.route f).table.pending = s.table.pending := by
      rw [(table_route s f).1, hr]
      rfl
    have he : (s.tick.note (.routed f)).table.route (s.tick.note (.routed f)).clock f.seq =
        (r, s.table.prune s.tick.clock) := hr
    rw [hpending]
    cases r with
    | completed ticket => exact absurd rfl (hne ticket)
    | duplicate outcome =>
      have hu : ¬ s.Unmatched f := by
        rw [Unmatched, hr]
        simp
      have hstats : (s.route f).stats.duplicateResponses = s.stats.duplicateResponses + 1 := by
        rw [route, he]
        rfl
      rw [if_neg hu, hstats]
      omega
    | unmatched =>
      have hu : s.Unmatched f := congrArg Prod.fst hr
      have hstats : (s.route f).stats = s.stats := by
        rw [route, he]
        exact stats_publish _ f
      rw [if_pos hu, hstats]
      omega

theorem streams_route (s : Session σ) (f : Frame) :
    SameStreams (([f].filter fun f => s.Unmatched f).foldl publish s) (s.route f) := by
  rw [List.filter_singleton]
  by_cases hu : s.Unmatched f
  · rw [decide_eq_true hu]
    exact route_of_unmatched hu
  · rw [decide_eq_false hu]
    exact route_of_matched hu

theorem SameStreams.foldl_publish (h : SameStreams s s') (events : List Frame) :
    SameStreams (events.foldl Session.publish s) (events.foldl Session.publish s') := by
  induction events generalizing s s' with
  | nil => exact h
  | cons f events ih => exact ih (h.publish f)

namespace Settles

theorem refl (s : Session σ) : Settles [] s s where
  pending := (List.filter_eq_self.mpr fun _ _ => decide_eq_true List.not_mem_nil).symm
  known := fun _ => (if_neg fun h => List.not_mem_nil h.1).symm
  answers := fun _ => (Option.or_none).symm
  streams := ⟨rfl, rfl, rfl, rfl, rfl, id⟩
  stats := rfl
  duplicates := rfl

theorem find? (h : Settles frames s s') (seq : SequenceId) :
    s'.table.find? seq = if seq ∈ frames.map Frame.seq then none else s.table.find? seq := by
  rw [PendingTable.find?, h.pending]
  exact s.table.find?_filter_seq _ seq

theorem isPending (h : Settles frames s s') (seq : SequenceId) :
    s'.table.isPending seq = true ↔ seq ∉ frames.map Frame.seq ∧ s.table.isPending seq = true := by
  rw [PendingTable.isPending, h.find?]
  by_cases hm : seq ∈ frames.map Frame.seq
  · rw [if_pos hm]
    exact iff_of_false Bool.false_ne_true fun hp => hp.1 hm
  · rw [if_neg hm]
    exact (and_iff_right hm).symm

/-- The frames that came before do not make a stray, or keep one from being one. -/
theorem stray_iff (h : Settles frames s s') (f : Frame) : s'.Stray f ↔ s.Stray f := by
  rw [Stray, Stray, h.find?, h.known]
  by_cases hm : f.seq ∈ frames.map Frame.seq
  · rw [if_pos hm]
    cases hf : s.table.find? f.seq with
    | none =>
      have hp : s.table.isPending f.seq = false := by rw [PendingTable.isPending, hf]; rfl
      rw [if_neg fun h => Bool.false_ne_true (hp.symm.trans h.2)]
    | some p =>
      have hp : s.table.isPending f.seq = true := by rw [PendingTable.isPending, hf]; rfl
      rw [if_pos ⟨hm, hp⟩]
      exact iff_of_false (fun h => Option.some_ne_none _ h.2) fun h => Option.some_ne_none _ h.1
  · rw [if_neg hm, if_neg fun h => hm h.1]

theorem serves_eq (h : Settles frames s s') (hn : ∀ g ∈ frames, ¬ s.serves ticket g = true)
    (f : Frame) : s'.serves ticket f = s.serves ticket f := by
  rw [serves, serves, h.find?]
  split
  · next hm =>
    obtain ⟨g, hg, he⟩ := List.mem_map.mp hm
    have hs := hn g hg
    rw [serves, he] at hs
    exact (Bool.eq_false_iff.mpr hs).symm
  · rfl

theorem trans (h : Settles frames s s') (h' : Settles more s' s'') :
    Settles (frames ++ more) s s'' := by
  have hstray : (fun f => decide (s'.Stray f)) = fun f => decide (s.Stray f) :=
    funext fun f => decide_eq_decide.mpr (h.stray_iff f)
  constructor
  · rw [h'.pending, h.pending, List.filter_filter]
    refine List.filter_congr fun p _ => ?_
    rw [List.map_append, ← Bool.decide_and]
    refine decide_eq_decide.mpr ?_
    rw [List.mem_append, not_or, and_comm]
  · intro seq
    rw [h'.known, h.known]
    by_cases hm : seq ∈ frames.map Frame.seq
    · rw [if_neg fun hp => ((h.isPending seq).mp hp.2).1 hm]
      simp only [List.map_append, List.mem_append, hm, true_or, true_and]
    · simp only [List.map_append, List.mem_append, h.isPending, hm, false_or, false_and, if_false,
        not_false_eq_true, true_and]
  · intro ticket
    rw [h'.answers, h.answers, List.find?_append, Option.map_or, Option.or_assoc]
    cases hf : frames.find? (s.serves ticket) with
    | some g => simp only [Option.map_some, Option.some_or]
    | none =>
      rw [funext (h.serves_eq (List.find?_eq_none.mp hf))]
  · have hs := h.streams.foldl_publish (more.filter fun f => s'.Stray f)
    rw [List.filter_append, List.foldl_append, ← hstray]
    rw [← hstray] at hs
    exact hs.trans h'.streams
  · rw [h'.stats, h.stats, List.length_append, Nat.add_assoc]
  · have hd := h.duplicates
    have hd' := h'.duplicates
    rw [hstray] at hd'
    rw [List.countP_append, List.length_append]
    omega

theorem hear (hb : s.Books) (hk : s.table.Keeps s.clock (s.clock + a.1.nanos + 1)) :
    Settles [a.2] s (s.hear a) := by
  obtain ⟨d, f⟩ := a
  have hprune : s.table.prune (s.clock + d.nanos + 1) = s.table.prune s.clock :=
    hk.prune_eq (by omega)
  let s₀ : Session σ := { s with
    clock := s.clock + d.nanos
    receiver := { s.receiver with strikes := 0 }
    stats := { s.stats with framesReceived := s.stats.framesReceived + 1 } }
  have hstray : (fun f => decide (s.Stray f)) = fun f => decide (s₀.Unmatched f) := by
    refine funext fun f => decide_eq_decide.mpr ?_
    rw [Unmatched, PendingTable.route_eq_unmatched_iff, Stray, Session.known, ← hprune]
    rfl
  obtain ⟨htable, hclock⟩ := table_route s₀ f
  change Settles [f] s (s₀.route f)
  constructor
  · rw [htable, PendingTable.pending_route]
    exact List.filter_congr fun p _ => decide_eq_decide.mpr (not_congr List.mem_singleton.symm)
  · intro seq
    rw [Session.known, htable, hclock, PendingTable.prune_route, PendingTable.outcome?_route,
      Session.known, ← hprune]
    by_cases he : seq = f.seq
    · simp only [he, List.map_singleton, List.mem_singleton, true_and]
      rfl
    · simp only [he, List.map_singleton, List.mem_singleton, false_and, if_false]
      rfl
  · intro ticket
    rw [List.find?_singleton, apply_ite (Option.map Except.ok)]
    exact answer?_route s₀ f ticket
  · have hs₀ : SameStreams s s₀ := ⟨rfl, rfl, rfl, rfl, rfl, id⟩
    rw [hstray]
    exact (hs₀.foldl_publish _).trans (streams_route s₀ f)
  · obtain ⟨n, hn⟩ := stats_route s₀ f
    rw [hn]
    rfl
  · have hd := duplicates_route (s := s₀) hb.sound f
    rw [hstray, List.countP_singleton]
    simp only [decide_eq_true_eq]
    exact hd

end Settles

theorem Books.hear (hb : s.Books) (a : Duration × Frame) : (s.hear a).Books := by
  have hb' : Books ({ s with
      clock := s.clock + a.1.nanos
      receiver := { s.receiver with strikes := 0 }
      stats := { s.stats with framesReceived := s.stats.framesReceived + 1 } } : Session σ) :=
    hb.of_same ⟨rfl, rfl, rfl, rfl⟩
  exact hb'.route a.2

theorem Books.settles (hb : s.Books) (hr : s.Remembers arrivals) :
    Settles (arrivals.map Prod.snd) s (s.hearAll arrivals) := by
  induction arrivals generalizing s with
  | nil => exact .refl s
  | cons a rest ih =>
    obtain ⟨hk, hr⟩ := hr
    exact (Settles.hear hb hk).trans (ih (hb.hear a) hr)

theorem prune_hear (s : Session σ) (a : Duration × Frame) :
    (s.hear a).table.prune (s.hear a).clock = (s.hear a).table := by
  rw [hear, receive, (table_route _ a.2).1, (table_route _ a.2).2]
  exact PendingTable.prune_route _ _ _

theorem known_hearAll (s : Session σ) (hne : arrivals ≠ []) (seq : SequenceId) :
    (s.hearAll arrivals).known seq = (s.hearAll arrivals).table.outcome? seq := by
  obtain ⟨front, a, rfl⟩ := (List.eq_nil_or_concat arrivals).resolve_left hne
  rw [hearAll, List.concat_eq_append, List.foldl_append]
  exact congrArg (fun t => PendingTable.outcome? t seq) (prune_hear _ a)

/-- A request is answered with the first frame that has its id. -/
theorem Books.serves_eq (hb : s.Books) (hp : p ∈ s.table.pending) (f : Frame) :
    s.serves p.ticket f = (f.seq == p.seq) := by
  rw [serves]
  by_cases he : f.seq = p.seq
  · rw [he, hb.sound.find?_of_mem hp, beq_self_eq_true]
    exact beq_self_eq_true _
  · rw [beq_false_of_ne he]
    cases hf : s.table.find? f.seq with
    | none => rfl
    | some q =>
      refine beq_false_of_ne fun ht => he ?_
      have hq := PendingTable.mem_of_find? hf
      have hqp : q.handle = p.handle :=
        hb.eq_of_ticket (hb.issued_of_pending hq) (hb.issued_of_pending hp) ht
      rw [← PendingTable.seq_of_find? hf]
      exact congrArg Handle.seq hqp

theorem Books.find?_serves (hb : s.Books) {xs ys : List Frame} (h : Reordered xs ys)
    (ticket : Ticket) : xs.find? (s.serves ticket) = ys.find? (s.serves ticket) := by
  by_cases hw : ∃ p ∈ s.table.pending, p.ticket = ticket
  · obtain ⟨p, hp, rfl⟩ := hw
    rw [funext (hb.serves_eq hp)]
    exact h.find? p.seq
  · have hnone (f : Frame) : ¬ s.serves ticket f = true := by
      rw [serves]
      cases hf : s.table.find? f.seq with
      | none => exact nofun
      | some p => exact fun ht => hw ⟨p, PendingTable.mem_of_find? hf, beq_iff_eq.mp ht⟩
    rw [List.find?_eq_none.mpr fun f _ => hnone f, List.find?_eq_none.mpr fun f _ => hnone f]

/-- Responses are told from one another by their ids, and not by when they come. Two lists hold the
same frames, those with the same id in the same order; they arrive at any times, but no id is
forgotten meanwhile. It makes no difference which of the lists arrives: each request that waits is
answered with the first frame that has its id, the same requests go on waiting, the same ids are
remembered with the same outcomes, and the same numbers of frames and duplicates are counted. The
strays are published, in the order in which they have arrived. -/
theorem Reached.correlates (hs : Reached T s) {xs ys : List (Duration × Frame)}
    (h : Reordered (xs.map Prod.snd) (ys.map Prod.snd)) (hx : s.Remembers xs) (hy : s.Remembers ys) :
    let s₁ := s.hearAll xs
    let s₂ := s.hearAll ys
    let events (arrivals : List (Duration × Frame)) : List Frame :=
      (arrivals.map Prod.snd).filter fun f => s.Stray f
    (∀ p ∈ s.table.pending, s₁.answer? p.ticket =
      ((xs.map Prod.snd).find? fun f => f.seq == p.seq).map .ok) ∧
    (∀ ticket, s₁.answer? ticket = s₂.answer? ticket) ∧
    s₁.table.pending = s₂.table.pending ∧
    (∀ seq, s₁.table.outcome? seq = s₂.table.outcome? seq) ∧
    s₁.stats = s₂.stats ∧
    s₁.stats.framesReceived = s.stats.framesReceived + xs.length ∧
    s₁.streams = ((events xs).foldl publish s).streams ∧
    s₂.streams = ((events ys).foldl publish s).streams ∧
    (events xs).Perm (events ys) := by
  intro s₁ s₂ events
  have hb := hs.books
  have h₁ : Settles (xs.map Prod.snd) s s₁ := hb.settles hx
  have h₂ : Settles (ys.map Prod.snd) s s₂ := hb.settles hy
  have hperm := h.perm
  have hpending : s₁.table.pending = s₂.table.pending := by
    rw [h₁.pending, h₂.pending]
    exact List.filter_congr fun p _ => decide_eq_decide.mpr (not_congr h.mem_ids)
  refine ⟨fun p hp => ?_, fun ticket => ?_, hpending, fun seq => ?_, ?_, ?_, h₁.streams.streams,
    h₂.streams.streams, hperm.filter _⟩
  · have hnone : s.answer? p.ticket = none :=
      Option.isNone_iff_eq_none.mp (hb.undecided_of_pending hp).2
    rw [h₁.answers, hnone, Option.none_or, funext (hb.serves_eq hp)]
  · rw [h₁.answers, h₂.answers, hb.find?_serves h]
  · by_cases hne : xs = []
    · subst hne
      have hnil : ys = [] := List.map_eq_nil_iff.mp (List.nil_perm.mp hperm)
      exact congrArg (fun zs => (s.hearAll zs).table.outcome? seq) hnil.symm
    · have hne' : ys ≠ [] := by
        rintro rfl
        exact hne (List.map_eq_nil_iff.mp (List.perm_nil.mp hperm))
      rw [← known_hearAll s hne, ← known_hearAll s hne']
      change s₁.known seq = s₂.known seq
      rw [h₁.known, h₂.known]
      exact if_congr (and_congr_left' h.mem_ids) rfl rfl
  · have hlen := hperm.length_eq
    have hcount := hperm.countP_eq fun f => decide (s.Stray f)
    have hd₁ := h₁.duplicates
    have hd₂ := h₂.duplicates
    have hdup : s₁.stats.duplicateResponses = s₂.stats.duplicateResponses := by
      rw [hpending] at hd₁
      omega
    rw [h₁.stats, h₂.stats, hdup, hlen]
  · rw [h₁.stats, List.length_map]

def expecting : Session Bench :=
  (Client.run Bench.transport
    { session := Session.new .standard .standard .stepped (.new SessionSettings.standard.codec) }
    [.connect, .subscribe, .send 2 [0x61], .send 2 [0x62]]).session

/-- The answers to both requests, the first one twice, a late acknowledgement of the handshake and
two events, in two orders and at different times. -/
theorem Reached.correlates_expecting :
    let xs : List (Duration × Frame) := [(⟨5⟩, ⟨2, 2, [0x42]⟩), (⟨0⟩, ⟨9, 3, []⟩),
      (⟨7⟩, ⟨1, 2, [0x41]⟩), (⟨0⟩, ⟨1, 2, [0x51]⟩), (⟨1⟩, ⟨0, 1, [1, 0]⟩), (⟨2⟩, ⟨8, 3, []⟩)]
    let ys : List (Duration × Frame) := [(⟨0⟩, ⟨8, 3, []⟩), (⟨3⟩, ⟨0, 1, [1, 0]⟩),
      (⟨0⟩, ⟨1, 2, [0x41]⟩), (⟨4⟩, ⟨2, 2, [0x42]⟩), (⟨0⟩, ⟨1, 2, [0x51]⟩), (⟨9⟩, ⟨9, 3, []⟩)]
    (expecting.hearAll ys).stats = (expecting.hearAll xs).stats ∧
      (expecting.hearAll ys).answer? 1 = some (.ok ⟨1, 2, [0x41]⟩) ∧
      (expecting.hearAll ys).answer? 2 = some (.ok ⟨2, 2, [0x42]⟩) := by
  intro xs ys
  have hs : Reached Bench.transport expecting := ⟨_, _, _, _, _, .refl⟩
  have hfacts : expecting.table.pending = [⟨1, 1⟩, ⟨2, 2⟩] ∧ expecting.Remembers xs ∧
      expecting.Remembers ys := by
    decide +kernel
  obtain ⟨hpending, hx, hy⟩ := hfacts
  have h : Reordered (ys.map Prod.snd) (xs.map Prod.snd) := .of_ids (by decide +kernel)
  obtain ⟨hanswers, -, -, -, hstats, -⟩ := Reached.correlates hs h hy hx
  rw [hpending] at hanswers
  exact ⟨hstats, hanswers ⟨1, 1⟩ (by decide), hanswers ⟨2, 2⟩ (by decide)⟩

end Session
end FrameLink
