import FrameLink.Proofs.PendingTable.Past
import FrameLink.Proofs.Session.Anomalies
import FrameLink.Proofs.Session.Steps

namespace FrameLink

namespace Session

variable {σ : Type}

/-- What a session makes of a frame. An answer goes to the one who waits for it, a duplicate is
counted and no more, and a frame that answers no request is an event. -/
def Takes (s : Session σ) (f : Frame) (s' : Session σ) : Routed → Prop
  | .completed ticket =>
    s'.answers = s.answers ++ [(ticket, .ok f)] ∧ s'.streams = s.streams ∧ s'.stats = s.stats
  | .duplicate _ =>
    s'.answers = s.answers ∧ s'.streams = s.streams ∧
      s'.stats = { s.stats with duplicateResponses := s.stats.duplicateResponses + 1 }
  | .unmatched =>
    s'.answers = s.answers ∧ s'.streams = (s.publish f).streams ∧ s'.stats = s.stats

theorem streams_publish (s : Session σ) (f : Frame) :
    (s.publish f).streams =
      if s.publishing = true then
        s.streams.map (EventStream.publish (powerOfTwoAbove s.settings.eventCapacity) f)
      else s.streams := by
  rw [publish]
  split <;> rfl

theorem takes_route (s : Session σ) (f : Frame) :
    s.Takes f (s.route f) (s.table.route s.tick.clock f.seq).1 := by
  have he : (s.tick.note (.routed f)).table.route (s.tick.note (.routed f)).clock f.seq =
      s.table.route s.tick.clock f.seq := rfl
  rw [route, he]
  rcases s.table.route s.tick.clock f.seq with ⟨ticket | _ | _, table⟩
  · exact ⟨rfl, rfl, rfl⟩
  · exact ⟨rfl, rfl, rfl⟩
  · refine ⟨(publish_same _ f).answers, ?_, stats_publish _ f⟩
    rw [streams_publish, streams_publish]
    rfl

end Session

namespace PendingTable.History

open Session

/-- What a table makes of a frame, after any calls at times that never go back, is what the past of
the frame's id makes of it. If somebody waits under the id, the frame is the answer for them. If
nobody does, and the id has left since the table was opened, and was not given out again, and its
time is not over, the frame is a duplicate of how it left. Else the frame answers no request.
Requests that were failed together are not remembered, and to forget the ids whose time is over
makes no difference to the others. -/
theorem run_new_classifies {σ : Type} (space : Nat) (window : Duration) (ops : List Op) (now : Nat)
    (f : Frame) (hs : (ops.filterMap Op.time? ++ [now]).Pairwise (· ≤ ·)) :
    let new : History := { table := .new space window }
    let t := (new.run ops).table
    let past := new.told [] ops
    let routed := (t.route now f.seq).1
    let recent (outcome : Completion) : Prop :=
      ∃ since, LastLeft past ⟨f.seq, since, outcome⟩ ∧ now ≤ since + window.nanos
    (t.isPending f.seq = true ↔ ∃ ticket, Waits past ⟨f.seq, ticket⟩) ∧
    (∀ ticket, routed = .completed ticket ↔ Waits past ⟨f.seq, ticket⟩) ∧
    (∀ outcome, routed = .duplicate outcome ↔ t.isPending f.seq = false ∧ recent outcome) ∧
    (routed = .unmatched ↔ t.isPending f.seq = false ∧ ∀ outcome, ¬ recent outcome) ∧
    (∀ s : Session σ, s.table = t → s.tick.clock = now → s.Takes f (s.route f) routed) ∧
    (∀ e, ∀ p ∈ t.pending, ∀ later, ((t.failAll e).2.route later p.seq).1 = .unmatched) ∧
    (∀ earlier ≤ now, ((t.prune earlier).route now f.seq).1 = routed) ∧
    (∀ time, (∀ r ∈ t.retired, r.seq = f.seq → time ≤ r.since + window.nanos) →
      ((t.prune time).route now f.seq).1 = routed) := by
  intro new t past routed recent
  have hwindow : t.window = window := window_run new ops
  have hnew : new.table.Sound := .new space window
  have hall : (0 :: (ops.filterMap Op.time? ++ [now])).Pairwise (· ≤ ·) :=
    List.pairwise_cons.mpr ⟨fun time _ => Nat.zero_le time, hs⟩
  have h : Faithful t past now := faithful_run (.of_closed hnew rfl rfl 0) hall
  have hfind : t.find? f.seq = none ↔ t.isPending f.seq = false := by
    rw [PendingTable.isPending, Option.isSome_eq_false_iff, Option.isNone_iff_eq_none]
  have hrecent (outcome : Completion) : (t.prune now).outcome? f.seq = some outcome ↔ recent outcome := by
    rw [h.outcome?_eq_some_iff, hwindow]
    exact exists_congr fun since => and_congr_right fun _ => Nat.sub_le_iff_le_add'
  refine ⟨h.isPending_iff, fun ticket => h.route_eq_completed_iff, fun outcome => ?_, ?_, ?_, ?_, ?_, ?_⟩
  · rw [← hrecent, ← hfind]
    exact route_eq_duplicate_iff
  · rw [← hfind]
    refine route_eq_unmatched_iff.trans (and_congr_right fun _ => ?_)
    rw [Option.eq_none_iff_forall_ne_some]
    exact forall_congr' fun outcome => not_congr (hrecent outcome)
  · intro s ht hnow
    have htakes := takes_route s f
    rwa [ht, hnow] at htakes
  · intro e p hp later
    refine route_eq_unmatched_iff.mpr ⟨rfl, ?_⟩
    refine Option.map_eq_none_iff.mpr (List.find?_eq_none.mpr fun r hr he => ?_)
    have hmark : r ∈ t.retired := List.mem_of_mem_filter hr
    exact h.sound.apart p hp r hmark (beq_iff_eq.mp he).symm
  · intro earlier hle
    exact route_prune_of_le hle f.seq
  · intro time hyoung
    refine route_prune_of_young (fun r hr he => ?_) now
    rw [hwindow]
    exact Nat.sub_le_iff_le_add'.mpr (hyoung r hr he)

/-- One of two requests is given up, and its answer comes at the last moment at which that is
known. -/
theorem run_new_classifies_two :
    let ops : List Op := [.reopen, .register 7, .register 8, .finish 5 1 .timedOut]
    let t := (run { table := .new 4 ⟨10⟩ } ops).table
    (ops.filterMap Op.time? ++ [15]).Pairwise (· ≤ ·) ∧
      (t.route 15 0).1 = .completed 7 ∧ (t.route 15 1).1 = .duplicate .timedOut := by
  intro ops t
  have hs : (ops.filterMap Op.time? ++ [15]).Pairwise (· ≤ ·) := by decide
  have htold : told { table := .new 4 ⟨10⟩ } [] ops =
      [.left ⟨1, 5, .timedOut⟩, .issued ⟨1, 8⟩, .issued ⟨0, 7⟩] := by
    decide
  obtain ⟨-, hwaits, -⟩ := run_new_classifies (σ := Unit) 4 ⟨10⟩ ops 15 ⟨0, 2, []⟩ hs
  obtain ⟨-, -, hleft, -⟩ := run_new_classifies (σ := Unit) 4 ⟨10⟩ ops 15 ⟨1, 2, []⟩ hs
  rw [htold] at hwaits hleft
  refine ⟨hs, (hwaits 7).mpr ?_, (hleft .timedOut).mpr ⟨by decide, 5, ?_, Nat.le_refl 15⟩⟩
  · exact waits_left.mpr ⟨by decide, waits_issued.mpr (.inr (waits_issued.mpr (.inl rfl)))⟩
  · exact lastLeft_left.mpr (.inl rfl)

end PendingTable.History
end FrameLink
