import FrameLink.Proofs.Session.Steps

namespace FrameLink.Session

variable {σ : Type} {s s' s'' : Session σ} {mine : Ticket → Prop} {phase : Phase}

/-- What has happened stays so, and no requests but `mine` time out. -/
structure Grows (mine : Ticket → Prop) (s s' : Session σ) : Prop where
  answers : s.answers ⊆ s'.answers
  journal : s.journal <:+ s'.journal
  lapsed : ∀ ticket, .lapsed ticket ∈ s'.journal → .lapsed ticket ∈ s.journal ∨ mine ticket

theorem Grows.refl (s : Session σ) : Grows mine s s :=
  ⟨List.Subset.refl _, List.suffix_rfl, fun _ => .inl⟩

theorem Grows.trans (h₁ : Grows mine s s') (h₂ : Grows mine s' s'') : Grows mine s s'' where
  answers := List.Subset.trans h₁.answers h₂.answers
  journal := h₁.journal.trans h₂.journal
  lapsed := fun ticket hl => (h₂.lapsed ticket hl).elim (h₁.lapsed ticket) .inr

theorem Grows.of_same (hs : SameRequests s s') : Grows mine s s' := by
  refine ⟨?_, hs.journal ▸ List.suffix_rfl, ?_⟩
  · rw [hs.answers]; exact List.Subset.refl _
  · rw [hs.journal]; exact fun _ => .inl

theorem Grows.of_note {entry : Entry} (ha : s.answers ⊆ s'.answers)
    (hj : s'.journal = entry :: s.journal) (he : ∀ ticket, entry = .lapsed ticket → mine ticket) :
    Grows mine s s' := by
  refine ⟨ha, ?_, ?_⟩
  · rw [hj]; exact List.suffix_cons ..
  · intro ticket hl
    rw [hj] at hl
    cases List.mem_cons.mp hl with
    | inl hl => exact .inr (he ticket hl.symm)
    | inr hl => exact .inl hl

theorem grows_failAll (s : Session σ) (e : SessionError) : Grows mine s (s.failAll e) := by
  rw [failAll_eq]
  exact ⟨List.subset_append_left .., List.suffix_rfl, fun _ => .inl⟩

theorem grows_route (s : Session σ) (f : Frame) : Grows mine s (s.route f) := by
  cases hf : s.table.find? f.seq with
  | none =>
    have hs := (route_of_free hf).2
    refine .of_note ?_ hs.journal nofun
    rw [hs.answers]
    exact List.Subset.refl _
  | some p =>
    rw [route_of_pending hf]
    exact .of_note (List.subset_append_left ..) rfl nofun

theorem grows_cancel (s : Session σ) (seq : SequenceId) : Grows mine s (s.cancel seq).2 := by
  cases hf : s.table.find? seq with
  | none =>
    rw [cancel, finish_of_free hf]
    exact .of_same ⟨rfl, rfl, rfl, rfl⟩
  | some p =>
    rw [cancel_of_pending hf]
    exact ⟨List.subset_append_left .., List.suffix_rfl, fun _ => .inl⟩

theorem grows_timeOut {seq : SequenceId} (hm : ∀ p, s.table.find? seq = some p → mine p.ticket) :
    Grows mine s (s.finish seq .timedOut).2 := by
  cases hf : s.table.find? seq with
  | none =>
    rw [finish_of_free hf]
    exact .of_same ⟨rfl, rfl, rfl, rfl⟩
  | some p =>
    rw [timeOut_of_pending hf]
    refine .of_note (List.Subset.refl _) rfl fun ticket he => ?_
    cases he
    exact hm p hf

theorem Step.grows (hs : Step mine s s') : Grows mine s s' := by
  cases hs with
  | quiet _ hs => exact .of_same hs
  | enrolled he =>
    obtain ⟨-, -, -, rfl⟩ := enroll_eq_ok_iff.mp he
    exact .of_note (List.Subset.refl _) rfl nofun
  | routed f => exact grows_route s f
  | cancelled seq => exact grows_cancel s seq
  | lapsed hm => exact grows_timeOut hm
  | faulted cause _ =>
    have hp : Grows mine s (s.setPhase .faulted) := .of_same ⟨rfl, rfl, rfl, rfl⟩
    exact hp.trans (grows_failAll _ _)

theorem Steps.grows (hs : Steps mine s s') : Grows mine s s' := by
  induction hs with
  | refl => exact .refl s
  | tail _ hs ih => exact ih.trans hs.grows

def Accepts (phase : Phase) (s : Session σ) : Prop := s.table.closed = none → s.phase = phase

theorem Step.accepts (hs : Step mine s s') (ha : s.Accepts phase) : s'.Accepts phase := by
  cases hs with
  | quiet hp hs =>
    rw [Accepts, hs.table, hp]
    exact ha
  | enrolled he =>
    obtain ⟨-, -, -, rfl⟩ := enroll_eq_ok_iff.mp he
    exact ha
  | routed f =>
    cases hf : s.table.find? f.seq with
    | none =>
      rw [Accepts, (route_of_free hf).2.table, (route_of_free hf).1]
      exact ha
    | some p =>
      rw [route_of_pending hf]
      exact ha
  | cancelled seq =>
    cases hf : s.table.find? seq with
    | none =>
      rw [cancel, finish_of_free hf]
      exact ha
    | some p =>
      rw [cancel_of_pending hf]
      exact ha
  | @lapsed seq _ =>
    cases hf : s.table.find? seq with
    | none =>
      rw [finish_of_free hf]
      exact ha
    | some p =>
      rw [timeOut_of_pending hf]
      exact ha
  | faulted cause _ =>
    rw [failAll_eq]
    intro hn
    cases hn

theorem Steps.accepts (hs : Steps mine s s') (ha : s.Accepts phase) : s'.Accepts phase := by
  induction hs with
  | refl => exact ha
  | tail _ hs ih => exact hs.accepts ih

end FrameLink.Session
