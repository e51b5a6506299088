import FrameLink.Proofs.Session.Correlation
import FrameLink.Proofs.Session.Packets

namespace FrameLink

/-- What a session that reads goes through: time passes, or it comes to the next frame or
anomaly. -/
inductive Moment where
  | wait (d : Duration)
  | finding (r : Except ProtocolError Frame)
deriving DecidableEq

def findingsIn : List Moment → List (Except ProtocolError Frame)
  | [] => []
  | .wait _ :: rest => findingsIn rest
  | .finding r :: rest => r :: findingsIn rest

theorem findingsIn_append (front back : List Moment) :
    findingsIn (front ++ back) = findingsIn front ++ findingsIn back := by
  induction front with
  | nil => rfl
  | cons m rest ih =>
    cases m with
    | wait d => exact ih
    | finding r => exact congrArg (r :: ·) ih

theorem findingsIn_map_finding (results : List (Except ProtocolError Frame)) :
    findingsIn (results.map .finding) = results := by
  induction results with
  | nil => rfl
  | cons r rest ih => exact congrArg (r :: ·) ih

namespace Session

variable {σ τ : Type} {T : Transport σ} {U : Transport τ} {s : Session σ} {t : Session τ}
  {moments more : List Moment} {results : List (Except ProtocolError Frame)} {f : Frame}

def heed (T : Transport σ) (s : Session σ) : Except ProtocolError Frame → Session σ
  | .ok f => s.receive f
  | .error e =>
    match s.strike e with
    | (some cause, s) => s.fault T cause
    | (none, s) => s

def live (T : Transport σ) (s : Session σ) : Moment → Session σ
  | .wait d => s.later d
  | .finding r => s.heed T r

def relive (T : Transport σ) (moments : List Moment) (s : Session σ) : Session σ :=
  moments.foldl (live T) s

theorem relive_append (T : Transport σ) (moments more : List Moment) (s : Session σ) :
    s.relive T (moments ++ more) = (s.relive T moments).relive T more :=
  List.foldl_append

theorem relive_findings (T : Transport σ) (results : List (Except ProtocolError Frame))
    (s : Session σ) : s.relive T (results.map .finding) = results.foldl (heed T) s :=
  List.foldl_map

theorem digested_eq_foldl (T : Transport σ) (results : List (Except ProtocolError Frame))
    (s : Session σ) : s.digested T results = (heeded results s).foldl (heed T) s := by
  induction results generalizing s with
  | nil => rfl
  | cons r rest ih =>
    cases r with
    | ok f => exact ih (s.receive f)
    | error e =>
      cases he : s.strike e with
      | mk failure s' =>
        have hheed : s.heed T (.error e) = match (failure, s') with
            | (some cause, s) => s.fault T cause
            | (none, s) => s := by rw [heed, he]
        cases failure with
        | some cause => simp only [digested, digest, heeded, he, List.foldl_cons, List.foldl_nil, hheed]
        | none =>
          have hih := ih s'
          rw [digested] at hih
          simp only [digested, digest, heeded, he, List.foldl_cons, hheed]
          exact hih

theorem later_later (s : Session σ) (d d' : Duration) :
    (s.later d).later d' = s.later ⟨d.nanos + d'.nanos⟩ := by
  rw [later, later, later, Nat.add_assoc]

theorem exists_relive_eq_later (h : findingsIn moments = []) (s : Session σ) :
    ∃ d, s.relive T moments = s.later d := by
  induction moments generalizing s with
  | nil => exact ⟨⟨0⟩, rfl⟩
  | cons m rest ih =>
    cases m with
    | wait d =>
      obtain ⟨d', hd⟩ := ih h (s.later d)
      exact ⟨_, hd.trans (later_later s d d')⟩
    | finding r => cases h

/-- Time passes before and after a single frame. -/
theorem exists_relive_eq (h : findingsIn moments = [.ok f]) (s : Session σ) :
    ∃ d d', s.relive T moments = ((s.later d).receive f).later d' := by
  induction moments generalizing s with
  | nil => cases h
  | cons m rest ih =>
    cases m with
    | wait d =>
      obtain ⟨d₁, d₂, hd⟩ := ih h (s.later d)
      rw [later_later] at hd
      exact ⟨_, d₂, hd⟩
    | finding r =>
      obtain ⟨rfl, hrest⟩ := List.cons.inj h
      obtain ⟨d, hd⟩ := exists_relive_eq_later hrest (s.receive f)
      exact ⟨⟨0⟩, d, hd⟩

theorem outward_heed (T : Transport σ) (s : Session σ) (r : Except ProtocolError Frame) :
    (s.heed T r).outward = s.outward.heed .mute r := by
  cases r with
  | ok f => exact outward_receive s f
  | error e =>
    rw [heed, heed, strike_outward]
    rcases s.strike e with ⟨_ | cause, s'⟩
    · rfl
    · exact outward_fault T s' cause

theorem outward_relive (T : Transport σ) (moments : List Moment) (s : Session σ) :
    (s.relive T moments).outward = s.outward.relive .mute moments := by
  induction moments generalizing s with
  | nil => rfl
  | cons m rest ih =>
    refine (ih (s.live T m)).trans (congrArg (relive .mute rest) ?_)
    cases m with
    | wait d => rfl
    | finding r => exact outward_heed T s r

/-- A session as its users see it, without what the marks of retired ids decide: which frames are
events and which are duplicates. -/
def unmarked (s : Session σ) : Session Unit :=
  { s.outward with
    clock := 0
    table := { s.table with retired := [] }
    streams := []
    stats := { s.outward.stats with duplicateResponses := 0 } }

theorem unmarked_of_outward (h : s.outward = t.outward) : s.unmarked = t.unmarked :=
  congrArg (fun u : Session Unit => { u with
    clock := 0
    table := { u.table with retired := [] }
    streams := []
    stats := { u.stats with duplicateResponses := 0 } }) h

theorem unmarked_later (s : Session σ) (d : Duration) : (s.later d).unmarked = s.unmarked := rfl

theorem unmarked_publish (s : Session σ) (f : Frame) : (s.publish f).unmarked = s.unmarked := by
  rw [publish]
  split <;> rfl

theorem unmarked_route_of_free (hf : s.table.find? f.seq = none) :
    (s.route f).unmarked = (s.note (.routed f)).unmarked := by
  obtain he | he := route_cases_of_free hf
  · rw [he]
    rfl
  · rw [he]
    exact unmarked_publish _ f

theorem unmarked_route (s : Session σ) (f : Frame) :
    (s.route f).unmarked = (s.unmarked.route f).unmarked := by
  cases hf : s.table.find? f.seq with
  | some p =>
    have hf' : s.unmarked.table.find? f.seq = some p := hf
    rw [route_of_pending hf, route_of_pending hf']
    rfl
  | none =>
    have hf' : s.unmarked.table.find? f.seq = none := hf
    rw [unmarked_route_of_free hf, unmarked_route_of_free hf']
    rfl

theorem unmarked_receive (s : Session σ) (f : Frame) :
    (s.receive f).unmarked = (s.unmarked.receive f).unmarked :=
  unmarked_route _ f

theorem strike_unmarked (s : Session σ) (e : ProtocolError) :
    s.unmarked.strike e = ((s.strike e).1, (s.strike e).2.unmarked) := by
  have hstats : s.unmarked.stats.countAnomaly e =
      { s.stats.countAnomaly e with resyncBytes := 0, duplicateResponses := 0 } := by
    cases e <;> rfl
  refine Prod.ext ?_ ?_
  · rw [strike_fst, strike_fst]
    rfl
  · rw [strike_snd, strike_snd, hstats]
    rfl

theorem unmarked_fault (T : Transport σ) (s : Session σ) (cause : SessionError) :
    (s.fault T cause).unmarked = s.unmarked.fault .mute cause := by
  cases hl : s.phase.isLive with
  | true =>
    rw [fault_of_live hl, fault_of_live (show s.unmarked.phase.isLive = true from hl), failAll_eq,
      failAll_eq]
    rfl
  | false =>
    rw [fault_of_not_live hl, fault_of_not_live (show s.unmarked.phase.isLive = false from hl)]
    rfl

theorem unmarked_heed (T : Transport σ) (s : Session σ) (r : Except ProtocolError Frame) :
    (s.heed T r).unmarked = (s.unmarked.heed .mute r).unmarked := by
  cases r with
  | ok f => exact unmarked_receive s f
  | error e =>
    rw [heed, heed, strike_unmarked]
    rcases s.strike e with ⟨_ | cause, s'⟩
    · rfl
    · exact congrArg unmarked (unmarked_fault T s' cause)

theorem unmarked_heed_congr (h : s.unmarked = t.unmarked) (r : Except ProtocolError Frame) :
    (s.heed T r).unmarked = (t.heed U r).unmarked := by
  rw [unmarked_heed, h, ← unmarked_heed]

/-- The marks and the time make no difference to anything else. -/
theorem unmarked_relive (h : s.unmarked = t.unmarked) (moments : List Moment) :
    (s.relive T moments).unmarked = ((findingsIn moments).foldl (heed U) t).unmarked := by
  induction moments generalizing s t with
  | nil => exact h
  | cons m rest ih =>
    cases m with
    | wait d => exact ih ((unmarked_later s d).trans h)
    | finding r => exact ih (unmarked_heed_congr h r)

theorem strike_congr (h : s.unmarked = t.unmarked) (e : ProtocolError) :
    (s.strike e).1 = (t.strike e).1 ∧ (s.strike e).2.unmarked = (t.strike e).2.unmarked := by
  have he : s.unmarked.strike e = t.unmarked.strike e := by rw [h]
  rw [strike_unmarked, strike_unmarked] at he
  exact Prod.mk.inj he

theorem digest_fst_congr (h : s.unmarked = t.unmarked)
    (results : List (Except ProtocolError Frame)) :
    (digest results s).1 = (digest results t).1 ∧ heeded results s = heeded results t := by
  induction results generalizing s t with
  | nil => exact ⟨rfl, rfl⟩
  | cons r rest ih =>
    cases r with
    | ok f =>
      have hreceive : (s.receive f).unmarked = (t.receive f).unmarked := by
        rw [unmarked_receive, h, ← unmarked_receive]
      obtain ⟨hdigest, hheeded⟩ := ih hreceive
      exact ⟨hdigest, congrArg (List.cons _) hheeded⟩
    | error e =>
      obtain ⟨hfails, hnext⟩ := strike_congr h e
      rw [digest, digest, heeded, heeded]
      generalize s.strike e = struck, t.strike e = struck' at hfails hnext
      obtain ⟨_ | cause, s'⟩ := struck <;> obtain ⟨_ | cause', t'⟩ := struck'
      · obtain ⟨hdigest, hheeded⟩ := ih hnext
        exact ⟨hdigest, congrArg (List.cons _) hheeded⟩
      · cases hfails
      · cases hfails
      · exact ⟨hfails, rfl⟩

/-- A session as its users see it, with the marks that it still remembers, but without the time and
without theirs. -/
def timeless (s : Session σ) : Session Unit :=
  { s.outward with clock := 0, table := s.table.ageless s.clock }

theorem timeless_of_outward (h : s.outward = t.outward) : s.timeless = t.timeless :=
  congrArg (fun u : Session Unit => { u with clock := 0, table := u.table.ageless u.clock }) h

def dispatch (s : Session σ) (f : Frame) : Session σ :=
  let s := s.note (.routed f)
  match s.table.route s.clock f.seq with
  | (.completed ticket, table) => { s with table := table }.answer ticket (.ok f)
  | (.duplicate _, table) =>
    { s with table := table }.updateStats fun st =>
      { st with duplicateResponses := st.duplicateResponses + 1 }
  | (.unmatched, table) => { s with table := table }.publish f

theorem timeless_publish (s : Session σ) (f : Frame) :
    (s.publish f).timeless = s.timeless.publish f := by
  rw [publish, publish]
  by_cases hp : s.publishing = true
  · rw [if_pos hp, if_pos (show s.timeless.publishing = true from hp)]
    rfl
  · rw [if_neg hp, if_neg (show ¬ s.timeless.publishing = true from hp)]

theorem timeless_dispatch (s : Session σ) (f : Frame) :
    (s.dispatch f).timeless = s.timeless.dispatch f := by
  have ht : (s.timeless.note (.routed f)).table.route (s.timeless.note (.routed f)).clock f.seq =
      ((s.table.route s.clock f.seq).1, (s.table.route s.clock f.seq).2.ageless s.clock) :=
    PendingTable.route_ageless s.table s.clock f.seq
  have he : (s.note (.routed f)).table.route (s.note (.routed f)).clock f.seq =
      s.table.route s.clock f.seq := rfl
  rw [dispatch, dispatch, ht, he]
  rcases s.table.route s.clock f.seq with ⟨_ | _ | _, table⟩
  · rfl
  · rfl
  · exact timeless_publish _ f

theorem timeless_strike (s : Session σ) (e : ProtocolError) :
    s.timeless.strike e = ((s.strike e).1, (s.strike e).2.timeless) := by
  have hstats : s.timeless.stats.countAnomaly e =
      { s.stats.countAnomaly e with resyncBytes := 0 } := by
    cases e <;> rfl
  refine Prod.ext ?_ ?_
  · rw [strike_fst, strike_fst]
    rfl
  · rw [strike_snd, strike_snd, hstats]
    rfl

theorem timeless_fault (T : Transport σ) (s : Session σ) (cause : SessionError) :
    (s.fault T cause).timeless = s.timeless.fault .mute cause := by
  cases hl : s.phase.isLive with
  | true =>
    rw [fault_of_live hl, fault_of_live (show s.timeless.phase.isLive = true from hl), failAll_eq,
      failAll_eq]
    rfl
  | false =>
    rw [fault_of_not_live hl, fault_of_not_live (show s.timeless.phase.isLive = false from hl)]
    rfl

def heedAtOnce (s : Session Unit) : Except ProtocolError Frame → Session Unit
  | .ok f =>
    let s := { s with receiver := { s.receiver with strikes := 0 } }
    (s.updateStats fun st => { st with framesReceived := st.framesReceived + 1 }).dispatch f
  | .error e => s.heed .mute (.error e)

theorem timeless_heed {r : Except ProtocolError Frame}
    (h : s.table.Keeps s.clock (s.heed T r).clock) :
    (s.heed T r).timeless = s.timeless.heedAtOnce r := by
  cases r with
  | ok f =>
    have hclock : (s.heed T (.ok f)).clock = s.clock + 1 := (table_route _ f).2
    rw [hclock] at h
    have hageless : s.table.ageless (s.clock + 1) = s.table.ageless s.clock :=
      h.ageless_eq (Nat.le_succ _)
    have htick : s.tick.timeless = s.timeless := by
      rw [timeless, timeless, ← hageless]
      rfl
    rw [heedAtOnce, ← htick]
    exact timeless_dispatch _ f
  | error e =>
    rw [heedAtOnce, heed, heed, timeless_strike]
    rcases s.strike e with ⟨_ | cause, s'⟩
    · rfl
    · exact timeless_fault T s' cause

/-- No id that is remembered is forgotten before the last of the moments has passed. -/
def Recalls (T : Transport σ) : Session σ → List Moment → Prop
  | _, [] => True
  | s, m :: rest => s.table.Keeps s.clock (s.live T m).clock ∧ (s.live T m).Recalls T rest

instance decidableRecalls (T : Transport σ) : (s : Session σ) → (moments : List Moment) →
    Decidable (s.Recalls T moments)
  | _, [] => inferInstanceAs (Decidable True)
  | s, m :: rest =>
    have := decidableRecalls T (s.live T m) rest
    inferInstanceAs (Decidable (_ ∧ _))

/-- As long as no id is forgotten it makes no difference when anything happens. -/
theorem timeless_relive (h : s.Recalls T moments) :
    (s.relive T moments).timeless = (findingsIn moments).foldl heedAtOnce s.timeless := by
  induction moments generalizing s with
  | nil => rfl
  | cons m rest ih =>
    obtain ⟨hkeeps, hrest⟩ := h
    refine (ih hrest).trans ?_
    cases m with
    | wait d =>
      have hageless : s.table.ageless (s.clock + d.nanos) = s.table.ageless s.clock :=
        hkeeps.ageless_eq (Nat.le_add_right _ _)
      have hlater : (s.later d).timeless = s.timeless := by
        rw [timeless, timeless, ← hageless]
        rfl
      exact congrArg (List.foldl heedAtOnce · (findingsIn rest)) hlater
    | finding r => exact congrArg (List.foldl heedAtOnce · (findingsIn rest)) (timeless_heed hkeeps)

end Session
end FrameLink
