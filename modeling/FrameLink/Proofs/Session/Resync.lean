import Mathlib.Algebra.GroupWithZero.Nat
import FrameLink.Proofs.Decoder.Account
import FrameLink.Proofs.Session.Course
import FrameLink.Proofs.Session.Packets

namespace FrameLink

variable {σ : Type} {T : Transport σ}

namespace Session

variable {s s' : Session σ} {results : List (Except ProtocolError Frame)} {cause : SessionError}

def overdue (s : Session σ) : Nat :=
  if s.receiver.silence s.clock < s.settings.partialTimeout then 0
  else s.receiver.decoder.buffer.length

theorem overrun_of_digest (h : (digest results s).1 = some cause) :
    0 < s.settings.errorLimit ∧ Overrun s.settings.errorLimit s.receiver.strikes results := by
  -- What was found later brings the failure: a frame starts the row anew, an anomaly lengthens it.
  induction results generalizing s with
  | nil => cases h
  | cons r rest ih =>
    cases r with
    | ok f =>
      obtain ⟨_, _, _, _, _, hroute⟩ := route_eq ({ s with
        receiver := { s.receiver with strikes := 0 }
        stats := { s.stats with framesReceived := s.stats.framesReceived + 1 } }) f
      have hreceive : s.receive f = _ := hroute
      obtain ⟨hlimit, front, anomalies, later, rfl, hne, hover⟩ := ih (s := s.receive f) h
      rw [hreceive] at hlimit hover
      dsimp only at hlimit hover
      rw [ite_self] at hover
      refine ⟨hlimit, .ok f :: front, anomalies, later, rfl, hne, ?_⟩
      rwa [if_neg (List.cons_ne_nil _ _)]
    | error e =>
      have hstrike : (s.strike e).1 = _ := strike_fst s e
      have hafter : (s.strike e).2 = _ := strike_snd s e
      rw [digest] at h
      split at hstrike
      · next hmany =>
        exact ⟨hmany.1, [], [e], rest, rfl, List.cons_ne_nil _ _, hmany.2⟩
      · split at h
        · next he => rw [he] at hstrike; cases hstrike
        · next s' he =>
          rw [he] at hafter
          dsimp only at hafter
          subst hafter
          obtain ⟨hlimit, front, anomalies, later, rfl, hne, hover⟩ := ih h
          dsimp only at hlimit hover
          cases front with
          | nil =>
            refine ⟨hlimit, [], e :: anomalies, later, rfl, List.cons_ne_nil _ _, ?_⟩
            rw [if_pos rfl] at hover ⊢
            rwa [ofNat_length_cons]
          | cons r front => exact ⟨hlimit, .error e :: r :: front, anomalies, later, rfl, hne, hover⟩

theorem resyncBytes_fault (T : Transport σ) (s : Session σ) (cause : SessionError) :
    (s.fault T cause).stats.resyncBytes = s.stats.resyncBytes :=
  (Apart.fault T s cause).resyncBytes

end Session

open Session

namespace Take

variable {s : Session σ} {r : Take σ} {p : Packet} {outcome : Except TransportError Packet}

/-- How many bytes a read makes the decoder throw away: of those that it holds and is given, the
ones that belong to no frame; after too long a silence, all that it holds. -/
def skips (r : Take σ) : Nat :=
  match r.outcome with
  | .ok p =>
    if p.data.isEmpty then r.session.overdue
    else (r.session.receiver.decoder.extend p.data).segments.countP Segment.isSkipped
  | .error .timeout => r.session.overdue
  | .error _ => 0

/-- The bytes of a read bring too many anomalies in a row, and the session faults over them. -/
def CutShort (r : Take σ) : Prop :=
  ∃ p, r.outcome = .ok p ∧ p.data ≠ [] ∧ 0 < r.session.settings.errorLimit ∧
    Overrun r.session.settings.errorLimit r.session.receiver.strikes
      (r.session.receiver.decoder.extend p.data).drain.1

theorem skips_of_idle (ho : Idle outcome) : skips ⟨s, outcome⟩ = s.overdue := by
  cases outcome with
  | ok p => exact if_pos (List.isEmpty_iff.mpr ho)
  | error e => rw [show e = .timeout from ho]; rfl

theorem skips_of_data (hp : p.data ≠ []) :
    skips ⟨s, .ok p⟩ = (s.receiver.decoder.extend p.data).segments.countP Segment.isSkipped :=
  if_neg (mt List.isEmpty_iff.mp hp)

theorem skips_of_error {e : TransportError} (he : e ≠ .timeout) : skips ⟨s, .error e⟩ = 0 := by
  cases e with
  | timeout => exact absurd rfl he
  | _ => rfl

theorem cutShort_iff (hp : p.data ≠ []) :
    CutShort ⟨s, .ok p⟩ ↔ ∃ cause, (digest (s.findings (.ok p)) s).1 = some cause := by
  rw [findings_of_data hp]
  constructor
  · rintro ⟨q, hq, -, hlimit, hover⟩
    cases hq
    obtain ⟨n, -, hdigest⟩ := digest_of_overrun rfl hlimit hover
    exact ⟨_, hdigest⟩
  · rintro ⟨cause, hcause⟩
    exact ⟨p, rfl, hp, overrun_of_digest hcause⟩

theorem not_cutShort_of_idle (ho : Idle outcome) : ¬ CutShort ⟨s, outcome⟩ := by
  rintro ⟨p, rfl, hp, -⟩
  exact hp ho

theorem not_cutShort_of_error (e : TransportError) : ¬ CutShort ⟨s, .error e⟩ := by
  rintro ⟨p, hp, -⟩
  cases hp

theorem CutShort.skips_pos (hr : r.CutShort) : 0 < r.skips := by
  obtain ⟨s, outcome⟩ := r
  obtain ⟨p, rfl, hp, -, front, anomalies, rest, hresults, hne, -⟩ := hr
  obtain ⟨e, more, rfl⟩ := List.exists_cons_of_ne_nil hne
  have hm : .error e ∈ (s.receiver.decoder.extend p.data).drain.1 := by
    rw [hresults]
    simp
  have haccount : (s.receiver.decoder.extend p.data).segments.filterMap Segment.result =
      (s.receiver.decoder.extend p.data).drain.1 := (Decoder.drain_accounts _).results
  rw [← haccount] at hm
  obtain ⟨segment, hsegment, hresult⟩ := List.mem_filterMap.mp hm
  -- The anomaly is told of a start marker, which is thrown away.
  rw [skips_of_data hp]
  refine List.countP_pos_iff.mpr ⟨segment, hsegment, ?_⟩
  cases segment with
  | frame f => cases hresult
  | rejected | noise | dropped => rfl

end Take

namespace Session

/-- The reading side of a session that reads is in order: the session lives, and it has taken over
what its decoder has counted. -/
structure Tallied (s : Session σ) : Prop where
  live : s.phase.isLive = true
  skipped : s.receiver.decoder.skipped = 0

variable {s : Session σ} {outcome : Except TransportError Packet} {p : Packet}

/-- What a read adds to the count: all that the decoder has thrown away, or nothing if the session
is cut short. -/
inductive Adds (T : Transport σ) (s : Session σ) (outcome : Except TransportError Packet) : Prop
  | none : Take.CutShort ⟨s, outcome⟩ →
    (s.absorb T outcome).stats.resyncBytes = s.stats.resyncBytes →
    (s.absorb T outcome).phase = .faulted → (s.absorb T outcome).reading = false →
      Adds T s outcome
  | all : ¬ Take.CutShort ⟨s, outcome⟩ →
    (s.absorb T outcome).stats.resyncBytes = s.stats.resyncBytes + Take.skips ⟨s, outcome⟩ →
    ((s.absorb T outcome).reading = true → (s.absorb T outcome).Tallied) → Adds T s outcome

namespace Tallied

theorem adds_data (ht : s.Tallied) (T : Transport σ) (hp : p.data ≠ []) : Adds T s (.ok p) := by
  obtain ⟨s', -, -, -, hphase, -, -, hresync, he⟩ := exists_absorb_eq T s hp
  cases hd : (digest (s.findings (.ok p)) s).1 with
  | some cause =>
    obtain ⟨hfaulted, hstopped, -, -⟩ := absorb_of_failure T hp ht.live hd
    rw [hd] at he
    refine .none ((Take.cutShort_iff hp).mpr ⟨cause, hd⟩) ?_ hfaulted hstopped
    rw [he, resyncBytes_fault, hresync]
  | none =>
    obtain ⟨-, -, -, hdecoder, hcount⟩ := absorb_of_sound T hp hd
    have haccount : s.receiver.decoder.skipped +
        (s.receiver.decoder.extend p.data).segments.countP Segment.isSkipped =
          0 + (s.receiver.decoder.extend p.data).drain.2.skipped :=
      (s.receiver.decoder.extend p.data).drain_accounts.skipped
    rw [ht.skipped] at haccount
    rw [hd] at he
    refine .all (fun hcut => ?_) ?_ fun _ => ⟨?_, ?_⟩
    · obtain ⟨cause, hsome⟩ := (Take.cutShort_iff hp).mp hcut
      cases hd.symm.trans hsome
    · rw [hcount, Take.skips_of_data hp]
      omega
    · rw [he]
      exact hphase ▸ ht.live
    · rw [hdecoder]

theorem adds_idle (ht : s.Tallied) (T : Transport σ) (ho : Idle outcome) : Adds T s outcome := by
  have habsorb := absorb_idle T s ho
  by_cases hnothing : s.receiver.decoder.buffer = [] ∨
      s.receiver.silence s.clock < s.settings.partialTimeout
  · rw [if_pos hnothing] at habsorb
    have hzero : s.overdue = 0 := by
      rw [overdue]
      split
      · rfl
      · next hlong => rw [hnothing.resolve_right hlong, List.length_nil]
    refine .all (Take.not_cutShort_of_idle ho) ?_ fun _ => by rwa [habsorb]
    rw [habsorb, Take.skips_of_idle ho, hzero, Nat.add_zero]
  · rw [if_neg hnothing] at habsorb
    have hdiscard : s.discard.stats.resyncBytes = s.stats.resyncBytes + s.overdue := by
      rw [discard, overdue, if_neg (not_or.mp hnothing).2, ht.skipped, Nat.zero_add]
    have hlive : s.discard.phase.isLive = true := ht.live
    split at habsorb
    · refine .all (Take.not_cutShort_of_idle ho) ?_ fun hr => ?_
      · rw [habsorb, resyncBytes_fault, hdiscard, Take.skips_of_idle ho]
      · rw [habsorb, fault_of_live hlive, failAll_eq] at hr
        cases hr
    · refine .all (Take.not_cutShort_of_idle ho) ?_ fun _ => by rw [habsorb]; exact ⟨hlive, rfl⟩
      rw [habsorb, hdiscard, Take.skips_of_idle ho]

theorem adds_error (ht : s.Tallied) (T : Transport σ) {e : TransportError} (he : e ≠ .timeout) :
    Adds T s (.error e) := by
  have habsorb : s.absorb T (.error e) = s.fault T (s.readFailure T e) := by
    rw [absorb, takeIn_of_error he]
  refine .all (Take.not_cutShort_of_error e) ?_ fun hr => ?_
  · rw [Take.skips_of_error he, habsorb, resyncBytes_fault, Nat.add_zero]
  · rw [habsorb, fault_of_live ht.live, failAll_eq] at hr
    cases hr

theorem adds (ht : s.Tallied) (T : Transport σ) (outcome : Except TransportError Packet) :
    Adds T s outcome := by
  cases outcome with
  | ok p =>
    by_cases hp : p.data = []
    · exact ht.adds_idle T hp
    · exact ht.adds_data T hp
  | error e =>
    by_cases he : e = .timeout
    · exact ht.adds_idle T he
    · exact ht.adds_error T he

end Tallied

theorem Course.tallied {before : Nat} {reads : List (Take σ)} (h : Course T before reads s)
    (hr : s.reading = true) : s.Tallied := by
  induction h with
  | new => cases hr
  | apart _ ha ih =>
    have ht := ih (ha.reading hr)
    exact ⟨ha.live hr ht.live, ha.receiver ▸ ht.skipped⟩
  | read outcome _ hreads ih =>
    cases (ih hreads).adds T outcome with
    | none _ _ _ hstopped => cases hstopped.symm.trans hr
    | all _ _ ht => exact ht hr
  | opened => exact ⟨rfl, rfl⟩

def skippedBy (reads : List (Take σ)) : Nat := (reads.map Take.skips).sum

theorem skippedBy_concat (reads : List (Take σ)) (r : Take σ) :
    skippedBy (reads ++ [r]) = skippedBy reads + r.skips := by
  simp [skippedBy]

/-- All that was thrown away on a connection has been counted, but what its last read brought if
that cut the session short. -/
theorem Course.counted {before : Nat} {reads : List (Take σ)} (h : Course T before reads s) :
    ((∀ r ∈ reads, ¬ r.CutShort) ∧ s.stats.resyncBytes = before + skippedBy reads) ∨
      ∃ earlier last, reads = earlier ++ [last] ∧ (∀ r ∈ earlier, ¬ r.CutShort) ∧ last.CutShort ∧
        s.reading = false ∧ s.stats.resyncBytes = before + skippedBy earlier := by
  induction h with
  | new => exact .inl ⟨fun r hr => absurd hr List.not_mem_nil, rfl⟩
  | @apart before reads s s' _ ha ih =>
    rw [ha.resyncBytes]
    obtain hall | ⟨earlier, last, he, hsound, hcut, hstopped, hcount⟩ := ih
    · exact .inl hall
    · refine .inr ⟨earlier, last, he, hsound, hcut, ?_, hcount⟩
      exact Bool.eq_false_iff.mpr fun hr => Bool.eq_false_iff.mp hstopped (ha.reading hr)
  | @read before reads s outcome hcourse hr ih =>
    obtain ⟨hsound, hcount⟩ | ⟨_, _, -, -, -, hstopped, -⟩ := ih
    · cases (hcourse.tallied hr).adds T outcome with
      | none hcut hsame _ hstopped =>
        exact .inr ⟨reads, _, rfl, hsound, hcut, hstopped, hsame.trans hcount⟩
      | all hcut hmore _ =>
        refine .inl ⟨List.forall_mem_append.mpr ⟨hsound, List.forall_mem_singleton.mpr hcut⟩, ?_⟩
        rw [hmore, hcount, skippedBy_concat, Nat.add_assoc]
    · -- A session that was cut short reads no more.
      cases hstopped.symm.trans hr
  | opened => exact .inl ⟨fun r hr => absurd hr List.not_mem_nil, rfl⟩

end Session

namespace Client

/-- Whatever is done with a new session, over any link. A read adds to the count what the decoder
has thrown away for it, unless its bytes bring too many anomalies in a row: then the session faults,
and nothing is added although something was thrown away. So at any time the count has grown, since
the link was opened, by all that has been thrown away on the connection, but for what a last read
brought that faulted it so. -/
theorem run_new_resynced (T : Transport σ) (settings : SessionSettings) (selector : Selector)
    (pace : Pace) (link : σ) (calls : List (Call σ)) :
    (∃ before reads, Course T before reads
      (run T { session := Session.new settings selector pace link } calls).session) ∧
    ∀ before reads s, Course T before reads s →
      (s.reading = true → ∀ outcome, let r : Take σ := ⟨s, outcome⟩
        let s' := s.absorb T outcome
        (¬ r.CutShort → s'.stats.resyncBytes = s.stats.resyncBytes + r.skips) ∧
        (r.CutShort → s'.stats.resyncBytes = s.stats.resyncBytes ∧ 0 < r.skips ∧
          s'.phase = .faulted)) ∧
      (((∀ r ∈ reads, ¬ r.CutShort) ∧ s.stats.resyncBytes = before + skippedBy reads) ∨
        ∃ earlier last, reads = earlier ++ [last] ∧ (∀ r ∈ earlier, ¬ r.CutShort) ∧
          last.CutShort ∧ s.reading = false ∧
          s.stats.resyncBytes = before + skippedBy earlier) := by
  refine ⟨exists_course T settings selector pace link calls,
    fun before reads s hs => ⟨?_, hs.counted⟩⟩
  intro hr outcome r s'
  cases (hs.tallied hr).adds T outcome with
  | none hcut hsame hfaulted _ =>
    exact ⟨fun hnot => absurd hcut hnot, fun _ => ⟨hsame, hcut.skips_pos, hfaulted⟩⟩
  | all hcut hmore _ => exact ⟨fun _ => hmore, fun h => absurd h hcut⟩

def damagedTwice : Bytes := [0x7E, 0, 1, 0, 0x7E, 0, 2, 0]

def jarred : Client Bench :=
  let settings := { SessionSettings.standard with errorLimit := 1 }
  run Bench.transport
    { session := Session.new settings .standard .stepped (.new settings.codec) }
    [.connect, .device (·.act (.raw damagedTwice ⟨0⟩))]

/-- All bytes of a packet are thrown away, the session faults, and none of them is counted. -/
theorem run_jarred_uncounted :
    jarred.session.phase = .ready ∧
      Take.skips ⟨jarred.session, .ok ⟨damagedTwice, ⟨0⟩⟩⟩ = damagedTwice.length ∧
      (jarred.run Bench.transport [.read 1]).session.phase = .faulted ∧
      (jarred.run Bench.transport [.read 1]).session.link.device.inbound = [] ∧
      (jarred.run Bench.transport [.read 1]).session.stats.resyncBytes =
        jarred.session.stats.resyncBytes := by
  decide +kernel

end Client
end FrameLink
