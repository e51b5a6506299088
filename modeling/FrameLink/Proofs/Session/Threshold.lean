import FrameLink.Proofs.Session.Packets
import FrameLink.Proofs.Session.Reads
import Mathlib.Data.List.Induction

namespace FrameLink

variable {found : List (Except ProtocolError Frame)} {n : Nat} {e : ProtocolError} {f : Frame}

/-- What was found ends with so many anomalies, and no frame between them. -/
def InARow (n : Nat) (found : List (Except ProtocolError Frame)) : Prop :=
  ∃ (before : List (Except ProtocolError Frame)) (anomalies : List ProtocolError),
    found = before ++ anomalies.map .error ∧ anomalies.length = n

def streak (found : List (Except ProtocolError Frame)) : Nat :=
  found.foldl (fun n r => match r with
    | .ok _ => 0
    | .error _ => n + 1) 0

@[simp] theorem streak_concat_ok (found : List (Except ProtocolError Frame)) (f : Frame) :
    streak (found ++ [.ok f]) = 0 := by
  simp [streak]

@[simp] theorem streak_concat_error (found : List (Except ProtocolError Frame))
    (e : ProtocolError) : streak (found ++ [.error e]) = streak found + 1 := by
  simp [streak]

theorem streak_append_errors (found : List (Except ProtocolError Frame))
    (anomalies : List ProtocolError) :
    streak (found ++ anomalies.map .error) = streak found + anomalies.length := by
  induction anomalies generalizing found with
  | nil => simp
  | cons e anomalies ih =>
    rw [List.map_cons, List.append_cons, ih, streak_concat_error, List.length_cons]
    omega

theorem inARow_zero (found : List (Except ProtocolError Frame)) : InARow 0 found :=
  ⟨found, [], (List.append_nil _).symm, rfl⟩

theorem inARow_iff : InARow n found ↔ n ≤ streak found := by
  constructor
  · rintro ⟨before, anomalies, rfl, rfl⟩
    rw [streak_append_errors]
    exact Nat.le_add_left _ _
  · intro hle
    induction found using List.reverseRecOn generalizing n with
    | nil =>
      obtain rfl : n = 0 := Nat.le_zero.mp hle
      exact inARow_zero []
    | append_singleton found r ih =>
      cases n with
      | zero => exact inARow_zero _
      | succ n =>
        cases r with
        | ok f => simp at hle
        | error e =>
          rw [streak_concat_error, Nat.add_le_add_iff_right] at hle
          obtain ⟨before, anomalies, rfl, rfl⟩ := ih hle
          exact ⟨before, anomalies ++ [e], by simp, by simp⟩

def TooMany (limit : Nat) (found : List (Except ProtocolError Frame)) : Prop :=
  0 < limit ∧ InARow (limit + 1) found

theorem exists_prefix_streak (hle : n ≤ streak found) :
    ∃ front, front <+: found ∧ streak front = n := by
  induction found using List.reverseRecOn with
  | nil => exact ⟨[], List.prefix_rfl, (Nat.le_zero.mp hle).symm⟩
  | append_singleton found r ih =>
    by_cases heq : n = streak (found ++ [r])
    · exact ⟨_, List.prefix_rfl, heq.symm⟩
    cases r with
    | ok f =>
      rw [streak_concat_ok] at hle heq
      exact absurd (Nat.le_zero.mp hle) heq
    | error e =>
      rw [streak_concat_error] at hle heq
      obtain ⟨front, hf, hn⟩ := ih (by omega)
      exact ⟨front, hf.trans (List.prefix_append _ _), hn⟩

/-- The count of anomalies at the end of what was found is over the limit, if there is one. The
count goes around. -/
def Exceeds (limit : UInt32) (found : List (Except ProtocolError Frame)) : Prop :=
  0 < limit ∧ limit < UInt32.ofNat (streak found)

theorem Exceeds.tooMany {limit : UInt32} (h : Exceeds limit found) :
    TooMany limit.toNat found := by
  obtain ⟨hpos, hlt⟩ := h
  rw [UInt32.lt_iff_toNat_lt, UInt32.toNat_ofNat'] at hlt
  have hmod := Nat.mod_le (streak found) (2 ^ 32)
  exact ⟨UInt32.lt_iff_toNat_lt.mp hpos, inARow_iff.mpr (by omega)⟩

/-- Below the greatest limit the count does not go around before it is over the limit. -/
theorem TooMany.exists_exceeds {limit : UInt32} (hlimit : limit < 4294967295)
    (h : TooMany limit.toNat found) :
    ∃ front, front <+: found ∧ streak front = limit.toNat + 1 ∧ Exceeds limit front := by
  obtain ⟨hpos, hrow⟩ := h
  obtain ⟨front, hf, hn⟩ := exists_prefix_streak (inARow_iff.mp hrow)
  refine ⟨front, hf, hn, UInt32.lt_iff_toNat_lt.mpr hpos, ?_⟩
  rw [UInt32.lt_iff_toNat_lt] at hlimit
  rw [UInt32.lt_iff_toNat_lt, UInt32.toNat_ofNat', hn]
  change limit.toNat < 4294967295 at hlimit
  omega

theorem not_exceeds_greatest : ¬ Exceeds 4294967295 found := fun h =>
  Nat.not_lt.mpr (Nat.le_of_lt_succ (UInt32.toNat_lt _)) (UInt32.lt_iff_toNat_lt.mp h.2)

def framesIn (found : List (Except ProtocolError Frame)) : List Frame :=
  found.filterMap Except.toOption

def anomaliesIn (found : List (Except ProtocolError Frame)) : List ProtocolError :=
  found.filterMap fun r => match r with
    | .ok _ => none
    | .error e => some e

@[simp] theorem framesIn_concat_ok (found : List (Except ProtocolError Frame)) (f : Frame) :
    framesIn (found ++ [.ok f]) = framesIn found ++ [f] := by
  rw [framesIn, List.filterMap_append]
  rfl

@[simp] theorem framesIn_concat_error (found : List (Except ProtocolError Frame))
    (e : ProtocolError) : framesIn (found ++ [.error e]) = framesIn found := by
  rw [framesIn, List.filterMap_append]
  exact List.append_nil _

@[simp] theorem anomaliesIn_concat_ok (found : List (Except ProtocolError Frame)) (f : Frame) :
    anomaliesIn (found ++ [.ok f]) = anomaliesIn found := by
  rw [anomaliesIn, List.filterMap_append]
  exact List.append_nil _

@[simp] theorem anomaliesIn_concat_error (found : List (Except ProtocolError Frame))
    (e : ProtocolError) : anomaliesIn (found ++ [.error e]) = anomaliesIn found ++ [e] := by
  rw [anomaliesIn, List.filterMap_append]
  rfl

def ProtocolError.isMismatch : ProtocolError → Bool
  | checksumMismatch .. => true
  | _ => false

namespace Session

variable {σ : Type} {T : Transport σ} {s s' s₀ : Session σ}
  {rest results : List (Except ProtocolError Frame)} {outcome : Except TransportError Packet}

theorem findings_idle (ho : Idle outcome) : s.findings outcome = s.abandoned := by
  cases outcome with
  | ok p => exact if_pos (List.isEmpty_iff.mpr ho)
  | error e => rw [show e = .timeout from ho, findings]

theorem digest_error (s : Session σ) (e : ProtocolError) : digest [.error e] s = s.strike e := by
  rw [digest]
  split
  · next he => rw [he]
  · next he => rw [he, digest]

theorem digested_cons_of_none (h : (s.strike e).1 = none) :
    s.digested T (.error e :: results) = (s.strike e).2.digested T results := by
  rw [← digest_error] at h ⊢
  exact digested_append h results

theorem digested_cons_of_some {cause : SessionError} (h : (s.strike e).1 = some cause) :
    s.digested T (.error e :: results) = (s.strike e).2.fault T cause := by
  have hall : digest (.error e :: results) s = s.strike e := by
    rw [digest]
    split
    · next he => rw [he]
    · next he => rw [he] at h; cases h
  rw [← hall] at h ⊢
  exact digested_of_some h

theorem fault_ended (T : Transport σ) (hl : s.phase.isLive = true) (cause : SessionError) :
    (s.fault T cause).phase = .faulted ∧ (s.fault T cause).reading = false ∧
      (s.fault T cause).faults = cause :: s.faults := by
  rw [fault_of_live hl, failAll_eq]
  exact ⟨rfl, rfl, rfl⟩

theorem outward_absorb_idle (T : Transport σ) (s : Session σ) (ho : Idle outcome) :
    (s.absorb T outcome).outward = (s.digested T (s.findings outcome)).outward := by
  rw [findings_idle ho, absorb_idle T s ho, abandoned]
  by_cases hb : s.receiver.decoder.buffer = []
  · rw [if_pos (.inl hb), if_pos (List.isEmpty_iff.mpr hb)]
    rfl
  · rw [if_neg (mt List.isEmpty_iff.mp hb)]
    by_cases hs : s.receiver.silence s.clock < s.settings.partialTimeout
    · rw [if_pos (.inr hs), if_pos hs]
      rfl
    · rw [if_neg (not_or.mpr ⟨hb, hs⟩), if_neg hs]
      generalize Malformation.incomplete _ = why
      have hfst := strike_fst s (.malformedFrame why)
      have hsnd : (s.strike (.malformedFrame why)).2.outward = s.discard.outward := by
        rw [strike_snd]
        rfl
      rw [← digest_error] at hfst hsnd
      split
      · next hover =>
        rw [if_pos hover] at hfst
        rw [digested_of_some hfst, outward_fault, outward_fault, hsnd]
      · next hover =>
        rw [if_neg hover] at hfst
        rw [digested_of_none hfst, hsnd]

theorem outward_heard (T : Transport σ) (s : Session σ) (ho : Heard outcome) :
    (s.absorb T outcome).outward = (s.digested T (s.findings outcome)).outward := by
  cases outcome with
  | ok p =>
    by_cases hp : p.data = []
    · exact outward_absorb_idle T s hp
    · exact outward_absorb T s hp
  | error e => exact outward_absorb_idle T s ho

theorem receiver_route (s : Session σ) (f : Frame) : (s.route f).receiver = s.receiver := by
  obtain ⟨_, _, _, _, _, h⟩ := route_eq s f
  rw [h]

theorem faults_route (s : Session σ) (f : Frame) : (s.route f).faults = s.faults := by
  obtain ⟨_, _, _, _, _, h⟩ := route_eq s f
  rw [h]

theorem stats_receive (s : Session σ) (f : Frame) :
    ∃ n, (s.receive f).stats =
      { s.stats with framesReceived := s.stats.framesReceived + 1, duplicateResponses := n } :=
  stats_route _ f

/-- What a session has counted and routed since it was another one, if this is what was found and
all of it was heeded. -/
structure Tallies (s₀ : Session σ) (heard : List (Except ProtocolError Frame)) (s : Session σ) :
    Prop where
  limit : s.settings.errorLimit = s₀.settings.errorLimit
  arrived : s.arrived = s₀.arrived ++ framesIn heard
  received : s.stats.framesReceived = s₀.stats.framesReceived + (framesIn heard).length
  checksums : s.stats.checksumFailures =
    s₀.stats.checksumFailures + (anomaliesIn heard).countP ProtocolError.isMismatch
  malformed : s.stats.malformedFrames =
    s₀.stats.malformedFrames + (anomaliesIn heard).countP fun e => ! e.isMismatch
  strikes : s.receiver.strikes = UInt32.ofNat (streak heard)

namespace Tallies

variable {heard : List (Except ProtocolError Frame)}

theorem start (s : Session σ) (h : s.receiver.strikes = 0) : Tallies s [] s where
  limit := rfl
  arrived := (List.append_nil _).symm
  received := rfl
  checksums := rfl
  malformed := rfl
  strikes := h

theorem of_outward (h : Tallies s₀ heard s) (ho : s'.outward = s.outward) : Tallies s₀ heard s' where
  limit := (congrArg (fun t => t.settings.errorLimit) ho).trans h.limit
  arrived := (congrArg Session.arrived ho).trans h.arrived
  received := (congrArg (fun t => t.stats.framesReceived) ho).trans h.received
  checksums := (congrArg (fun t => t.stats.checksumFailures) ho).trans h.checksums
  malformed := (congrArg (fun t => t.stats.malformedFrames) ho).trans h.malformed
  strikes := (congrArg (fun t => t.receiver.strikes) ho).trans h.strikes

theorem beside (h : Tallies s₀ heard s) (hb : Beside s s') : Tallies s₀ heard s' where
  limit := by rw [hb.settings, h.limit]
  arrived := hb.arrived.trans h.arrived
  received := hb.received.trans h.received
  checksums := hb.checksums.trans h.checksums
  malformed := hb.malformed.trans h.malformed
  strikes := by rw [hb.receiver, h.strikes]

theorem fault (h : Tallies s₀ heard s) (T : Transport σ) (hl : s.phase.isLive = true)
    (cause : SessionError) : Tallies s₀ heard (s.fault T cause) := by
  have harrived : (s.fault T cause).arrived = s.arrived := by
    rw [Session.arrived, journal_fault, Session.arrived]
  rw [fault_of_live hl, failAll_eq] at harrived ⊢
  exact ⟨h.limit, harrived.trans h.arrived, h.received, h.checksums, h.malformed, h.strikes⟩

theorem receive (h : Tallies s₀ heard s) (f : Frame) :
    Tallies s₀ (heard ++ [.ok f]) (s.receive f) := by
  obtain ⟨n, hs⟩ := stats_receive s f
  constructor
  · rw [(sameReader_receive s f).settings, h.limit]
  · rw [framesIn_concat_ok, ← List.append_assoc, ← h.arrived]
    exact arrived_note (journal_route _ f)
  · rw [hs, framesIn_concat_ok, List.length_append, ← Nat.add_assoc, ← h.received]
    rfl
  · rw [hs, anomaliesIn_concat_ok, ← h.checksums]
  · rw [hs, anomaliesIn_concat_ok, ← h.malformed]
  · rw [streak_concat_ok]
    exact congrArg Receiver.strikes (receiver_route _ f)

theorem strike (h : Tallies s₀ heard s) (e : ProtocolError) :
    Tallies s₀ (heard ++ [.error e]) (s.strike e).2 := by
  rw [strike_snd]
  constructor
  · exact h.limit
  · rw [framesIn_concat_error]
    exact h.arrived
  · rw [framesIn_concat_error, ← h.received]
    cases e <;> rfl
  · rw [anomaliesIn_concat_error, List.countP_append, ← Nat.add_assoc, ← h.checksums]
    cases e <;> rfl
  · rw [anomaliesIn_concat_error, List.countP_append, ← Nat.add_assoc, ← h.malformed]
    cases e <;> rfl
  · rw [streak_concat_error, UInt32.ofNat_add, ← h.strikes]
    rfl

end Tallies

structure Bears (s₀ : Session σ) (heard : List (Except ProtocolError Frame)) (s : Session σ) : Prop
    extends Tallies s₀ heard s where
  few : ∀ front, front <+: heard → ¬ Exceeds s₀.settings.errorLimit front
  live : s.phase.isLive = true
  reading : s.reading = true
  faults : s.faults = []

structure Broke (s₀ : Session σ) (heard : List (Except ProtocolError Frame)) (s : Session σ) : Prop
    extends Tallies s₀ heard s where
  many : Exceeds s₀.settings.errorLimit heard
  first : ∀ front, front <+: heard → front ≠ heard → ¬ Exceeds s₀.settings.errorLimit front
  phase : s.phase = .faulted
  reading : s.reading = false
  cause : s.faults.getLast? = some (anomaliesInRow (UInt32.ofNat (streak heard)))

namespace Bears

variable {heard : List (Except ProtocolError Frame)}

theorem few_concat (h : Bears s₀ heard s) {r : Except ProtocolError Frame}
    (hr : ¬ Exceeds s₀.settings.errorLimit (heard ++ [r])) :
    ∀ front, front <+: heard ++ [r] → ¬ Exceeds s₀.settings.errorLimit front := by
  intro front hf
  obtain rfl | hf := List.prefix_concat_iff.mp hf
  · exact hr
  · exact h.few front hf

theorem receive (h : Bears s₀ heard s) (f : Frame) : Bears s₀ (heard ++ [.ok f]) (s.receive f) where
  toTallies := h.toTallies.receive f
  few := h.few_concat fun hmany => UInt32.not_lt_zero (streak_concat_ok heard f ▸ hmany.2)
  live := by rw [(sameReader_receive s f).phase, h.live]
  reading := by rw [(sameReader_receive s f).reading, h.reading]
  faults := (faults_route _ f).trans h.faults

theorem strike (h : Bears s₀ heard s) (T : Transport σ) (e : ProtocolError) :
    (s.strike e).1 = none ∧ Bears s₀ (heard ++ [.error e]) (s.strike e).2 ∨
      ∃ cause, (s.strike e).1 = some cause ∧
        Broke s₀ (heard ++ [.error e]) ((s.strike e).2.fault T cause) := by
  have hfst := strike_fst s e
  have htallies := h.toTallies.strike e
  have hsame := sameReader_strike s e
  have hlive : (s.strike e).2.phase.isLive = true := hsame.phase ▸ h.live
  have hfaults : (s.strike e).2.faults = [] := by
    rw [strike_snd]
    exact h.faults
  have hcount : s.receiver.strikes + 1 = UInt32.ofNat (streak (heard ++ [.error e])) := by
    rw [streak_concat_error, UInt32.ofNat_add, h.strikes]
    rfl
  rw [h.limit, hcount] at hfst
  by_cases hmany : Exceeds s₀.settings.errorLimit (heard ++ [.error e])
  · obtain ⟨hphase, hreading, hcause⟩ := fault_ended T hlive
      (anomaliesInRow (UInt32.ofNat (streak (heard ++ [.error e]))))
    refine .inr ⟨_, hfst.trans (if_pos hmany), ⟨htallies.fault T hlive _, hmany, fun front hf hne => ?_, hphase, hreading, ?_⟩⟩
    · exact h.few front ((List.prefix_concat_iff.mp hf).resolve_left hne)
    · rw [hcause, hfaults]
      rfl
  · exact .inl ⟨hfst.trans (if_neg hmany), ⟨htallies, h.few_concat hmany, hlive, hsame.reading ▸ h.reading, hfaults⟩⟩

theorem digested (h : Bears s₀ heard s) (T : Transport σ)
    (results : List (Except ProtocolError Frame)) :
    ∃ more rest, results = more ++ rest ∧
      (rest = [] ∧ Bears s₀ (heard ++ more) (s.digested T results) ∨
        Broke s₀ (heard ++ more) (s.digested T results)) := by
  induction results generalizing s heard with
  | nil => exact ⟨[], [], rfl, .inl ⟨rfl, by rwa [List.append_nil]⟩⟩
  | cons r results ih =>
    cases r with
    | ok f =>
      obtain ⟨more, rest, rfl, hcases⟩ := ih (h.receive f)
      rw [List.append_assoc] at hcases
      exact ⟨.ok f :: more, rest, rfl, hcases⟩
    | error e =>
      obtain ⟨hnone, hbears⟩ | ⟨cause, hsome, hbroke⟩ := h.strike T e
      · obtain ⟨more, rest, rfl, hcases⟩ := ih hbears
        rw [List.append_assoc, ← digested_cons_of_none hnone] at hcases
        exact ⟨.error e :: more, rest, rfl, hcases⟩
      · rw [← digested_cons_of_some hsome] at hbroke
        exact ⟨[.error e], results, rfl, .inr hbroke⟩

theorem of_outward (h : Bears s₀ heard s) (ho : s'.outward = s.outward) : Bears s₀ heard s' where
  toTallies := h.toTallies.of_outward ho
  few := h.few
  live := (congrArg (fun t => t.phase.isLive) ho).trans h.live
  reading := (congrArg Session.reading ho).trans h.reading
  faults := (congrArg Session.faults ho).trans h.faults

theorem beside (h : Bears s₀ heard s) (hb : Beside s s') : Bears s₀ heard s' where
  toTallies := h.toTallies.beside hb
  few := h.few
  live := (hb.live h.live).1
  reading := hb.reading.trans h.reading
  faults := (hb.live h.live).2.trans h.faults

end Bears

namespace Broke

variable {heard : List (Except ProtocolError Frame)}

theorem of_outward (h : Broke s₀ heard s) (ho : s'.outward = s.outward) : Broke s₀ heard s' where
  toTallies := h.toTallies.of_outward ho
  many := h.many
  first := h.first
  phase := (congrArg Session.phase ho).trans h.phase
  reading := (congrArg Session.reading ho).trans h.reading
  cause := (congrArg (fun t => t.faults.getLast?) ho).trans h.cause

theorem beside (h : Broke s₀ heard s) (hb : Beside s s') : Broke s₀ heard s' := by
  obtain ⟨hphase, more, hfaults⟩ := hb.ended (by rw [h.phase]; rfl)
  refine ⟨h.toTallies.beside hb, h.many, h.first, hphase.trans h.phase,
    hb.reading.trans h.reading, ?_⟩
  rw [← hfaults, List.getLast?_append, h.cause, Option.some_or]

end Broke

/-- As long as it reads a connection has borne all anomalies, and if it does not it was one too
many. -/
theorem Reads.bears_or_broke (h : Reads T s₀ results s) (hs : Bears s₀ [] s₀) :
    ∃ heard rest, results = heard ++ rest ∧
      (rest = [] ∧ Bears s₀ heard s ∨ Broke s₀ heard s) := by
  induction h with
  | start => exact ⟨[], [], rfl, .inl ⟨rfl, hs⟩⟩
  | beside _ hb ih =>
    obtain ⟨heard, rest, he, hcases⟩ := ih
    exact ⟨heard, rest, he, hcases.imp (And.imp_right (·.beside hb)) (·.beside hb)⟩
  | @read results s outcome _ hr ho ih =>
    have houtward := outward_heard T s ho
    obtain ⟨heard, rest, rfl, ⟨rfl, hbears⟩ | hbroke⟩ := ih
    · obtain ⟨more, rest, he, hcases⟩ := hbears.digested T (s.findings outcome)
      refine ⟨heard ++ more, rest, by rw [he, List.append_nil, List.append_assoc], ?_⟩
      exact hcases.imp (And.imp_right (·.of_outward houtward)) (·.of_outward houtward)
    · exact absurd (hr.symm.trans hbroke.reading) nofun

/-- A connection from its start on, with any limit: it faults as soon as the count of anomalies is
over the limit. -/
theorem Reads.faults_when_exceeded {link : σ}
    (h : Reads T ((s.setPhase .handshaking).attachLink link) results s') :
    let limit := s.settings.errorLimit
    ∃ heard unheard, results = heard ++ unheard ∧
      (∀ front, front <+: heard → front ≠ heard → ¬ Exceeds limit front) ∧
      (Exceeds limit heard → s'.phase = .faulted ∧ s'.reading = false ∧
        s'.faults.getLast? = some (anomaliesInRow (UInt32.ofNat (streak heard)))) ∧
      (¬ Exceeds limit heard → unheard = [] ∧ s'.phase.isLive = true ∧ s'.reading = true ∧
        s'.faults = []) ∧
      s'.arrived = s.arrived ++ framesIn heard ∧
      s'.stats.framesReceived = s.stats.framesReceived + (framesIn heard).length ∧
      s'.stats.framingErrors = s.stats.framingErrors + (anomaliesIn heard).length ∧
      s'.stats.checksumFailures =
        s.stats.checksumFailures + (anomaliesIn heard).countP ProtocolError.isMismatch := by
  intro limit
  have harrived : ((s.setPhase .handshaking).attachLink link).arrived = s.arrived :=
    (arrived_note rfl).trans (List.append_nil _)
  have hstart : Bears ((s.setPhase .handshaking).attachLink link) []
      ((s.setPhase .handshaking).attachLink link) := by
    refine ⟨.start _ rfl, fun front hf hmany => ?_, rfl, rfl, rfl⟩
    rw [List.prefix_nil.mp hf] at hmany
    exact UInt32.not_lt_zero hmany.2
  have htogether {heard : List (Except ProtocolError Frame)}
      (ht : Tallies ((s.setPhase .handshaking).attachLink link) heard s') :
      s'.stats.framingErrors = s.stats.framingErrors + (anomaliesIn heard).length := by
    rw [Stats.framingErrors, ht.checksums, ht.malformed, Stats.framingErrors,
      (anomaliesIn heard).length_eq_countP_add_countP ProtocolError.isMismatch]
    simp only [Bool.not_eq_true, Bool.decide_eq_false]
    exact Nat.add_add_add_comm _ _ _ _
  obtain ⟨heard, rest, rfl, ⟨rfl, hbears⟩ | hbroke⟩ := h.bears_or_broke hstart
  · have hnot : ¬ Exceeds limit heard := hbears.few heard List.prefix_rfl
    refine ⟨heard, [], rfl, fun front hf _ => hbears.few front hf, fun hmany => absurd hmany hnot,
      fun _ => ⟨rfl, hbears.live, hbears.reading, hbears.faults⟩, ?_, hbears.received,
      htogether hbears.toTallies, hbears.checksums⟩
    rw [hbears.arrived, harrived]
  · refine ⟨heard, rest, rfl, hbroke.first, fun _ => ⟨hbroke.phase, hbroke.reading, hbroke.cause⟩,
      fun hnot => absurd hbroke.many hnot, ?_, hbroke.received, htogether hbroke.toTallies,
      hbroke.checksums⟩
    rw [hbroke.arrived, harrived]

/-- The count cannot get over the greatest limit, and no anomalies are too many for it. -/
theorem Reads.live_of_greatest {link : σ} (hlimit : s.settings.errorLimit = 4294967295)
    (h : Reads T ((s.setPhase .handshaking).attachLink link) results s') :
    s'.phase.isLive = true ∧ s'.reading = true ∧ s'.faults = [] ∧
      s'.arrived = s.arrived ++ framesIn results := by
  obtain ⟨heard, unheard, rfl, -, -, hfew, harrived, -⟩ := h.faults_when_exceeded
  obtain ⟨rfl, hlive, hreading, hfaults⟩ := hfew (hlimit ▸ not_exceeds_greatest)
  exact ⟨hlive, hreading, hfaults, by rwa [List.append_nil]⟩

/-- A connection from its start on, with any reads, and with anything else done in between. It works
through frames and anomalies in the order in which they are found, up to the first anomaly that is
one too many in a row, and through all of them if there is none. It has faulted if there is, with
that number as the cause, and it has not if there is none, above all if there is no limit. What it
has worked through it has routed and counted, and nothing else. The greatest limit is no limit: the
count of anomalies goes around before it is over that one. -/
theorem Reads.faults_at_limit {link : σ} (hlimit : s.settings.errorLimit < 4294967295)
    (h : Reads T ((s.setPhase .handshaking).attachLink link) results s') :
    let limit := s.settings.errorLimit.toNat
    ∃ heard unheard, results = heard ++ unheard ∧
      (∀ front, front <+: heard → front ≠ heard → ¬ TooMany limit front) ∧
      (TooMany limit heard → s'.phase = .faulted ∧ s'.reading = false ∧
        s'.faults.getLast? =
          some (.transportIo (toString (limit + 1) ++ " consecutive framing errors"))) ∧
      (¬ TooMany limit heard → unheard = [] ∧ s'.phase.isLive = true ∧ s'.reading = true ∧
        s'.faults = []) ∧
      s'.arrived = s.arrived ++ framesIn heard ∧
      s'.stats.framesReceived = s.stats.framesReceived + (framesIn heard).length ∧
      s'.stats.framingErrors = s.stats.framingErrors + (anomaliesIn heard).length ∧
      s'.stats.checksumFailures =
        s.stats.checksumFailures + (anomaliesIn heard).countP ProtocolError.isMismatch := by
  intro limit
  obtain ⟨heard, unheard, rfl, hfirst, hmany, hfew, hcounts⟩ := h.faults_when_exceeded
  refine ⟨heard, unheard, rfl, fun front hf hne htoo => ?_, fun htoo => ?_,
    fun hnot => hfew fun hover => hnot hover.tooMany, hcounts⟩
  · obtain ⟨front', hf', -, hover⟩ := htoo.exists_exceeds hlimit
    refine hfirst front' (hf'.trans hf) (fun he => ?_) hover
    exact hne (hf.eq_of_length_le (he ▸ hf'.length_le))
  · -- The first prefix that exceeds the limit is all that was heeded.
    obtain ⟨front, hf, hn, hover⟩ := htoo.exists_exceeds hlimit
    obtain rfl : front = heard := by
      by_contra hne
      exact hfirst front hf hne hover
    obtain ⟨hphase, hreading, hcause⟩ := hmany hover
    refine ⟨hphase, hreading, ?_⟩
    have hround : (UInt32.ofNat (limit + 1)).toNat = limit + 1 := by
      rw [UInt32.lt_iff_toNat_lt] at hlimit
      exact UInt32.toNat_ofNat_of_lt' (Nat.succ_lt_succ hlimit)
    have htext : toString (UInt32.ofNat (limit + 1)) = toString (limit + 1) :=
      congrArg (fun n : Nat => toString n) hround
    rw [hcause, hn, anomaliesInRow, htext]

/-- A connection that bears one anomaly. A started frame is given up, and a frame with a wrong check
value arrives together with a sound one. -/
theorem Reads.faults_at_limit_one :
    let settings := { SessionSettings.standard with errorLimit := 1 }
    let s := Session.new settings .standard .stepped ()
    let s₀ := (s.setPhase .handshaking).attachLink ()
    let start : Packet := ⟨[0x7E, 0, 4], ⟨0⟩⟩
    let s₁ := s₀.absorb .mute (.ok start)
    let s₂ := { s₁ with clock := settings.partialTimeout.nanos }
    let s₃ := s₂.absorb .mute (.error .timeout)
    let both : Packet := ⟨[0x7E, 0, 4, 0xFB, 0, 1, 2, 0x62, 0xC8, 0xBF,
      0x7E, 0, 4, 0xFB, 0, 2, 2, 0x62, 0x91, 0xEE], ⟨0⟩⟩
    let s₄ := s₃.absorb .mute (.ok both)
    let results := s₂.findings (.error .timeout) ++ s₃.findings (.ok both)
    Reads .mute s₀ results s₄ ∧ results.length = 3 ∧
      s₄.phase = .faulted ∧
      s₄.faults.getLast? = some (.transportIo "2 consecutive framing errors") := by
  intro settings s s₀ start s₁ s₂ s₃ both s₄ results
  have hreads : Reads .mute s₀ results s₄ := by
    have hstart : s₀.findings (.ok start) = [] := by decide +kernel
    have h₁ : Reads .mute s₀ ([] ++ s₀.findings (.ok start)) s₁ := .read .start rfl trivial
    rw [hstart] at h₁
    have hlive : s₁.phase.isLive = true ∧ s₁.reading = true ∧ s₃.reading = true := by decide +kernel
    have hbeside : Beside s₁ s₂ := ⟨rfl, rfl, rfl, rfl, rfl, rfl, rfl, fun h => ⟨h, rfl⟩,
      fun h => absurd (h.symm.trans hlive.1) nofun⟩
    have hsilent : Heard (.error .timeout) := rfl
    have h₃ : Reads .mute s₀ (s₂.findings (.error .timeout)) s₃ :=
      .read (.beside h₁ hbeside) hlive.2.1 hsilent
    exact .read h₃ hlive.2.2 trivial
  have hresults : results = [.error (.malformedFrame (.incomplete 3)),
      .error (.checksumMismatch 51391 51390), .ok ⟨2, 2, [0x62]⟩] := by decide +kernel
  obtain ⟨heard, unheard, he, hfirst, hmany, hfew, -⟩ := Reads.faults_at_limit (by decide) hreads
  have hover : TooMany s.settings.errorLimit.toNat heard := by
    by_contra hnot
    obtain ⟨rfl, -⟩ := hfew hnot
    rw [List.append_nil, hresults] at he
    subst he
    have hboth : TooMany 1 [.error (.malformedFrame (.incomplete 3)),
        .error (.checksumMismatch 51391 51390)] :=
      ⟨Nat.one_pos, inARow_iff.mpr (by decide)⟩
    exact hfirst _ ⟨[.ok ⟨2, 2, [0x62]⟩], rfl⟩ (by decide) hboth
  obtain ⟨hphase, -, hcause⟩ := hmany hover
  exact ⟨hreads, by rw [hresults]; rfl, hphase, hcause.trans (by decide +kernel)⟩

end Session

/-- Whoever connects on a link that does not fail, and then neither closes the connection nor makes
a new one, has a connection that only reads and is used, from its start on. -/
theorem Client.reads_of_run {σ : Type} {T : Transport σ} (hT : T.Lasts) {s : Session σ}
    {version : Version} {c : Client σ} (hs : s.connect T = (.ok version, c.session))
    {calls : List (Call σ)} (hc : ∀ call ∈ calls, call.isWithin = true) :
    ∃ link results, T.attach s.selector s.link = (.ok (), link) ∧
      Session.Reads T ((s.setPhase .handshaking).attachLink link) results (c.run T calls).session := by
  obtain ⟨link, hopen, hconnect⟩ := Session.Onward.connect hT hs
  obtain ⟨results, hreads⟩ := hconnect.trans (onward_run hT hc)
  exact ⟨link, results, hopen, hreads⟩

end FrameLink
