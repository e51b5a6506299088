import FrameLink.Proofs.Session.Anomalies
import FrameLink.Proofs.Session.Endings

namespace FrameLink
namespace Session

variable {σ : Type} {T : Transport σ} {isOpen : σ → Bool} {s s' s₁ : Session σ}
  {cause : SessionError}

/-- A session that is met between two calls of its users, or in the middle of one. -/
def Reached (T : Transport σ) (s : Session σ) : Prop :=
  ∃ settings selector pace link calls, Steps (fun _ => True)
    (Client.run T { session := Session.new settings selector pace link } calls).session s

theorem Reached.books (hs : Reached T s) : s.Books := by
  obtain ⟨settings, selector, pace, link, calls, hsteps⟩ := hs
  have hk : (Client.run T { session := Session.new settings selector pace link } calls).Kept :=
    (Client.Kept.new settings selector pace link).run T calls
  exact hk.settled.books.steps hsteps

/-- A session has faulted, and goes on to tell of that one cause, whatever else is done or fails. -/
structure FaultedBy (T : Transport σ) (isOpen : σ → Bool) (cause : SessionError)
    (s s' : Session σ) : Prop extends Ended isOpen (.sessionFaulted cause.message) s s' where
  phase : s'.phase = .faulted
  lasting : ∀ (c : Client σ) (calls : List (Call σ)), c.session = s' →
    (∀ call ∈ calls, call.Leaves .faulted) →
    let s'' := (c.run T calls).session
    s''.phase = .faulted ∧
    (∀ opcode payload,
      s''.send T opcode payload = (.error (.sessionFaulted cause.message), s'')) ∧
    ∀ other, s''.fault T other = { s'' with faults := other :: s''.faults }

theorem Ended.faultedBy (hT : T.Tracks isOpen)
    (he : Ended isOpen (.sessionFaulted cause.message) s s')
    (ho : s'.Over .faulted (.sessionFaulted cause.message)) : FaultedBy T isOpen cause s s' := by
  refine ⟨he, ho.phase, ?_⟩
  rintro c calls rfl hcalls s''
  have ho'' : s''.Over .faulted (.sessionFaulted cause.message) := Client.over_run hT ho hcalls
  exact ⟨ho''.phase, send_of_faulted ho''.phase ho''.refusal, ho''.fault T⟩

theorem over_fault (hl : s.phase.isLive = true) (cause : SessionError) :
    (s.fault T cause).Over .faulted (.sessionFaulted cause.message) := by
  rw [fault_of_live hl, failAll_eq]
  exact ⟨rfl, rfl, rfl⟩

theorem Books.ended_fault (hT : T.Tracks isOpen) (hb : s.Books) (hl : s.phase.isLive = true)
    (cause : SessionError) (clock : Nat) :
    Ended isOpen (.sessionFaulted cause.message) s
      { s.fault T cause with clock := clock } := by
  rw [fault_of_live hl, failAll_eq]
  refine hb.ended rfl rfl ?_ rfl (hT.release _)
  rw [failAll_eq]
  rfl

theorem Books.faultedBy (hT : T.Tracks isOpen) (hb : s.Books) (hl : s.phase.isLive = true)
    (cause : SessionError) : FaultedBy T isOpen cause s (s.fault T cause) :=
  (hb.ended_fault hT hl cause _).faultedBy hT (over_fault hl cause)

theorem absorb_of_takeIn {outcome : Except TransportError Packet}
    (h : (s.takeIn T outcome).1 = some cause) :
    s.absorb T outcome = (s.takeIn T outcome).2.fault T cause := by
  rw [absorb]
  split
  · next cause' s₁ he =>
    rw [he] at h ⊢
    cases h
    rfl
  · next s₁ he =>
    rw [he] at h
    cases h

/-- A request is registered and its write fails, which leaves the session as it is in `s₁`. -/
def WriteFails (T : Transport σ) (opcode : UInt8) (payload : Bytes) (e : TransportError)
    (h : Handle) (s s₁ : Session σ) : Prop :=
  ∃ s₀ bytes link, s.enroll = .ok (h, s₀) ∧
    s₀.settings.codec.encode ⟨h.seq, opcode, payload⟩ = .ok bytes ∧ s₀.attached = true ∧
    T.write bytes s₀.settings.writeTimeout s₀.link = (.error e, link) ∧
    s₁ = { s₀ with link := link }

namespace WriteFails

variable {opcode : UInt8} {payload : Bytes} {e : TransportError} {h : Handle}

theorem books (hw : WriteFails T opcode payload e h s s₁) (hb : s.Books) : s₁.Books := by
  obtain ⟨s₀, bytes, link, he, -, -, -, rfl⟩ := hw
  exact (hb.enroll he).of_same ⟨rfl, rfl, rfl, rfl⟩

theorem sameConnection (hT : T.Tracks isOpen) (hw : WriteFails T opcode payload e h s s₁) :
    SameConnection isOpen s s₁ := by
  obtain ⟨s₀, bytes, link, he, -, -, hwrite, rfl⟩ := hw
  have hd := hT.write bytes s₀.settings.writeTimeout s₀.link
  rw [hwrite] at hd
  exact (sameConnection_enroll he).trans (sameConnection_link hd)

theorem send_of_fatal (hw : WriteFails T opcode payload e h s s₁) (hp : s.phase = .ready)
    (hf : e.isFatal = true) :
    s.send T opcode payload =
      (.error (.ofTransport e), (s₁.fault T (.ofTransport e)).withdraw h) := by
  obtain ⟨s₀, bytes, link, he, hencode, ha, hwrite, rfl⟩ := hw
  simp only [send, hp, transmit, he, hencode, ha, hwrite, hf, if_true]

theorem send_of_not_fatal (hw : WriteFails T opcode payload e h s s₁) (hp : s.phase = .ready)
    (hf : e.isFatal = false) :
    s.send T opcode payload = (.error (.ofTransport e), s₁.withdraw h) := by
  obtain ⟨s₀, bytes, link, he, hencode, ha, hwrite, rfl⟩ := hw
  simp only [send, hp, transmit, he, hencode, ha, hwrite, hf, if_true]
  rfl

theorem pending_withdraw (hw : WriteFails T opcode payload e h s s₁) :
    (s₁.withdraw h).table.pending = s.table.pending := by
  obtain ⟨s₀, bytes, link, he, -, -, -, rfl⟩ := hw
  obtain ⟨-, hfree, rfl, rfl⟩ := enroll_eq_ok_iff.mp he
  have hold : s.table.pending.filter (fun p => p.seq != s.table.due) = s.table.pending := by
    refine List.filter_eq_self.mpr fun p hp => ?_
    exact bne_iff_ne.mpr (PendingTable.isPending_eq_false_iff.mp hfree p hp)
  refine (pending_cancel _ _).trans ?_
  simp only [PendingTable.enter, List.filter_append, hold, List.filter_cons, bne_self_eq_false]
  exact List.append_nil _

theorem faultedBy (hT : T.Tracks isOpen) (hw : WriteFails T opcode payload e h s s₁)
    (hb : s.Books) (hp : s.phase = .ready) (hf : e.isFatal = true) :
    ∃ s', s.send T opcode payload = (.error (.ofTransport e), s') ∧
      FaultedBy T isOpen (.ofTransport e) s₁ s' := by
  have hl : s₁.phase.isLive = true := by
    rw [(hw.sameConnection hT).phase, hp]
    rfl
  have ho := over_fault (T := T) hl (.ofTransport e)
  have hended := (hw.books hb).ended_fault hT hl (.ofTransport e)
  -- Nobody is left in the table, so that the request itself is not given up any more.
  have hfree : (s₁.fault T (.ofTransport e)).table.find? h.seq = none := by
    rw [PendingTable.find?, (hended 0).pending]
    rfl
  have hsend := hw.send_of_fatal hp hf
  rw [withdraw, finish_of_free hfree] at hsend
  exact ⟨_, hsend, (hended _).faultedBy hT ⟨ho.dead, ho.phase, ho.refusal⟩⟩

end WriteFails

/-- Whatever faults a session that is ready, in the middle of a call or not: everybody who waits is
told of the same cause, the streams end, the device is closed, and all that is sent afterwards is
refused with that cause. -/
theorem Reached.faultedBy_of_fatal (hT : T.Tracks isOpen) (hs : Reached T s)
    (hp : s.phase = .ready) :
    (∀ e ≠ .timeout, FaultedBy T isOpen
      (if T.isGone s.link then .deviceDisconnected else .ofTransport e) s
      (s.absorb T (.error e))) ∧
    (∀ outcome, 0 < s.settings.errorLimit →
      Overrun s.settings.errorLimit s.receiver.strikes (s.findings outcome) →
      ∃ n, s.settings.errorLimit < n ∧
        FaultedBy T isOpen (anomaliesInRow n) (s.takeIn T outcome).2 (s.absorb T outcome)) ∧
    ∀ opcode payload e h s₁, WriteFails T opcode payload e h s s₁ →
      (e.isFatal = true → ∃ s', s.send T opcode payload = (.error (.ofTransport e), s') ∧
        FaultedBy T isOpen (.ofTransport e) s₁ s') ∧
      (e ∈ [.busy, .notFound, .permissionDenied, .timeout] →
        ∃ s', s.send T opcode payload = (.error (.ofTransport e), s') ∧
          SameConnection isOpen s s' ∧ s'.table.pending = s.table.pending) := by
  have hb : s.Books := hs.books
  have hl : s.phase.isLive = true := by
    rw [hp]
    rfl
  refine ⟨fun e he => ?_, fun outcome hlimit hover => ?_, fun opcode payload e h s₁ hw => ⟨?_, ?_⟩⟩
  · have htake := takeIn_of_error (T := T) (s := s) he
    have habsorb := absorb_of_takeIn (congrArg Prod.fst htake)
    rw [htake] at habsorb
    rw [habsorb]
    exact hb.faultedBy hT hl _
  · obtain ⟨n, hn, htake⟩ := takeIn_of_overrun (T := T) rfl hlimit hover
    have hhears : Hears T s (s.takeIn T outcome).2 := hears_takeIn T s outcome
    have hsteps : Steps (fun _ => False) s (s.takeIn T outcome).2 := hhears.listens.steps
    have hphase := (hhears.sameConnection hT).phase
    refine ⟨n, hn, ?_⟩
    rw [absorb_of_takeIn htake]
    exact (hb.steps hsteps).faultedBy hT (hphase ▸ hl) _
  · exact hw.faultedBy hT hb hp
  · intro he
    have hf : e.isFatal = false := by
      simp only [List.mem_cons, List.not_mem_nil, or_false] at he
      obtain rfl | rfl | rfl | rfl := he <;> rfl
    have hsame := (hw.sameConnection hT).trans (sameConnection_finish s₁ h.seq .cancelled)
    exact ⟨_, hw.send_of_not_fatal hp hf, hsame, hw.pending_withdraw⟩

def beset : Session Bench :=
  let settings := { SessionSettings.standard with errorLimit := 1 }
  (Client.run Bench.transport
    { session := Session.new settings .standard .stepped (.new settings.codec) }
    [.connect, .send Opcode.request [0x61], .device (·.act (.unplug (.io "pipe"))),
      .device fun b => { b with writeFaults := [some (.io "stall")] }]).session

theorem Reached.faultedBy_of_fatal_beset :
    let T := Bench.transport
    let isOpen := fun b : Bench => b.device.isOpen
    beset.phase = .ready ∧ beset.table.awaits 1 = true ∧
      FaultedBy T isOpen .deviceDisconnected beset (beset.absorb T (.error (.io "pipe"))) ∧
      (∃ n, 1 < n ∧ FaultedBy T isOpen (anomaliesInRow n)
        (beset.takeIn T (.ok ⟨[0x7E, 0, 1, 0, 0x7E, 0, 2, 0], ⟨0⟩⟩)).2
        (beset.absorb T (.ok ⟨[0x7E, 0, 1, 0, 0x7E, 0, 2, 0], ⟨0⟩⟩))) ∧
      ∃ s₁ s', beset.send T Opcode.request [0x62] = (.error (.transportIo "stall"), s') ∧
        FaultedBy T isOpen (.transportIo "stall") s₁ s' := by
  intro T isOpen
  have hs : Reached T beset := ⟨_, _, _, _, _, .refl⟩
  have hfacts : beset.phase = .ready ∧ beset.table.awaits 1 = true ∧ T.isGone beset.link = true ∧
      beset.settings.errorLimit = 1 ∧ beset.receiver.strikes = 0 ∧
      beset.findings (.ok ⟨[0x7E, 0, 1, 0, 0x7E, 0, 2, 0], ⟨0⟩⟩) =
        [.error (.checksumMismatch 0 254), .error (.checksumMismatch 0 253)] ∧
      beset.table.closed = none ∧ beset.table.isPending beset.table.due = false ∧
      (beset.settings.codec.encode ⟨beset.table.due, Opcode.request, [0x62]⟩).isOk = true ∧
      beset.attached = true ∧ beset.link.writeFaults = [some (.io "stall")] := by decide +kernel
  obtain ⟨hp, hwaits, hgone, hlimit, hstrikes, hfindings, hopen, hfree, hencode, ha, hfaults⟩ :=
    hfacts
  obtain ⟨hread, hover, hwrite⟩ := hs.faultedBy_of_fatal Bench.transport_tracks hp
  have hdisconnected := hread (.io "pipe") nofun
  rw [if_pos hgone] at hdisconnected
  have hoverrun :
      Overrun 1 0 [.error (.checksumMismatch 0 254), .error (.checksumMismatch 0 253)] :=
    ⟨[], [.checksumMismatch 0 254, .checksumMismatch 0 253], [], rfl, List.cons_ne_nil _ _,
      by decide⟩
  have hanomalies := hover (.ok ⟨[0x7E, 0, 1, 0, 0x7E, 0, 2, 0], ⟨0⟩⟩)
  rw [hlimit, hstrikes, hfindings] at hanomalies
  refine ⟨hp, hwaits, hdisconnected, hanomalies Nat.one_pos hoverrun, ?_⟩
  have he := enroll_eq_ok_iff.mpr ⟨hopen, hfree, rfl, rfl⟩
  cases hb : beset.settings.codec.encode ⟨beset.table.due, Opcode.request, [0x62]⟩ with
  | error e => rw [hb] at hencode; cases hencode
  | ok bytes =>
    have hfails : WriteFails T Opcode.request [0x62] (.io "stall") _ beset _ :=
      ⟨_, bytes, _, he, hb, ha, by simp only [T, Bench.transport, Bench.write, hfaults]; rfl, rfl⟩
    obtain ⟨s', hsend, hfaulted⟩ := (hwrite _ _ _ _ _ hfails).1 rfl
    exact ⟨_, s', hsend, hfaulted⟩

end Session
end FrameLink
