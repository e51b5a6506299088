import FrameLink.Proofs.Device.Echo
import FrameLink.Proofs.Session.Talk
import FrameLink.Proofs.Session.Turns
import FrameLink.Session.Request

namespace FrameLink

namespace PendingTable

variable {t : PendingTable}

theorem find?_enter (h : t.isPending t.due = false) (ticket : Ticket) :
    (t.enter ticket).find? t.due = some ⟨t.due, ticket⟩ := by
  have hnone : t.find? t.due = none := Option.not_isSome_iff_eq_none.mp (Bool.eq_false_iff.mp h)
  rw [find?] at hnone
  rw [find?, enter, List.find?_append, hnone, List.find?_singleton, beq_self_eq_true]
  rfl

theorem pending_retire_enter (h : t.isPending t.due = false) (ticket : Ticket) (now : Nat)
    (outcome : Completion) : ((t.enter ticket).retire t.due now outcome).pending = t.pending := by
  rw [retire, enter]
  dsimp only
  rw [List.filter_append, List.filter_singleton, bne_self_eq_false]
  refine (List.append_nil _).trans (List.filter_eq_self.mpr fun p hp => ?_)
  exact bne_iff_ne.mpr (isPending_eq_false_iff.mp h p hp)

end PendingTable

theorem Backlog.fetch_clear {retries : Nat} (hr : 0 < retries) (message : Bytes) :
    Backlog.fetch retries ⟨0, []⟩ message = (some message, ⟨0, []⟩) := by
  rw [fetch]
  split
  · rfl
  · simp

theorem Stats.eq_of_resyncBytes {a b : Stats}
    (h : { a with resyncBytes := 0 } = { b with resyncBytes := 0 })
    (hr : a.resyncBytes = b.resyncBytes) : a = b := by
  cases a
  cases b
  simp_all

namespace Session

variable {s : Session Bench} {opcode : UInt8} {payload : Bytes}

/-- A session can send, and its device answers the frame that it sends next with its payload. -/
structure Conversant (opcode : UInt8) (payload : Bytes) (s : Session Bench) : Prop where
  inForce : s.InForce fun b => b.device.isOpen
  speaks : s.link.device.Speaks s.settings.codec
  decoder : s.receiver.decoder = .new s.settings.codec
  room : 0 < s.settings.maxRead
  free : s.table.isPending s.table.due = false
  plain : opcode ≠ Opcode.handshake
  fits : Frame.minBody + payload.length ≤ s.settings.codec.maxBody
  echoes : s.link.Echoes ⟨s.table.due, opcode, payload⟩

/-- However the device delivers it, an answer that waits alone is received. -/
theorem settle_of_answer {c : Codec} {f : Frame} {reply : Bytes} (hr : s.reading = true)
    (hl : s.phase.isLive = true) (hroom : 0 < s.settings.maxRead)
    (hd : s.receiver.decoder = .new c) (hf : c.encode f = .ok reply)
    (hraw : s.link.device.announced = none → s.link.Quiet ∧ s.link.device.inbound = [reply])
    (hannounced : ∀ retries, s.link.device.announced = some retries →
      s.link.Announcing retries ⟨0, []⟩ [reply]) : Gets f s (s.settle Bench.transport) := by
  cases ha : s.link.device.announced with
  | none => exact settle_of_raw hr hl hroom hd hf (hraw ha).1 (hraw ha).2
  | some retries =>
    have hwaits := hannounced retries ha
    obtain ⟨b, hpoll, hread⟩ := hwaits.poll_cons s.settings.maxRead
    rw [Backlog.fetch_clear hwaits.patient] at hpoll hread
    exact settle_of_announced hr hd hf hpoll hread.toCalm hread.announced hread.headers

theorem exists_enroll (hc : s.table.closed = none) (hp : s.table.isPending s.table.due = false) :
    ∃ s₁, s.enroll = .ok (⟨s.table.due, s.tickets⟩, s₁) ∧ s₁.settings = s.settings ∧
      s₁.link = s.link ∧ s₁.attached = s.attached ∧ s₁.reading = s.reading ∧ s₁.phase = s.phase ∧
      s₁.answers = s.answers ∧ s₁.stats = s.stats ∧ s₁.receiver = s.receiver ∧
      s₁.table = s.table.enter s.tickets :=
  ⟨_, enroll_eq_ok_iff.mpr ⟨hc, hp, rfl, rfl⟩, rfl, rfl, rfl, rfl, rfl, rfl, rfl, rfl, rfl⟩

theorem Conversant.transmit (hs : Conversant opcode payload s) :
    ∃ reply s', s.transmit Bench.transport opcode payload = (.ok ⟨s.table.due, s.tickets⟩, s') ∧
      reply.payload = payload ∧ s'.answers = s.answers ++ [(s.tickets, .ok reply)] ∧
      s'.phase = s.phase ∧ s'.table.pending = s.table.pending ∧
      s'.stats = { s.stats with
        framesSent := s.stats.framesSent + 1
        framesReceived := s.stats.framesReceived + 1 } := by
  obtain ⟨s₁, he, hsettings, hlink, hattached, hreading, hphase, hanswers, hstats, hreceiver, htable⟩ :=
    exists_enroll hs.inForce.accepts hs.free
  have hencode : s.settings.codec.encode ⟨s.table.due, opcode, payload⟩ = .ok _ :=
    Codec.encode_eq_ok_iff.mpr ⟨hs.fits, rfl⟩
  obtain ⟨opcode', bytes, b, hreply, hwrite, hraw, hannounced⟩ :=
    hs.echoes.write hs.speaks hs.inForce.device hs.plain hencode
  generalize s.settings.codec.enclose _ = request at hencode hwrite
  let reply : Frame := ⟨s.table.due, opcode', payload⟩
  let s₂ : Session Bench := { s₁ with link := b }
  have hfind : s₂.table.find? reply.seq = some ⟨s.table.due, s.tickets⟩ := by
    change s₁.table.find? s.table.due = _
    rw [htable]
    exact PendingTable.find?_enter hs.free s.tickets
  have hgets : Gets reply s₂ (s₂.settle Bench.transport) := by
    refine settle_of_answer (hreading.trans hs.inForce.reading) ?_ ?_ ?_ hreply hraw hannounced
    · exact (congrArg Phase.isLive hphase).trans hs.inForce.live
    · exact hsettings ▸ hs.room
    · exact (congrArg Receiver.decoder hreceiver).trans hs.decoder
  have hsent : s.transmit Bench.transport opcode payload = (.ok ⟨s.table.due, s.tickets⟩,
      (s₂.settle Bench.transport).updateStats fun st => { st with framesSent := st.framesSent + 1 }) :=
    transmit_of_written he (hsettings ▸ hencode) (hattached.trans hs.inForce.attached)
      (hlink ▸ hwrite)
  obtain ⟨hanswer, hsame⟩ := hgets.answered hfind
  obtain ⟨d, d', houtward⟩ := hgets.outward
  have hfind' : (s₂.later d).table.find? reply.seq = some ⟨s.table.due, s.tickets⟩ := hfind
  obtain ⟨-, -, hcount, hpending⟩ := receive_of_pending hfind'
  have hreceived : (s₂.settle Bench.transport).stats =
      { s.stats with framesReceived := s.stats.framesReceived + 1 } := by
    rw [← hstats]
    refine Stats.eq_of_resyncBytes ?_ ?_
    · refine (congrArg Session.stats houtward).trans ?_
      change { ((s₂.later d).receive reply).stats with resyncBytes := 0 } = _
      rw [hcount]
      rfl
    · refine hgets.resyncBytes.trans ?_
      change s₁.stats.resyncBytes + s₁.receiver.decoder.skipped = s₁.stats.resyncBytes
      rw [hreceiver, hs.decoder]
      rfl
  refine ⟨reply, _, hsent, rfl, ?_, ?_, ?_, ?_⟩
  · exact hanswer.trans (congrArg (· ++ _) hanswers)
  · exact hsame.trans hphase
  · refine (congrArg (fun t => t.table.pending) houtward).trans (hpending.trans ?_)
    change (s₁.table.retire s.table.due 0 .completed).pending = _
    rw [htable, PendingTable.pending_retire_enter hs.free]
  · rw [updateStats, hreceived]

theorem Conversant.request (hs : Conversant Opcode.request payload s) (hp : s.phase = .ready)
    (hb : s.Books) (timeout : Duration) :
    let result := s.request Bench.transport payload timeout
    result.1 = .ok payload ∧ result.2.phase = .ready ∧
      result.2.table.pending = s.table.pending ∧
      result.2.stats = { s.stats with
        framesSent := s.stats.framesSent + 1
        framesReceived := s.stats.framesReceived + 1 } := by
  intro result
  obtain ⟨reply, s', ht, hpayload, hanswers, hphase, hpending, hstats⟩ := hs.transmit
  have hnone : s.answers.lookup s.tickets = none := by
    refine List.lookup_eq_none_iff.mpr fun a ha => bne_iff_ne.mpr fun he => ?_
    obtain ⟨h, hi, hticket, -⟩ := hb.answers a.1 a.2 ha
    exact Nat.lt_irrefl _ (he ▸ hticket ▸ hb.ticket_lt hi)
  have hanswer : s'.answer? s.tickets = some (.ok reply) := by
    rw [answer?, hanswers, List.lookup_append, hnone, Option.none_or, List.lookup_cons_self]
  have hsend : s.send Bench.transport Opcode.request payload = (.ok ⟨s.table.due, s.tickets⟩, s') := by
    simp only [send, hp, ht]
  have hresult : result = (.ok payload, s') := by
    simp only [result, Session.request, requestFrame, hsend, await_of_answered (h := ⟨_, _⟩) hanswer,
      Except.map, hpayload]
  rw [hresult]
  exact ⟨rfl, hphase.trans hp, hpending, hstats⟩

end Session

namespace Client

open Session

/-- A session that has been used in any way, with a device that it has to itself. If it is ready,
holds no bytes and has the next id free, and if its device answers a request by its payload, then
whoever makes a request is told just that payload, however the device delivers it and however long
they would have waited. The session is ready for more, the same requests wait as before, and one
frame more has been sent and one more received; nothing else has been counted. -/
theorem run_new_request (config : HostConfig) (selector : Selector) (pace : Pace) (b : Bench)
    (calls : List (Call Bench)) (payload : Bytes) (timeout : Duration)
    (hd : b.device.isOpen = false) (hb : b.device.Speaks config.framing.codec)
    (hc : ∀ call ∈ calls, call.Sole fun b => b.device.isOpen)
    (hact : ∀ act, .device act ∈ calls → ∀ b : Bench, b.device.Speaks config.framing.codec →
      (act b).device.Speaks config.framing.codec) :
    let s := (run Bench.transport
      { session := Session.new (.ofConfig config) selector pace b } calls).session
    s.phase = .ready → s.receiver.decoder.buffer = [] → s.table.isPending s.table.due = false →
    Frame.minBody + payload.length ≤ config.framing.codec.maxBody →
    s.link.Echoes ⟨s.table.due, Opcode.request, payload⟩ →
    let result := s.request Bench.transport payload timeout
    result.1 = .ok payload ∧ result.2.phase = .ready ∧
      result.2.table.pending = s.table.pending ∧
      result.2.stats = { s.stats with
        framesSent := s.stats.framesSent + 1
        framesReceived := s.stats.framesReceived + 1 } := by
  intro s hp hbuffer hfree hfits hecho
  have hk : Kept (run Bench.transport
      { session := Session.new (.ofConfig config) selector pace b } calls) :=
    (Kept.new _ selector pace b).run _ calls
  have hsettings : s.settings = .ofConfig config := settings_run _ _ calls
  have hrest : (Session.new (.ofConfig config) selector pace b).AtRest fun b => b.device.isOpen :=
    .new _ selector pace hd
  have hinForce : s.InForce fun b => b.device.isOpen :=
    (atRest_run Bench.transport_tracks hrest hc).inForce hp
  have hnew : (Session.new (.ofConfig config) selector pace b).Tuned := ⟨rfl, fun _ => rfl⟩
  have htuned : s.Tuned :=
    run_induction hnew fun _ _ call hm ht => tuned_does Bench.transport_tracks ht (hc call hm)
  have hspeaks : s.link.device.Speaks config.framing.codec := by
    let settings := SessionSettings.ofConfig config
    let client : Client Bench := { session := Session.new settings selector pace b }
    let holds (_ : List Frame) (b : Bench) : Prop := b.device.Speaks config.framing.codec
    have hfresh : HasSent settings.codec holds (max 2 (min settings.sequenceSpace 65536)) []
        client.session := .new holds hb selector pace
    have hpos : 0 < max 2 (min settings.sequenceSpace 65536) := by omega
    have hle : max 2 (min settings.sequenceSpace 65536) ≤ 65536 := by omega
    exact (hasSent_run (Bench.transport_speaks _) hpos hle (fun act hm _ => hact act hm) hfresh).link
  have hdecoder : s.receiver.decoder = .new s.settings.codec := by
    rw [← htuned.codec, Decoder.new, ← hbuffer, ← htuned.counted (by rw [hp]; rfl)]
  have hconversant : Conversant Opcode.request payload s := by
    refine ⟨hinForce, ?_, hdecoder, ?_, hfree, by decide, ?_, hecho⟩ <;> rw [hsettings]
    · exact hspeaks
    · exact Nat.le_max_left 1 _
    · exact hfits
  exact hconversant.request hp hk.settled.books timeout

/-- A device that announces its messages. It does not answer the first request; the second one is
long enough for its answer to be fetched. -/
theorem run_new_request_second :
    let codec := FramingConfig.codec {}
    let b : Bench := { device := { Device.new codec with
      announced := some 1, responder := some { script := [[]], afterwards := [{}] } } }
    let s := (run Bench.transport { session := Session.new (.ofConfig {}) .standard .stepped b }
      [.connect, .send Opcode.request [1]]).session
    let result := s.request Bench.transport (List.replicate 20 0x7E) ⟨0⟩
    s.table.pending = [⟨1, 1⟩] ∧ result.1 = .ok (List.replicate 20 0x7E) ∧
      result.2.table.pending = [⟨1, 1⟩] ∧
      result.2.stats.framesReceived = s.stats.framesReceived + 1 := by
  intro codec b s result
  have hfacts : s.phase = .ready ∧ s.receiver.decoder.buffer = [] ∧
      s.table.isPending s.table.due = false ∧ s.table.pending = [⟨1, 1⟩] ∧ s.table.due = 2 := by
    decide +kernel
  obtain ⟨hready, hbuffer, hfree, hpending, hdue⟩ := hfacts
  have hdevice : s.link.device.responder = some .echo ∧ s.link.device.inbound = [] ∧
      s.link.device.bodies = [] ∧ s.link.device.isGone = false ∧ s.link.device.readFault = none ∧
      s.link.device.announced = some 1 ∧ s.link.device.misses = 0 := by
    decide +kernel
  have hbench : s.link.writeFaults = [] ∧ s.link.plans = [] ∧ s.link.agenda = [] ∧
      s.link.silent = false ∧ s.link.device.codec.encodedLength 20 < 65536 := by
    decide +kernel
  obtain ⟨hresponder, hinbound, hbodies, hpresent, hhealthy, hannounced, hmisses⟩ := hdevice
  obtain ⟨hwrites, hplans, hidle, hsteady, hshort⟩ := hbench
  have hecho : s.link.Echoes ⟨s.table.due, Opcode.request, List.replicate 20 0x7E⟩ := by
    refine ⟨⟨.echo, .echo, Opcode.request, hresponder, ?_⟩, hinbound, hbodies, hpresent, hhealthy,
      hwrites, hplans, hidle, hsteady, fun retries ha => ?_⟩
    · rw [hdue]
      rfl
    · cases hannounced.symm.trans ha
      exact ⟨by decide, hmisses, hshort⟩
  obtain ⟨hok, -, hsame, hstats⟩ := run_new_request {} .standard .stepped b
    [.connect, .send Opcode.request [1]] (List.replicate 20 0x7E) ⟨0⟩ rfl ⟨rfl, rfl⟩
    (by simp [Call.Sole]) (by simp) hready hbuffer hfree (by decide) hecho
  exact ⟨hpending, hok, hsame.trans hpending, congrArg Stats.framesReceived hstats⟩

end Client
end FrameLink
