import FrameLink.Proofs.Device.Offer
import FrameLink.Proofs.Session.Connecting
import FrameLink.Proofs.Session.Silence
import FrameLink.Proofs.Session.Transfers

namespace FrameLink

theorem FramingConfig.validate_eq_ok_iff {f : FramingConfig} :
    f.validate = .ok () ↔
      Frame.minBody ≤ f.maxBody.toNat ∧ f.maxBody.toNat ≤ f.lengthWidth.maxBody := by
  rw [validate]
  split
  · next h => exact iff_of_false nofun fun h' => absurd h'.1 (Nat.not_le.mpr h)
  · next h =>
    split
    · next h' => exact iff_of_false nofun fun h'' => absurd h''.2 (Nat.not_le.mpr h')
    · next h' => exact iff_of_true rfl ⟨Nat.not_lt.mp h, Nat.not_lt.mp h'⟩

theorem HostConfig.framing_of_validate {c : HostConfig} (h : c.validate = .ok ()) :
    c.framing.validate = .ok () := by
  rw [validate] at h
  cases hl : c.logging.validate with
  | error e => rw [hl] at h; cases h
  | ok =>
    cases hd : c.device.validate with
    | error e => rw [hl, hd] at h; cases h
    | ok =>
      cases hs : c.session.validate with
      | error e => rw [hl, hd, hs] at h; cases h
      | ok =>
        rw [hl, hd, hs] at h
        exact h

namespace Session

variable {s : Session Bench} {c : Codec} {f : Frame} {bytes : Bytes} {k : Nat}

/-- A session has received one frame, after some time and before some more. It has counted the bytes
that its decoder had thrown away before, and those alone. -/
structure Gets (f : Frame) (s s' : Session Bench) : Prop where
  outward : ∃ d d', s'.outward = (((s.later d).receive f).later d').outward
  resyncBytes : s'.stats.resyncBytes = s.stats.resyncBytes + s.receiver.decoder.skipped

theorem settle_of_raw (hr : s.reading = true) (hl : s.phase.isLive = true)
    (hroom : 0 < s.settings.maxRead) (hd : s.receiver.decoder = ⟨c, [], k⟩)
    (hf : c.encode f = .ok bytes) (hq : s.link.Quiet) (hi : s.link.device.inbound = [bytes]) :
    Gets f s (s.settle Bench.transport) := by
  have hstart : Delivered s bytes [] s := by
    refine .reading (.refl Bench.transport s) rfl hr hroom hq ?_
    rw [hi]
    exact List.flatten_singleton
  have hfull : [] ∉ Traffic.transfers [] := List.not_mem_nil
  obtain ⟨packets, took, hall⟩ := hstart.deliver hl hfull
  rw [Traffic.transfers, List.flatten_nil, List.append_nil] at hall
  have hfeed := Decoder.feed_encoded (k := k) hf hall
  rw [← hd] at hfeed
  have hfindings := took.findings
  rw [hfeed] at hfindings
  obtain ⟨d, d', hrelive⟩ := exists_relive_eq (T := Bench.transport) hfindings s
  have hnone : (digest (s.receiver.decoder.feed packets).1 s).1 = none := by
    rw [hfeed]
    rfl
  obtain ⟨n, -, hresync, hn⟩ := took.held hnone
  have hne : packets ≠ [] := by
    rintro rfl
    obtain ⟨tail, rfl⟩ := Codec.exists_eq_cons_of_encode hf
    cases hall
  rw [if_neg hne] at hn
  rw [hn, hfeed] at hresync
  exact ⟨⟨d, d', took.outward.trans (congrArg Session.outward hrelive)⟩, hresync⟩

theorem absorb_of_frame (hd : s.receiver.decoder = ⟨c, [], k⟩) (hf : c.encode f = .ok bytes)
    (age : Duration) :
    let s' := s.absorb Bench.transport (.ok ⟨bytes, age⟩)
    s'.outward = (s.receive f).outward ∧
      s'.stats.resyncBytes = s.stats.resyncBytes + s.receiver.decoder.skipped ∧
      s'.link = s.link ∧ s'.reading = s.reading ∧ s'.receiver.decoder.buffer = [] := by
  have hne : bytes ≠ [] := by
    obtain ⟨tail, rfl⟩ := Codec.exists_eq_cons_of_encode hf
    exact List.cons_ne_nil _ _
  have hdrain : (s.receiver.decoder.extend bytes).drain = ([.ok f], s.receiver.decoder) := by
    rw [hd, ← Decoder.feed_singleton]
    exact Decoder.feed_encoded hf (List.flatten_singleton)
  have hfindings : s.findings (.ok ⟨bytes, age⟩) = [.ok f] := by
    rw [findings_of_data hne, hdrain]
  have hnone : (digest (s.findings (.ok ⟨bytes, age⟩)) s).1 = none := by
    rw [hfindings]
    rfl
  obtain ⟨hlink, -, hreading, hdecoder, hresync⟩ := absorb_of_sound Bench.transport hne hnone
  rw [hdrain] at hdecoder hresync
  refine ⟨?_, hresync, hlink, hreading, ?_⟩
  · rw [outward_absorb _ _ hne, digested_of_none hnone, hfindings]
    rfl
  · rw [hdecoder, hd]

theorem settleWithin_of_dry (hc : s.link.Calm) {retries : UInt8}
    (ha : s.link.device.announced = some retries) (hi : s.link.device.inbound = [])
    (hr : s.reading = true) (hb : s.receiver.decoder.buffer = []) (steps : Nat) :
    ∃ link d, settleWithin Bench.transport steps s = { s with link := link }.later d := by
  have hpoll : Bench.transport.poll s.settings.maxRead s.settings.readPoll s.link =
      if s.link.dry then none else some (.error .timeout, { s.link with dry := true }) :=
    hc.poll_dry ha hi
  cases hd : s.link.dry with
  | true =>
    rw [hd, if_pos rfl] at hpoll
    exact ⟨s.link, ⟨0⟩, (settleWithin_of_rest (fun _ => hpoll) hc.follow steps).1⟩
  | false =>
    rw [hd, if_neg Bool.false_ne_true] at hpoll
    cases steps with
    | zero => exact ⟨s.link, ⟨0⟩, rfl⟩
    | succ steps =>
      have hidle : Idle (.error .timeout) := rfl
      have hc' : { s.link with dry := true }.Calm :=
        ⟨hc.healthy, hc.present, hc.opened, hc.idle, hc.steady⟩
      have hpoll' : Bench.transport.poll s.settings.maxRead s.settings.readPoll
          { s.link with dry := true } = none := hc'.poll_dry ha hi
      have hrest := (settleWithin_of_rest
        (s := s.afterRead Bench.transport { s.link with dry := true }) (fun _ => hpoll') hc'.follow
        steps).1
      rw [(settleWithin_of_poll hr hpoll steps).1, absorb_idle _ _ hidle, if_pos (.inl hb), hrest]
      exact ⟨_, _, rfl⟩

theorem settle_of_announced (hr : s.reading = true)
    (hd : s.receiver.decoder = ⟨c, [], k⟩) (hf : c.encode f = .ok bytes) {age : Duration}
    {link : Bench} (hp : s.link.poll s.settings.maxRead = some (.ok ⟨bytes, age⟩, link))
    (hc : link.Calm) {retries : UInt8} (ha : link.device.announced = some retries)
    (hi : link.device.inbound = []) : Gets f s (s.settle Bench.transport) := by
  obtain ⟨steps, hsteps⟩ : ∃ n, Bench.transport.horizon s.link = n + 1 := by
    change ∃ n, Bench.horizon s.link = n + 1
    rw [Bench.horizon]
    exact ⟨_, rfl⟩
  have hpoll : Bench.transport.poll s.settings.maxRead s.settings.readPoll s.link =
    some (.ok ⟨bytes, age⟩, link) := hp
  have hdecoder : (s.afterRead Bench.transport link).receiver.decoder = ⟨c, [], k⟩ := hd
  obtain ⟨houtward, hresync, hlink, hreading, hbuffer⟩ := absorb_of_frame hdecoder hf age
  rw [settle, hsteps, (settleWithin_of_poll hr hpoll steps).1]
  generalize absorb _ _ _ = s₁ at *
  change s₁.link = link at hlink
  rw [← hlink] at hc ha hi
  obtain ⟨link', d, he⟩ := settleWithin_of_dry hc ha hi (hreading.trans hr) hbuffer steps
  rw [he]
  refine ⟨⟨Bench.transport.readTime link, d, ?_⟩, hresync⟩
  calc ({ s₁ with link := link' }.later d).outward = s₁.outward.later d := rfl
    _ = ((s.afterRead Bench.transport link).receive f).outward.later d := by rw [houtward]
    _ = ((s.later (Bench.transport.readTime link)).receive f).outward.later d := by
      rw [outward_receive, outward_receive]
      rfl

/-- However the device delivers it, a short message that is queued is received. -/
theorem settle_of_holds (hr : s.reading = true) (hl : s.phase.isLive = true)
    (hroom : 0 < s.settings.maxRead) (hd : s.receiver.decoder = ⟨c, [], k⟩)
    (hf : c.encode f = .ok bytes) (hs : bytes.length ≤ Announcement.maxEmbedded)
    (hb : s.link.Holds bytes) : Gets f s (s.settle Bench.transport) := by
  have hne : bytes ≠ [] := by
    obtain ⟨tail, rfl⟩ := Codec.exists_eq_cons_of_encode hf
    exact List.cons_ne_nil _ _
  have hi := hb.queued
  cases ha : s.link.device.announced with
  | none =>
    rw [ha] at hi
    have hfull : [] ∉ s.link.device.inbound := by
      rw [hi, List.mem_singleton]
      exact hne.symm
    exact settle_of_raw hr hl hroom hd hf ⟨hb.toCalm, ha, hfull⟩ hi
  | some retries =>
    rw [ha] at hi
    have hpoll : s.link.poll s.settings.maxRead = some (.ok ⟨bytes, s.link.age⟩, s.link.queueing []) :=
      hb.toCalm.poll_embedded ha hi (Announcement.ofHeader_compose_of_short hne hs).2
    exact settle_of_announced hr hd hf hpoll (hb.toCalm.queueing []) ha rfl

theorem await_of_answered {σ : Type} {T : Transport σ} {s : Session σ} {h : Handle} {reply : Reply}
    (ha : s.answer? h.ticket = some reply) (d : Duration) : s.await T h d = (reply, s) := by
  have hlinger : s.linger T h d = s := by
    rw [linger, outcome?_of_answer ha]
    cases s.pace <;> rfl
  have ha' : (s.linger T h d).answer? h.ticket = some reply := by rwa [hlinger]
  rw [await_of_answer ha', hlinger]

theorem receive_of_pending {σ : Type} {s : Session σ} {p : Pending}
    (hp : s.table.find? f.seq = some p) :
    (s.receive f).answers = s.answers ++ [(p.ticket, .ok f)] ∧ (s.receive f).phase = s.phase ∧
      (s.receive f).stats = { s.stats with framesReceived := s.stats.framesReceived + 1 } ∧
      (s.receive f).table.pending = (s.table.retire f.seq 0 .completed).pending := by
  have hp' : ({ s with receiver := { s.receiver with strikes := 0 } }.updateStats fun st =>
      { st with framesReceived := st.framesReceived + 1 }).table.find? f.seq = some p := hp
  rw [receive, route_of_pending hp']
  exact ⟨rfl, rfl, rfl, rfl⟩

/-- A frame that answers a request: what has become of the session, whenever that was. -/
theorem Gets.answered {s' : Session Bench} (hg : Gets f s s') {p : Pending}
    (hp : s.table.find? f.seq = some p) :
    s'.answers = s.answers ++ [(p.ticket, .ok f)] ∧ s'.phase = s.phase := by
  obtain ⟨d, d', ho⟩ := hg.outward
  have hp' : (s.later d).table.find? f.seq = some p := hp
  obtain ⟨hanswers, hphase, -⟩ := receive_of_pending hp'
  exact ⟨(congrArg Session.answers ho).trans hanswers, (congrArg Session.phase ho).trans hphase⟩

theorem encode_version (hc : 5 ≤ c.maxBody) (opcode : UInt8) :
    ∃ bytes, c.encode ⟨0, opcode, Version.current.toBytes⟩ = .ok bytes ∧
      bytes.length ≤ Announcement.maxEmbedded := by
  have hencode : c.encode ⟨0, opcode, Version.current.toBytes⟩ = .ok _ :=
    Codec.encode_eq_ok_iff.mpr ⟨hc, rfl⟩
  refine ⟨_, hencode, ?_⟩
  have hwidth : c.lengthWidth.bytes ≤ 4 := by cases c.lengthWidth <;> decide
  have hchecksum := c.checksum.width_le
  rw [Codec.length_encode hencode, Codec.encodedLength, Codec.headerLength, Announcement.maxEmbedded,
    Frame.minBody]
  change 1 + c.lengthWidth.bytes + 1 + 3 + 2 + c.checksum.width ≤ 15
  omega

variable {settings : SessionSettings} {b : Bench}

def acknowledgement : Frame := ⟨0, Opcode.handshakeAck, Version.current.toBytes⟩

theorem acceptReply_acknowledgement : acceptReply acknowledgement = .ok .current :=
  acceptReply_eq_ok_iff.mpr ⟨rfl, ⟨[], (List.append_nil _).symm⟩, rfl⟩

def greeting (settings : SessionSettings) (selector : Selector) (pace : Pace) (b : Bench) :
    Session Bench :=
  ((Session.new settings selector pace b).setPhase .handshaking).attachLink b.opened

theorem greeting_enroll (settings : SessionSettings) (selector : Selector) (pace : Pace)
    (b : Bench) : ∃ s, (greeting settings selector pace b).enroll = .ok (⟨0, 0⟩, s) ∧
      s.settings = settings ∧ s.link = b.opened ∧ s.attached = true ∧ s.reading = true ∧
      s.phase = .handshaking ∧ s.answers = [] ∧ s.table.find? 0 = some ⟨0, 0⟩ ∧
      s.receiver.decoder = ⟨settings.codec, [], 0⟩ :=
  ⟨_, enroll_eq_ok_iff.mpr ⟨rfl, rfl, rfl, rfl⟩, rfl, rfl, rfl, rfl, rfl, rfl, rfl, rfl⟩

theorem greeting_transmit (hb : b.Prepared settings.codec) (hroom : 0 < settings.maxRead)
    (hc : 5 ≤ settings.codec.maxBody) (selector : Selector) (pace : Pace) :
    ∃ s, (greeting settings selector pace b).transmit Bench.transport Opcode.handshake
        Version.current.toBytes = (.ok ⟨0, 0⟩, s) ∧
      s.answer? 0 = some (.ok acknowledgement) ∧ s.phase = .handshaking := by
  obtain ⟨bytes, hbytes, -⟩ := encode_version hc Opcode.handshake
  obtain ⟨ack, hack, hshort⟩ := encode_version hc Opcode.handshakeAck
  obtain ⟨b', hwrite, hholds⟩ := hb.write rfl hbytes hack
  obtain ⟨s, he, hsettings, hlink, hattached, hreading, hphase, hanswers, hfind, hdecoder⟩ :=
    greeting_enroll settings selector pace b
  have hencode : s.settings.codec.encode ⟨0, Opcode.handshake, Version.current.toBytes⟩ =
      .ok bytes := hsettings ▸ hbytes
  have hwrite' : Bench.transport.write bytes s.settings.writeTimeout s.link =
      (.ok bytes.length, b') := hlink ▸ hwrite
  have hgets : Gets acknowledgement { s with link := b' }
      ({ s with link := b' }.settle Bench.transport) :=
    settle_of_holds hreading (by rw [hphase]; rfl) (hsettings ▸ hroom) hdecoder hack hshort hholds
  have hfind' : { s with link := b' }.table.find? acknowledgement.seq = some ⟨0, 0⟩ := hfind
  obtain ⟨hanswered, hsame⟩ := hgets.answered hfind'
  have hanswers' : ({ s with link := b' }.settle Bench.transport).answers =
      [] ++ [(0, .ok acknowledgement)] :=
    hanswered.trans (congrArg (· ++ _) hanswers)
  refine ⟨_, transmit_of_written he hencode hattached hwrite', ?_, hsame.trans hphase⟩
  rw [answer?, updateStats, hanswers']
  rfl

theorem handshake_of_room (hb : b.Prepared settings.codec) (hroom : 0 < settings.maxRead)
    (hc : 5 ≤ settings.codec.maxBody) (selector : Selector) (pace : Pace) :
    ((greeting settings selector pace b).handshake Bench.transport).1 = .ok .current ∧
      ((greeting settings selector pace b).handshake Bench.transport).2.phase = .handshaking := by
  obtain ⟨s, ht, hanswer, hphase⟩ := greeting_transmit hb hroom hc selector pace
  have hawait := await_of_answered (T := Bench.transport) (h := ⟨0, 0⟩) hanswer
    (greeting settings selector pace b).settings.handshakeTimeout
  obtain ⟨hsession, hok, -⟩ := handshake_of_sent ht
  constructor
  · rw [hok _ (congrArg Prod.fst hawait)]
    exact acceptReply_acknowledgement
  · rw [hsession, hawait]
    exact hphase

theorem handshake_of_cramped (hc : settings.codec.maxBody < 5) (selector : Selector) (pace : Pace)
    (b : Bench) : ((greeting settings selector pace b).handshake Bench.transport).1 =
      .error (.protocol (.frameTooLarge 5 settings.codec.maxBody)) := by
  obtain ⟨s, he, hsettings, -⟩ := greeting_enroll settings selector pace b
  have hencode : s.settings.codec.encode ⟨0, Opcode.handshake, Version.current.toBytes⟩ =
      .error (.frameTooLarge 5 s.settings.codec.maxBody) :=
    Codec.encode_eq_error_iff.mpr ⟨hsettings ▸ hc, rfl⟩
  rw [handshake_of_not_sent (transmit_of_tooLong he hencode), hsettings]

theorem connect_of_greeted {s : Session Bench} {link : Bench} {v : Version}
    (hl : s.phase.isLive = false) (ha : Bench.transport.attach s.selector s.link = (.ok (), link))
    (hv : (((s.setPhase .handshaking).attachLink link).handshake Bench.transport).1 = .ok v)
    (hp : (s.greeted Bench.transport link).phase = .handshaking) :
    (s.connect Bench.transport).1 = .ok v ∧ (s.connect Bench.transport).2.phase = .ready := by
  obtain ⟨w, hw, -, hc⟩ | ⟨hnot, -⟩ := connect_of_opened hl ha
  · cases hv.symm.trans hw
    rw [hc]
    exact ⟨rfl, rfl⟩
  · exact absurd hp (hnot v hv)

theorem connect_of_not_greeted {s : Session Bench} {link : Bench} {e : SessionError}
    (hl : s.phase.isLive = false) (ha : Bench.transport.attach s.selector s.link = (.ok (), link))
    (he : (((s.setPhase .handshaking).attachLink link).handshake Bench.transport).1 = .error e) :
    (s.connect Bench.transport).1 = .error (handshakeFailure e) ∧
      (s.connect Bench.transport).2.phase = .faulted := by
  have herror : (s.connect Bench.transport).1 = .error (handshakeFailure e) := by
    have ha' : Bench.transport.attach (s.setPhase .handshaking).selector
        (s.setPhase .handshaking).link = (.ok (), link) := ha
    rw [connect, if_neg (Bool.eq_false_iff.mp hl)]
    dsimp only
    rw [ha']
    dsimp only
    split
    · next hv => rw [hv] at he; cases he
    · next he' => rw [he'] at he; cases he; rfl
  exact ⟨herror, (connect_faulted Bench.transport_tracks hl ha herror).2.1⟩

theorem connectOn_of_opened (R : Runtime) {s : Session Bench} {link : Bench}
    (hl : s.phase.isLive = false) (ha : Bench.transport.attach s.selector s.link = (.ok (), link)) :
    s.connectOn R Bench.transport =
      if R.channelLimit < s.settings.eventCapacity then none
      else R.spawnFailure.elim (some (s.connect Bench.transport)) fun why =>
        let cause := SessionError.transportIo ("failed to spawn read loop: " ++ why)
        some (.error cause, ((s.setPhase .handshaking).attachLink link).fault Bench.transport cause) := by
  cases hspawn : R.spawnFailure <;>
    simp only [connectOn, hl, ha, hspawn, Option.elim_none, Option.elim_some]

/-- A new session with a configuration that has passed its checks, and a device that waits for it.
They come to talk if the longest body has room for an offered version, if the runtime can make a
channel for the events and if it can start a thread. The checks also accept bodies without that
room, of three or four bytes, with which no session can connect, and events in numbers that no
channel can hold, with which the call has no outcome at all. -/
theorem connect_new_of_validated {c : HostConfig} (hv : c.validate = .ok ())
    (hb : b.Prepared c.framing.codec) (selector : Selector) (pace : Pace) (R : Runtime) :
    let s := Session.new (.ofConfig c) selector pace b
    let longest := c.framing.maxBody.toNat
    let events := s.settings.eventCapacity
    3 ≤ longest ∧
    (R.channelLimit < events → s.connectOn R Bench.transport = none) ∧
    (events ≤ R.channelLimit →
      ∃ outcome s', s.connectOn R Bench.transport = some (outcome, s') ∧
        (∀ why, R.spawnFailure = some why →
          outcome = .error (.transportIo ("failed to spawn read loop: " ++ why)) ∧
          s'.phase = .faulted) ∧
        (R.spawnFailure = none → 5 ≤ longest → outcome = .ok .current ∧ s'.phase = .ready) ∧
        (R.spawnFailure = none → longest < 5 →
          outcome = .error (.handshakeFailed
            (SessionError.protocol (.frameTooLarge 5 longest)).message) ∧
          s'.phase = .faulted)) := by
  intro s longest events
  obtain ⟨hmin, hmax⟩ := FramingConfig.validate_eq_ok_iff.mp (HostConfig.framing_of_validate hv)
  have hbody : (SessionSettings.ofConfig c).codec.maxBody = longest := Nat.min_eq_left hmax
  have hroom : 0 < (SessionSettings.ofConfig c).maxRead := Nat.le_max_left 1 _
  have ha : Bench.transport.attach s.selector s.link = (.ok (), b.opened) := hb.attach
  have hon := connectOn_of_opened R (s := s) rfl ha
  refine ⟨hmin, fun hover => hon.trans (if_pos hover), fun hle => ?_⟩
  have hfits : ¬ R.channelLimit < s.settings.eventCapacity := Nat.not_lt.mpr hle
  rw [if_neg hfits] at hon
  cases hspawn : R.spawnFailure with
  | some why =>
    rw [hspawn] at hon
    refine ⟨_, _, hon, fun why' hw => ?_, nofun, nofun⟩
    obtain rfl : why = why' := Option.some.inj hw
    rw [fault_of_live rfl, failAll_eq]
    exact ⟨rfl, rfl⟩
  | none =>
    rw [hspawn] at hon
    refine ⟨_, _, hon, nofun, fun _ hlong => ?_, fun _ hshort => ?_⟩
    · obtain ⟨hok, hphase⟩ := handshake_of_room hb hroom (hbody ▸ hlong) selector pace
      exact connect_of_greeted rfl ha hok hphase
    · have herror := handshake_of_cramped (hbody ▸ hshort) selector pace b
      rw [hbody] at herror
      exact connect_of_not_greeted rfl ha herror

/-- A runtime whose channels can hold half as much as can be counted, and that can start its
threads. -/
def wideRuntime : Runtime := { channelLimit := 9223372036854775807 }

/-- The narrowest configuration with which a session can connect. -/
def narrowest : HostConfig where
  device := { endpoints := { transfer := .announced, retries := 1 } }
  session := { maxRead := 1, eventCapacity := 1, errorLimit := 0, sequenceSpace := 2 }
  framing := { maxBody := 5, lengthWidth := .one, checksum := .crc32 }

theorem connect_new_of_validated_narrowest :
    let b : Bench := { device := { Device.new narrowest.framing.codec with announced := some 1 } }
    let s := Session.new (.ofConfig narrowest) .standard .lasting b
    narrowest.validate = .ok () ∧ b.Prepared narrowest.framing.codec ∧
      ∃ s', s.connectOn wideRuntime Bench.transport = some (.ok ⟨1, 0⟩, s') ∧ s'.phase = .ready := by
  intro b s
  have hv : narrowest.validate = .ok () := by decide +kernel
  have hb : b.Prepared narrowest.framing.codec := by constructor <;> rfl
  obtain ⟨-, -, hconnects⟩ := connect_new_of_validated hv hb .standard .lasting wideRuntime
  obtain ⟨outcome, s', he, -, hlong, -⟩ := hconnects (by decide)
  obtain ⟨rfl, hready⟩ := hlong rfl (Nat.le_refl 5)
  exact ⟨hv, hb, s', he, hready⟩

/-- One byte less passes the checks as well, and so does a number of events that no channel can
hold. -/
theorem connect_new_narrower :
    let c : HostConfig := { framing := { maxBody := 4 } }
    let b := Bench.new c.framing.codec
    let s := Session.new (.ofConfig c) .standard .lasting b
    let c' : HostConfig := { session := { eventCapacity := 9223372036854775808 } }
    let s' := Session.new (.ofConfig c') .standard .lasting b
    c.validate = .ok () ∧ b.Prepared c.framing.codec ∧
      (s.connect Bench.transport).1 ≠ .ok .current ∧
      (s.connect Bench.transport).2.phase = .faulted ∧
      c'.validate = .ok () ∧ (s'.connectOn wideRuntime Bench.transport).isNone = true := by
  intro c b s c' s'
  have hv : c.validate = .ok () := by decide +kernel
  have hb : b.Prepared c.framing.codec := by constructor <;> rfl
  have hconnect : (s.connect Bench.transport).1 ≠ .ok .current ∧
      (s.connect Bench.transport).2.phase = .faulted := by decide +kernel
  have hwide : c'.validate = .ok () ∧ (s'.connectOn wideRuntime Bench.transport).isNone = true := by
    decide +kernel
  exact ⟨hv, hb, hconnect.1, hconnect.2, hwide⟩

end Session
end FrameLink
