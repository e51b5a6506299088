import FrameLink.Proofs.Device.Delivery
import FrameLink.Proofs.Device.Open
import FrameLink.Proofs.Session.Met
import FrameLink.Proofs.Session.Moments

namespace FrameLink

/-- What happens while a device delivers raw transfers. -/
inductive Traffic where
  | arrives (bs : Bytes) (age : Duration)
  /-- Time passes, and no read ends meanwhile. -/
  | passes (d : Duration)
  | reads (steps : Nat)

namespace Traffic

def transfers : List Traffic → List Bytes
  | [] => []
  | arrives bs _ :: rest => bs :: transfers rest
  | passes _ :: rest => transfers rest
  | reads _ :: rest => transfers rest

end Traffic

namespace Session

variable {σ : Type} {T : Transport σ}

def afterRead (T : Transport σ) (s : Session σ) (link : σ) : Session σ :=
  { s with link := link }.later (T.readTime link)

def worked (T : Transport σ) : Nat → Session σ → List Moment
  | 0, _ => []
  | steps + 1, s =>
    let read := if s.reading then T.poll s.settings.maxRead s.settings.readPoll s.link else none
    match read with
    | some (outcome, link) =>
      let s := s.afterRead T link
      .wait (T.readTime link) ::
        ((heeded (s.findings outcome) s).map .finding ++ worked T steps (s.absorb T outcome))
    | none =>
      match T.follow s.link with
      | some link => worked T steps { s with link := link }
      | none => []

/-- Transfers arrive and are read as it comes, and what is left is read in the end: what the session
goes through, and the session afterwards. -/
def deliver : List Traffic → Session Bench → List Moment × Session Bench
  | [], s => (worked Bench.transport (Bench.horizon s.link) s, s.settle Bench.transport)
  | .arrives bs age :: rest, s => deliver rest { s with link := s.link.act (.raw bs age) }
  | .passes d :: rest, s =>
    let (later, last) := deliver rest (s.later d)
    (.wait d :: later, last)
  | .reads steps :: rest, s =>
    let (later, last) := deliver rest (settleWithin Bench.transport steps s)
    (worked Bench.transport steps s ++ later, last)

variable {s : Session σ}

theorem settleWithin_of_poll {outcome : Except TransportError Packet} {link : σ}
    (hr : s.reading = true)
    (hp : T.poll s.settings.maxRead s.settings.readPoll s.link = some (outcome, link))
    (steps : Nat) :
    settleWithin T (steps + 1) s = settleWithin T steps ((s.afterRead T link).absorb T outcome) ∧
      worked T (steps + 1) s = .wait (T.readTime link) ::
        ((heeded ((s.afterRead T link).findings outcome) (s.afterRead T link)).map .finding ++
          worked T steps ((s.afterRead T link).absorb T outcome)) := by
  have hread : (if s.reading then T.poll s.settings.maxRead s.settings.readPoll s.link else none) =
      some (outcome, link) := (if_pos hr).trans hp
  rw [settleWithin, worked, hread]
  exact ⟨rfl, rfl⟩

theorem read_of_rest
    (hp : s.reading = true → T.poll s.settings.maxRead s.settings.readPoll s.link = none) :
    (if s.reading then T.poll s.settings.maxRead s.settings.readPoll s.link else none) = none := by
  split
  · next hr => exact hp hr
  · rfl

theorem settleWithin_of_rest
    (hp : s.reading = true → T.poll s.settings.maxRead s.settings.readPoll s.link = none)
    (hf : T.follow s.link = none) (steps : Nat) :
    settleWithin T steps s = s ∧ worked T steps s = [] := by
  cases steps with
  | zero => exact ⟨rfl, rfl⟩
  | succ steps =>
    rw [settleWithin, worked, read_of_rest hp]
    dsimp only
    rw [hf]
    exact ⟨rfl, rfl⟩

theorem rest_of_stopped {s : Session Bench} (hr : s.reading = false) (hi : s.link.agenda = []) :
    (s.reading = true →
      Bench.transport.poll s.settings.maxRead s.settings.readPoll s.link = none) ∧
    Bench.transport.follow s.link = none := by
  refine ⟨fun h => ?_, ?_⟩
  · cases hr.symm.trans h
  · change s.link.follow = none
    rw [Bench.follow, hi]

/-- The session has read these packets since it was `s₀`, and that is what it has gone through. -/
structure Took (T : Transport σ) (s₀ : Session σ) (packets : List Bytes) (moments : List Moment)
    (s : Session σ) : Prop where
  outward : s.outward = (s₀.relive T moments).outward
  findings : findingsIn moments = heeded (s₀.receiver.decoder.feed packets).1 s₀
  held : Holds s₀ packets s
  full : [] ∉ packets

namespace Took

variable {s₀ : Session σ} {packets more : List Bytes} {moments : List Moment} {p : Packet}

theorem refl (T : Transport σ) (s : Session σ) : Took T s [] [] s :=
  ⟨rfl, rfl, .refl s, List.not_mem_nil⟩

theorem link (ht : Took T s₀ packets moments s) (link : σ) :
    Took T s₀ packets moments { s with link := link } :=
  ⟨ht.outward, ht.findings, ht.held, ht.full⟩

theorem wait (ht : Took T s₀ packets moments s) (d : Duration) :
    Took T s₀ packets (moments ++ [.wait d]) (s.later d) where
  outward := by
    rw [relive_append]
    exact congrArg (Session.later · d) ht.outward
  findings := by
    rw [findingsIn_append, ht.findings]
    exact List.append_nil _
  held := ht.held
  full := ht.full

/-- What has been found in the packets has been worked through, whenever that was. -/
theorem unmarked (ht : Took T s₀ packets moments s) :
    s.unmarked = (s₀.digested T (s₀.receiver.decoder.feed packets).1).unmarked := by
  rw [unmarked_of_outward ht.outward, unmarked_relive (U := T) rfl, ht.findings, digested_eq_foldl]

theorem unmarked_of_sound (ht : Took T s₀ packets moments s)
    (hnone : (digest (s₀.receiver.decoder.feed packets).1 s₀).1 = none) :
    s.unmarked = (digest (s₀.receiver.decoder.feed packets).1 s₀).2.unmarked := by
  rw [ht.unmarked, digested_of_none hnone]

theorem phase_of_sound (ht : Took T s₀ packets moments s)
    (hnone : (digest (s₀.receiver.decoder.feed packets).1 s₀).1 = none) : s.phase = s₀.phase := by
  have hphase : s.unmarked.phase = (digest (s₀.receiver.decoder.feed packets).1 s₀).2.unmarked.phase := by
    rw [ht.unmarked_of_sound hnone]
  exact hphase.trans (sameReader_digest _ s₀).phase

theorem sound_of_phase (ht : Took T s₀ packets moments s) (hl : s₀.phase.isLive = true)
    (hp : s.phase ≠ .faulted) : (digest (s₀.receiver.decoder.feed packets).1 s₀).1 = none := by
  cases hf : (digest (s₀.receiver.decoder.feed packets).1 s₀).1 with
  | none => rfl
  | some cause =>
    have hu := ht.unmarked
    rw [← (sameReader_digest (s₀.receiver.decoder.feed packets).1 s₀).phase] at hl
    rw [digested_of_some hf, fault_of_live hl, failAll_eq] at hu
    have hfaulted : s.unmarked.phase = .faulted := by rw [hu]; rfl
    exact absurd hfaulted hp

theorem failed (ht : Took T s₀ packets moments s)
    (hf : (digest (s₀.receiver.decoder.feed packets).1 s₀).1 ≠ none) (hm : [] ∉ more) :
    Took T s₀ (packets ++ more) moments s ∧
      (digest (s₀.receiver.decoder.feed (packets ++ more)).1 s₀).1 ≠ none := by
  refine ⟨⟨ht.outward, ?_, .failed hf more, ?_⟩, ?_⟩
  · rw [ht.findings, Decoder.feed_append, heeded_append, if_neg hf]
  · rw [List.mem_append, not_or]
    exact ⟨ht.full, hm⟩
  · rw [Decoder.feed_append, digest_append, if_neg hf]
    exact hf

theorem absorb (ht : Took T s₀ packets moments s)
    (hnone : (digest (s₀.receiver.decoder.feed packets).1 s₀).1 = none) (hp : p.data ≠ []) :
    Took T s₀ (packets ++ [p.data])
        (moments ++ (heeded (s.findings (.ok p)) s).map .finding) (s.absorb T (.ok p)) ∧
      (digest (s₀.receiver.decoder.feed (packets ++ [p.data])).1 s₀).1 =
        (digest (s.findings (.ok p)) s).1 := by
  obtain ⟨hdigest, hheeded⟩ := digest_fst_congr (ht.unmarked_of_sound hnone) (s.findings (.ok p))
  have hresults := ht.held.feed_concat hnone hp
  have hfails : (digest (s₀.receiver.decoder.feed (packets ++ [p.data])).1 s₀).1 =
      (digest (s.findings (.ok p)) s).1 := by
    rw [hresults, digest_append, if_pos hnone, hdigest]
  refine ⟨⟨?_, ?_, ht.held.absorb hnone hp hfails, ?_⟩, hfails⟩
  · rw [outward_absorb T s hp, digested_eq_foldl, ← relive_findings, relive_append, outward_relive,
      ht.outward, ← outward_relive]
  · rw [findingsIn_append, findingsIn_map_finding, ht.findings, hresults, heeded_append,
      if_pos hnone, hheeded]
  · rw [List.mem_append, List.mem_singleton, not_or]
    exact ⟨ht.full, hp.symm⟩

end Took

variable {s s₀ : Session Bench} {packets : List Bytes} {bs arrived : Bytes}
  {moments : List Moment}

/-- How far the session has come with the bytes that have arrived: it reads and the rest is still
queued, or it has failed and reads no more. -/
inductive Delivered (s₀ : Session Bench) (arrived : Bytes) (moments : List Moment)
    (s : Session Bench) : Prop
  | reading {packets : List Bytes} (took : Took Bench.transport s₀ packets moments s)
    (sound : (digest (s₀.receiver.decoder.feed packets).1 s₀).1 = none)
    (reading : s.reading = true) (room : 0 < s.settings.maxRead) (quiet : s.link.Quiet)
    (all : packets.flatten ++ s.link.device.inbound.flatten = arrived)
  | failed {packets : List Bytes} (took : Took Bench.transport s₀ packets moments s)
    (failure : (digest (s₀.receiver.decoder.feed packets).1 s₀).1 ≠ none)
    (reading : s.reading = false) (idle : s.link.agenda = [])
    (all : packets.flatten = arrived)

namespace Delivered

theorem arrives (hd : Delivered s₀ arrived moments s) (hbs : bs ≠ []) (age : Duration) :
    Delivered s₀ (arrived ++ bs) moments { s with link := s.link.act (.raw bs age) } := by
  cases hd with
  | reading took sound reading room quiet all =>
    obtain ⟨hquiet, hinbound⟩ := quiet.act hbs age
    refine .reading (took.link _) sound reading room hquiet ?_
    change _ ++ (s.link.act (.raw bs age)).device.inbound.flatten = _
    rw [hinbound, List.flatten_append, ← List.append_assoc, all, List.flatten_singleton]
  | @failed packets took failure reading idle all =>
    have hmore : [] ∉ [bs] := by
      rw [List.mem_singleton]
      exact hbs.symm
    obtain ⟨htook, hfailure⟩ := took.failed failure hmore
    refine .failed (htook.link _) hfailure reading idle ?_
    rw [List.flatten_append, all, List.flatten_singleton]

theorem passes (hd : Delivered s₀ arrived moments s) (d : Duration) :
    Delivered s₀ arrived (moments ++ [.wait d]) (s.later d) := by
  cases hd with
  | reading took sound reading room quiet all =>
    exact .reading (took.wait d) sound reading room quiet all
  | failed took failure reading idle all => exact .failed (took.wait d) failure reading idle all

/-- One read, of a session whose link has just given the packet. -/
theorem read (hl : s₀.phase.isLive = true) {p : Packet} (hp : p.data ≠ [])
    (took : Took Bench.transport s₀ packets moments s)
    (sound : (digest (s₀.receiver.decoder.feed packets).1 s₀).1 = none)
    (hr : s.reading = true) (room : 0 < s.settings.maxRead) (hq : s.link.Quiet)
    (all : packets.flatten ++ (p.data ++ s.link.device.inbound.flatten) = arrived) :
    Delivered s₀ arrived (moments ++ (heeded (s.findings (.ok p)) s).map .finding)
      (s.absorb Bench.transport (.ok p)) ∧
    (s.absorb Bench.transport (.ok p)).link.device.inbound = s.link.device.inbound := by
  obtain ⟨htook, hfails⟩ := took.absorb sound hp
  have hall : (packets ++ [p.data]).flatten ++ s.link.device.inbound.flatten = arrived := by
    rw [← all, List.flatten_append, List.flatten_singleton, List.append_assoc]
  cases hf : (digest (s.findings (.ok p)) s).1 with
  | none =>
    obtain ⟨hlink, hsettings, hreading, -, -⟩ := absorb_of_sound Bench.transport hp hf
    refine ⟨.reading htook (hfails.trans hf) (hreading.trans hr) ?_ ?_ ?_, by rw [hlink]⟩
    · rwa [hsettings]
    · rwa [hlink]
    · rwa [hlink]
  | some cause =>
    have hphase : s.phase.isLive = true := took.phase_of_sound sound ▸ hl
    obtain ⟨-, hreading, hlink, -⟩ := absorb_of_failure Bench.transport hp hphase hf
    -- What is still queued is not read any more, and does not count.
    have hfailure := hfails.trans hf
    obtain ⟨htook', hfailure'⟩ := htook.failed (by rw [hfailure]; exact nofun) hq.full
    refine ⟨.failed htook' hfailure' hreading ?_ ?_, by rw [hlink]; rfl⟩
    · rw [hlink]
      exact hq.idle
    · rw [List.flatten_append]
      exact hall

theorem step (hl : s₀.phase.isLive = true) (hd : Delivered s₀ arrived moments s) :
    ((s.reading = true →
        Bench.transport.poll s.settings.maxRead s.settings.readPoll s.link = none) ∧
      Bench.transport.follow s.link = none ∧
      (s.reading = true → s.link.device.inbound = [])) ∨
    ∃ p link, s.reading = true ∧
      Bench.transport.poll s.settings.maxRead s.settings.readPoll s.link = some (.ok p, link) ∧
      let s' := s.afterRead Bench.transport link
      Delivered s₀ arrived
        (moments ++ [.wait (Bench.transport.readTime link)] ++
          (heeded (s'.findings (.ok p)) s').map .finding)
        (s'.absorb Bench.transport (.ok p)) ∧
      Bench.queueReads (s'.absorb Bench.transport (.ok p)).link.device.inbound <
        Bench.queueReads s.link.device.inbound := by
  cases hd with
  | failed took failure reading idle all =>
    obtain ⟨hpoll, hfollow⟩ := rest_of_stopped reading idle
    refine .inl ⟨hpoll, hfollow, fun hr => ?_⟩
    cases reading.symm.trans hr
  | @reading packets took sound reading room quiet all =>
    cases hi : s.link.device.inbound with
    | nil => exact .inl ⟨fun _ => quiet.poll_nil hi, quiet.toCalm.follow, fun _ => rfl⟩
    | cons bs rest =>
      obtain ⟨hbs, hquiet⟩ := quiet.cons hi s.settings.maxRead
      have hpoll : Bench.transport.poll s.settings.maxRead s.settings.readPoll s.link =
          some (.ok ⟨bs.take s.settings.maxRead, s.link.age⟩,
            s.link.queueing (Bench.remaining s.settings.maxRead bs rest)) := quiet.poll_cons hi
      have hpos : 0 < bs.length := List.length_pos_iff.mpr hbs
      have hne : bs.take s.settings.maxRead ≠ [] := by
        rw [← List.length_pos_iff, List.length_take]
        omega
      have hall : packets.flatten ++ (bs.take s.settings.maxRead ++
          (Bench.remaining s.settings.maxRead bs rest).flatten) = arrived := by
        rw [Bench.flatten_remaining, ← all, hi, List.flatten_cons]
      have hless := Bench.queueReads_remaining room hbs rest
      generalize Bench.remaining s.settings.maxRead bs rest = inbound at *
      obtain ⟨hread, hinbound⟩ := read (p := ⟨bs.take s.settings.maxRead, s.link.age⟩) hl hne
        ((took.link (s.link.queueing inbound)).wait (Bench.transport.readTime _)) sound reading room
        hquiet hall
      refine .inr ⟨_, _, reading, hpoll, hread, ?_⟩
      rw [afterRead, hinbound]
      exact hless

theorem reads (hl : s₀.phase.isLive = true) (steps : Nat) (hd : Delivered s₀ arrived moments s) :
    Delivered s₀ arrived (moments ++ worked Bench.transport steps s)
      (settleWithin Bench.transport steps s) ∧
    (Bench.queueReads s.link.device.inbound ≤ steps →
      (settleWithin Bench.transport steps s).reading = true →
        (settleWithin Bench.transport steps s).link.device.inbound = []) := by
  induction steps generalizing s moments with
  | zero =>
    refine ⟨(List.append_nil moments).symm ▸ hd, fun hn _ => ?_⟩
    cases hi : s.link.device.inbound with
    | nil => exact hi
    | cons bs rest =>
      rw [hi, Bench.queueReads] at hn
      omega
  | succ steps ih =>
    obtain ⟨hpoll, hfollow, hdone⟩ | ⟨p, link, hr, hpoll, hnext, hless⟩ := hd.step hl
    · obtain ⟨hrest, hwork⟩ := settleWithin_of_rest hpoll hfollow (steps + 1)
      rw [hrest, hwork, List.append_nil]
      exact ⟨hd, fun _ => hdone⟩
    · obtain ⟨hsettle, hwork⟩ := settleWithin_of_poll hr hpoll steps
      rw [hsettle, hwork, List.append_cons, ← List.append_assoc]
      obtain ⟨hlast, hdone⟩ := ih hnext
      exact ⟨hlast, fun hn => hdone (by omega)⟩

theorem deliver (hl : s₀.phase.isLive = true) {traffic : List Traffic}
    (hfull : [] ∉ Traffic.transfers traffic) (hd : Delivered s₀ arrived moments s) :
    ∃ packets, Took Bench.transport s₀ packets (moments ++ (deliver traffic s).1)
        (deliver traffic s).2 ∧
      packets.flatten = arrived ++ (Traffic.transfers traffic).flatten := by
  induction traffic generalizing arrived moments s with
  | nil =>
    obtain ⟨hlast, hdone⟩ := hd.reads hl (Bench.horizon s.link)
    have hall : Bench.queueReads s.link.device.inbound ≤ Bench.horizon s.link := by
      rw [Bench.horizon, Nat.add_assoc]
      exact Nat.le_add_right _ _
    rw [Traffic.transfers, List.flatten_nil, List.append_nil]
    cases hlast with
    | reading took sound reading room quiet all =>
      rw [hdone hall reading, List.flatten_nil, List.append_nil] at all
      exact ⟨_, took, all⟩
    | failed took failure reading idle all => exact ⟨_, took, all⟩
  | cons event rest ih =>
    cases event with
    | arrives bs age =>
      rw [Traffic.transfers, List.mem_cons, not_or] at hfull
      have hnext := hd.arrives (fun he => hfull.1 he.symm) age
      rw [Traffic.transfers, List.flatten_cons, ← List.append_assoc]
      exact ih hfull.2 hnext
    | passes d =>
      have hnext := ih hfull (hd.passes d)
      rwa [← List.append_cons] at hnext
    | reads steps =>
      have hnext := ih hfull (hd.reads hl steps).1
      rwa [List.append_assoc] at hnext

end Delivered

/-- The session as it would be if it asked for so many bytes at a time. -/
def asking (max : Nat) (s : Session σ) : Session σ :=
  { s with settings := { s.settings with maxRead := max } }

/-- A session that is ready, in the middle of a call or not, and a device that delivers raw
transfers. However the same bytes are cut and whenever they are read, in pieces of whatever size,
the session works through the same frames and anomalies and comes to the same phase, the same
answers, the same requests that wait and the same failures; all counters agree but perhaps those of
duplicates and events. If it is still ready it has also thrown away and kept the same bytes. As long
as no id is forgotten meanwhile, the duplicates and the events are the same as well, and the session
is outwardly the same altogether. -/
theorem Met.deliver_eq (hs : Met Bench.transport (fun b => b.device.isOpen) s)
    (hp : s.phase = .ready) (hq : s.link.Quiet) {these those : List Traffic}
    (hthese : [] ∉ Traffic.transfers these) (hthose : [] ∉ Traffic.transfers those)
    (h : (Traffic.transfers these).flatten = (Traffic.transfers those).flatten) {m n : Nat}
    (hm : 0 < m) (hn : 0 < n) :
    let x := deliver these (s.asking m)
    let y := deliver those (s.asking n)
    findingsIn x.1 = findingsIn y.1 ∧ x.2.unmarked = y.2.unmarked ∧
      (x.2.phase = .ready → x.2.stats.resyncBytes = y.2.stats.resyncBytes ∧
        x.2.receiver.decoder.buffer = y.2.receiver.decoder.buffer) ∧
      ((s.asking m).Recalls Bench.transport x.1 → (s.asking n).Recalls Bench.transport y.1 →
        x.2.timeless = y.2.timeless) := by
  intro x y
  have hc := hs.inForce Bench.transport_tracks hp
  have hstart {k : Nat} (hk : 0 < k) :
      Delivered (s.asking k) s.link.device.inbound.flatten [] (s.asking k) :=
    .reading (.refl Bench.transport _) rfl hc.reading hk hq rfl
  have hl (k : Nat) : (s.asking k).phase.isLive = true := hc.live
  obtain ⟨xs, hx, hxs⟩ := (hstart hm).deliver (hl m) hthese
  obtain ⟨ys, hy, hys⟩ := (hstart hn).deliver (hl n) hthose
  rw [List.nil_append] at hx hy
  have hflatten : xs.flatten = ys.flatten := by rw [hxs, hys, h]
  have hasking : (s.asking m).unmarked = (s.asking n).unmarked := rfl
  have hfeed : (s.asking n).receiver.decoder.feed ys = (s.asking m).receiver.decoder.feed xs :=
    (Decoder.feed_congr s.receiver.decoder hx.full hy.full hflatten).symm
  obtain ⟨hdigest, hheeded⟩ :=
    digest_fst_congr hasking ((s.asking m).receiver.decoder.feed xs).1
  have hfindings : findingsIn x.1 = findingsIn y.1 := by
    rw [hx.findings, hy.findings, hfeed, hheeded]
  refine ⟨hfindings, ?_, fun hready => ?_, fun hrecallsx hrecallsy => ?_⟩
  · rw [unmarked_of_outward hx.outward, unmarked_of_outward hy.outward,
      unmarked_relive (U := Bench.transport) hasking, unmarked_relive (U := Bench.transport) rfl,
      hfindings]
  · have hne : x.2.phase ≠ .faulted := by
      rw [hready]
      exact nofun
    have hsound := hx.sound_of_phase (hl m) hne
    have hsound' := hdigest.symm.trans hsound
    rw [← hfeed] at hsound'
    obtain ⟨hdecoder, hresync⟩ :=
      hx.held.agree hy.held rfl rfl hx.full hy.full hflatten hsound hsound'
    exact ⟨hresync, congrArg Decoder.buffer hdecoder⟩
  · rw [timeless_of_outward hx.outward, timeless_of_outward hy.outward, timeless_relive hrecallsx,
      timeless_relive hrecallsy, hfindings]
    rfl

/-- A session that tolerates two anomalies in a row and remembers ids for a tenth of a second, and a
request that waits. -/
def expectant : Session Bench :=
  let settings := { SessionSettings.standard with errorLimit := 2, requestTimeout := .ofMillis 100 }
  (Client.run Bench.transport
    { session := Session.new settings .standard .stepped (.new settings.codec) }
    [.connect, .subscribe, .send Opcode.request [0x61]]).session

def atOnce : List Traffic :=
  [.arrives [0x7E, 0, 9, 9, 0x7E, 0, 4, 0xFB, 0, 1, 2, 0x62, 0xC8, 0xBE, 0x7E, 0] ⟨0⟩]

/-- The same bytes in pieces, some of them read as they come. -/
def inPieces : List Traffic :=
  [.arrives [0x7E] ⟨0⟩, .reads 5, .arrives [0, 9, 9, 0x7E] ⟨7⟩, .passes (.ofMillis 40),
    .arrives [0, 4, 0xFB, 0, 1, 2, 0x62] ⟨0⟩, .reads 1, .arrives [0xC8, 0xBE, 0x7E, 0] ⟨0⟩]

theorem Met.deliver_eq_of_pieces :
    let x := deliver atOnce (expectant.asking 4096)
    let y := deliver inPieces (expectant.asking 1)
    expectant.phase = .ready ∧
      findingsIn x.1 = [.error (.checksumMismatch 9 0xF6), .ok ⟨1, 2, [0x62]⟩] ∧
      findingsIn x.1 = findingsIn y.1 ∧ x.2.unmarked = y.2.unmarked ∧
      x.2.timeless = y.2.timeless ∧ y.2.phase = .ready ∧
      y.2.answer? 1 = some (.ok ⟨1, 2, [0x62]⟩) ∧
      x.2.stats.resyncBytes = y.2.stats.resyncBytes ∧
      x.2.receiver.decoder.buffer = y.2.receiver.decoder.buffer := by
  intro x y
  have hmet : Met Bench.transport (fun b => b.device.isOpen) expectant :=
    ⟨_, _, _, _, _, rfl, by simp [Call.Sole], .refl⟩
  have hbench : expectant.link.device.announced = none ∧ expectant.link.device.readFault = none ∧
      expectant.link.device.isGone = false ∧ expectant.link.device.isOpen = true ∧
      [] ∉ expectant.link.device.inbound ∧ expectant.link.agenda = [] ∧
      expectant.link.silent = false ∧ expectant.phase = .ready := by decide +kernel
  obtain ⟨hraw, hhealthy, hpresent, hopened, hunread, hidle, hsteady, hready⟩ := hbench
  have hx : findingsIn x.1 = [.error (.checksumMismatch 9 0xF6), .ok ⟨1, 2, [0x62]⟩] ∧
      x.2.phase = .ready ∧ y.2.phase = .ready ∧ y.2.answer? 1 = some (.ok ⟨1, 2, [0x62]⟩) := by
    decide +kernel
  have hrecalls : (expectant.asking 4096).Recalls Bench.transport x.1 ∧
      (expectant.asking 1).Recalls Bench.transport y.1 := by decide +kernel
  have hfull : [] ∉ Traffic.transfers atOnce ∧ [] ∉ Traffic.transfers inPieces := by decide
  obtain ⟨hfindings, hunmarked, hkept, htimeless⟩ := Met.deliver_eq hmet hready
    ⟨⟨hhealthy, hpresent, hopened, hidle, hsteady⟩, hraw, hunread⟩ hfull.1 hfull.2 rfl
    (show 0 < 4096 by decide) (show 0 < 1 by decide)
  exact ⟨hready, hx.1, hfindings, hunmarked, htimeless hrecalls.1 hrecalls.2, hx.2.2.1, hx.2.2.2,
    hkept hx.2.1⟩

def twice : List Traffic :=
  let reply := [0x7E, 0, 4, 0xFB, 0, 1, 2, 0x62, 0xC8, 0xBE]
  [.arrives reply ⟨0⟩, .reads 5, .arrives reply ⟨0⟩]

/-- The second time it comes in pieces, no two of them as far apart as a read may last. -/
def twiceInPieces : List Traffic :=
  [.arrives [0x7E, 0, 4, 0xFB, 0, 1, 2, 0x62, 0xC8, 0xBE] ⟨0⟩, .reads 5, .arrives [0x7E, 0, 4] ⟨0⟩,
    .reads 1, .passes (.ofMillis 40), .arrives [0xFB, 0] ⟨0⟩, .reads 1, .passes (.ofMillis 40),
    .arrives [1, 2, 0x62] ⟨0⟩, .reads 1, .passes (.ofMillis 40), .arrives [0xC8, 0xBE] ⟨0⟩]

/-- The id is remembered for less time than all pieces take: they end in an event, not in a
duplicate. -/
theorem deliver_twiceInPieces :
    let x := deliver twice expectant
    let y := deliver twiceInPieces expectant
    expectant.phase = .ready ∧ [] ∉ Traffic.transfers twice ∧
      [] ∉ Traffic.transfers twiceInPieces ∧
      (Traffic.transfers twice).flatten = (Traffic.transfers twiceInPieces).flatten ∧
      Duration.ofMillis 40 < expectant.settings.readPoll ∧
      x.2.stats.duplicateResponses = 1 ∧ y.2.stats.duplicateResponses = 0 ∧
      x.2.streams.map EventStream.unread = [[]] ∧
      y.2.streams.map EventStream.unread = [[⟨1, 2, [0x62]⟩]] := by
  decide +kernel

end Session
end FrameLink
