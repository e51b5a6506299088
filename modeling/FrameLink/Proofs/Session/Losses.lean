import FrameLink.Proofs.Device.Announced
import FrameLink.Proofs.Session.Transfers
import FrameLink.Session.Request

namespace FrameLink

theorem Bench.length_le_queueReads (queue : List Bytes) : queue.length ≤ queueReads queue := by
  induction queue with
  | nil => exact Nat.le_refl 0
  | cons bs rest ih =>
    rw [queueReads, List.length_cons]
    omega

namespace Session

variable {σ : Type} {T : Transport σ} {s : Session σ}

def brought : Except TransportError Packet → List Bytes
  | .ok p => [p.data]
  | .error _ => []

theorem brought_delivery (age : Duration) (got : Option Bytes) :
    brought (Bench.delivery age got) = got.toList := by
  cases got <;> rfl

def taken (T : Transport σ) : Nat → Session σ → List Bytes
  | 0, _ => []
  | steps + 1, s =>
    let read := if s.reading then T.poll s.settings.maxRead s.settings.readPoll s.link else none
    match read with
    | some (outcome, link) =>
      brought outcome ++ taken T steps ((s.afterRead T link).absorb T outcome)
    | none =>
      match T.follow s.link with
      | some link => taken T steps { s with link := link }
      | none => []

/-- Messages are announced and read as it comes, and what is left is read in the end: the packets
that the session takes in, and the session afterwards. -/
def attend : List Traffic → Session Bench → List Bytes × Session Bench
  | [], s => (taken Bench.transport (Bench.horizon s.link) s, s.settle Bench.transport)
  | .arrives m age :: rest, s => attend rest { s with link := s.link.act (.raw m age) }
  | .passes d :: rest, s => attend rest (s.later d)
  | .reads steps :: rest, s =>
    let (later, last) := attend rest (settleWithin Bench.transport steps s)
    (taken Bench.transport steps s ++ later, last)

theorem taken_of_poll {outcome : Except TransportError Packet} {link : σ} (hr : s.reading = true)
    (hp : T.poll s.settings.maxRead s.settings.readPoll s.link = some (outcome, link))
    (steps : Nat) :
    taken T (steps + 1) s =
      brought outcome ++ taken T steps ((s.afterRead T link).absorb T outcome) := by
  have hread : (if s.reading then T.poll s.settings.maxRead s.settings.readPoll s.link else none) =
      some (outcome, link) := (if_pos hr).trans hp
  rw [taken, hread]

theorem taken_of_rest
    (hp : s.reading = true → T.poll s.settings.maxRead s.settings.readPoll s.link = none)
    (hf : T.follow s.link = none) (steps : Nat) : taken T steps s = [] := by
  cases steps with
  | zero => rfl
  | succ steps =>
    rw [taken, read_of_rest hp]
    dsimp only
    rw [hf]

structure Stopped (T : Transport σ) (s s' : Session σ) : Prop where
  phase : s'.phase = .faulted
  reading : s'.reading = false
  link : s'.link = T.release s.link

theorem stopped_fault (T : Transport σ) (s' : Session σ) (hl : s'.phase.isLive = true)
    (hlink : s'.link = s.link) (cause : SessionError) : Stopped T s (s'.fault T cause) := by
  rw [fault_of_live hl, failAll_eq]
  exact ⟨rfl, rfl, congrArg T.release hlink⟩

theorem absorb_cases (T : Transport σ) (hl : s.phase.isLive = true)
    (outcome : Except TransportError Packet) :
    ((s.absorb T outcome).phase = s.phase ∧ (s.absorb T outcome).reading = s.reading ∧
      (s.absorb T outcome).link = s.link) ∨ Stopped T s (s.absorb T outcome) := by
  by_cases ho : Idle outcome
  · rw [absorb_idle T s ho]
    split
    · exact .inl ⟨rfl, rfl, rfl⟩
    · split
      · have hlink : s.discard.link = s.link := rfl
        exact .inr (stopped_fault T s.discard hl hlink _)
      · exact .inl ⟨rfl, rfl, rfl⟩
  · cases outcome with
    | ok p =>
      obtain ⟨s', -, hlink, -, hphase, hreading, -, -, he⟩ := exists_absorb_eq T s ho
      rw [he]
      split
      · exact .inl ⟨hphase, hreading, hlink⟩
      · exact .inr (stopped_fault T s' (hphase ▸ hl) hlink _)
    | error e =>
      rw [absorb, takeIn_of_error ho]
      exact .inr (stopped_fault T s hl rfl _)

open Announcement

variable {s : Session Bench} {retries : UInt8} {backlog : Backlog} {waiting : List Bytes}

/-- How far a session has come with the messages that have been announced since it had `start`
before it: it reads and some of them wait, or it has failed and reads no more. -/
inductive Attends (retries : UInt8) (start : Backlog) (messages got : List Bytes)
    (s : Session Bench) : Prop
  | reading {backlog : Backlog} {waiting : List Bytes} (live : s.phase.isLive = true)
    (reading : s.reading = true) (announcing : s.link.Announcing retries backlog waiting)
    (all : start.fetchAll retries.toNat messages =
      (got ++ (backlog.fetchAll retries.toNat waiting).1,
        (backlog.fetchAll retries.toNat waiting).2))
  | stopped (phase : s.phase = .faulted) (reading : s.reading = false) (idle : s.link.agenda = [])
    (all : got <+: (start.fetchAll retries.toNat messages).1)

namespace Attends

variable {start : Backlog} {messages got : List Bytes} {message : Bytes}

theorem arrives (ha : Attends retries start messages got s) (hf : Fits message) (age : Duration) :
    Attends retries start (messages ++ [message]) got
      { s with link := s.link.act (.raw message age) } := by
  cases ha with
  | reading live reading announcing all =>
    refine .reading live reading (announcing.act hf age) ?_
    rw [Backlog.fetchAll_append, Backlog.fetchAll_append, all, List.append_assoc]
  | stopped phase reading idle all =>
    refine .stopped phase reading idle (all.trans ?_)
    rw [Backlog.fetchAll_append]
    exact List.prefix_append _ _

theorem passes (ha : Attends retries start messages got s) (d : Duration) :
    Attends retries start messages got (s.later d) := by
  cases ha with
  | reading live reading announcing all => exact .reading live reading announcing all
  | stopped phase reading idle all => exact .stopped phase reading idle all

theorem absorb (live : s.phase.isLive = true) (reading : s.reading = true)
    (announcing : s.link.Announcing retries backlog waiting)
    (all : start.fetchAll retries.toNat messages =
      (got ++ (backlog.fetchAll retries.toNat waiting).1,
        (backlog.fetchAll retries.toNat waiting).2))
    (outcome : Except TransportError Packet) :
    Attends retries start messages got (s.absorb Bench.transport outcome) ∧
      (s.absorb Bench.transport outcome).link.device.inbound = s.link.device.inbound := by
  obtain ⟨hphase, hreading, hlink⟩ | hstopped := absorb_cases Bench.transport live outcome
  · refine ⟨.reading (hphase ▸ live) (hreading.trans reading) ?_ all, by rw [hlink]⟩
    rwa [hlink]
  · refine ⟨.stopped hstopped.phase hstopped.reading ?_ ?_, ?_⟩
    · rw [hstopped.link]
      exact announcing.idle
    · rw [all]
      exact List.prefix_append _ _
    · rw [hstopped.link]
      rfl

theorem step (ha : Attends retries start messages got s) :
    ((s.reading = true →
        Bench.transport.poll s.settings.maxRead s.settings.readPoll s.link = none) ∧
      Bench.transport.follow s.link = none ∧
      (s.reading = true → s.link.device.inbound = [])) ∨
    ∃ outcome link, s.reading = true ∧
      Bench.transport.poll s.settings.maxRead s.settings.readPoll s.link = some (outcome, link) ∧
      let s' := (s.afterRead Bench.transport link).absorb Bench.transport outcome
      Attends retries start messages (got ++ brought outcome) s' ∧
        s'.link.device.inbound.length ≤ s.link.device.inbound.length - 1 := by
  cases ha with
  | stopped phase reading idle all =>
    obtain ⟨hpoll, hfollow⟩ := rest_of_stopped reading idle
    refine .inl ⟨hpoll, hfollow, fun hr => ?_⟩
    cases reading.symm.trans hr
  | @reading backlog waiting live reading announcing all =>
    cases waiting with
    | nil =>
      have hinbound : s.link.device.inbound = [] := announcing.headers
      have hpoll : Bench.transport.poll s.settings.maxRead s.settings.readPoll s.link =
          if s.link.dry then none else some (.error .timeout, { s.link with dry := true }) :=
        announcing.poll_nil s.settings.maxRead
      cases hd : s.link.dry with
      | true =>
        rw [hd, if_pos rfl] at hpoll
        exact .inl ⟨fun _ => hpoll, announcing.toCalm.follow, fun _ => hinbound⟩
      | false =>
        rw [hd, if_neg Bool.false_ne_true] at hpoll
        obtain ⟨hnext, hsame⟩ := absorb
          (s := s.afterRead Bench.transport { s.link with dry := true }) live reading announcing.told
          all (.error .timeout)
        refine .inr ⟨_, _, reading, hpoll, ?_, ?_⟩
        · rwa [brought, List.append_nil]
        · rw [hsame]
          change s.link.device.inbound.length ≤ _
          rw [hinbound]
          exact Nat.le_refl 0
    | cons m rest =>
      obtain ⟨link, hpoll, hlink⟩ := announcing.poll_cons s.settings.maxRead
      rw [Backlog.fetchAll, ← List.append_assoc, ← brought_delivery s.link.age] at all
      obtain ⟨hnext, hsame⟩ := absorb (s := s.afterRead Bench.transport link) live reading hlink all _
      refine .inr ⟨_, link, reading, hpoll, hnext, ?_⟩
      rw [hsame]
      change link.device.inbound.length ≤ _
      rw [hlink.headers, announcing.headers, List.length_map, List.length_map]
      exact Nat.le_refl _

theorem reads (steps : Nat) (ha : Attends retries start messages got s) :
    Attends retries start messages (got ++ taken Bench.transport steps s)
      (settleWithin Bench.transport steps s) ∧
    (s.link.device.inbound.length ≤ steps →
      (settleWithin Bench.transport steps s).reading = true →
        (settleWithin Bench.transport steps s).link.device.inbound = []) := by
  induction steps generalizing s got with
  | zero =>
    refine ⟨(List.append_nil got).symm ▸ ha, fun hn _ => ?_⟩
    exact List.length_eq_zero_iff.mp (Nat.le_zero.mp hn)
  | succ steps ih =>
    obtain ⟨hpoll, hfollow, hdone⟩ | ⟨outcome, link, hr, hpoll, hnext, hless⟩ := ha.step
    · rw [(settleWithin_of_rest hpoll hfollow (steps + 1)).1, taken_of_rest hpoll hfollow,
        List.append_nil]
      exact ⟨ha, fun _ => hdone⟩
    · rw [(settleWithin_of_poll hr hpoll steps).1, taken_of_poll hr hpoll, ← List.append_assoc]
      obtain ⟨hlast, hdone⟩ := ih hnext
      exact ⟨hlast, fun hn => hdone (by omega)⟩

/-- In the end everything has been read, or the session has failed. -/
theorem attend {traffic : List Traffic} (ha : Attends retries start messages got s)
    (hf : ∀ m ∈ Traffic.transfers traffic, Fits m) :
    (∃ last, (Session.attend traffic s).2.link.Announcing retries last [] ∧
      start.fetchAll retries.toNat (messages ++ Traffic.transfers traffic) =
        (got ++ (Session.attend traffic s).1, last)) ∨
    (Session.attend traffic s).2.phase = .faulted ∧
      got ++ (Session.attend traffic s).1 <+:
        (start.fetchAll retries.toNat (messages ++ Traffic.transfers traffic)).1 := by
  induction traffic generalizing messages got s with
  | nil =>
    obtain ⟨hlast, hdone⟩ := ha.reads (Bench.horizon s.link)
    have hall : s.link.device.inbound.length ≤ Bench.horizon s.link :=
      Nat.le_trans (Bench.length_le_queueReads _) (by rw [Bench.horizon]; omega)
    rw [Traffic.transfers, List.append_nil]
    cases hlast with
    | @reading backlog waiting live reading announcing all =>
      have hread := hdone hall reading
      rw [announcing.headers, List.map_eq_nil_iff] at hread
      subst hread
      rw [Backlog.fetchAll, List.append_nil] at all
      exact .inl ⟨backlog, announcing, all⟩
    | stopped phase reading idle all => exact .inr ⟨phase, all⟩
  | cons event rest ih =>
    cases event with
    | arrives m age =>
      have hfits : Fits m := hf m List.mem_cons_self
      have hnext := ih (ha.arrives hfits age) fun m hm => hf m (List.mem_cons_of_mem _ hm)
      rwa [List.append_assoc, List.singleton_append] at hnext
    | passes d => exact ih (ha.passes d) hf
    | reads steps =>
      have hnext := ih (ha.reads steps).1 hf
      rwa [List.append_assoc] at hnext

end Attends

/-- A session that is ready, in the middle of a call or not, and a device that announces its
messages. Some may wait, like the answer to a request just written; the next reads of bodies may
bring nothing, and bytes of bodies that were given up before may come first. As many long messages
are given up as the misses allow for. All others are delivered in their own lengths: the short ones
as they are, the long ones cut out one after another of what was given up and what came later. They
come as they were announced just in case all these bytes begin with those that are due, as they do
when nothing was given up. A session that fails meanwhile leaves the last packets unread. -/
theorem Met.attend_eq_iff (hs : Met Bench.transport (fun b => b.device.isOpen) s)
    (hp : s.phase = .ready) {start : Backlog} (ha : s.link.Announcing retries start waiting)
    {traffic : List Traffic} (hf : ∀ m ∈ Traffic.transfers traffic, Fits m) :
    let x := attend traffic s
    let messages := waiting ++ Traffic.transfers traffic
    let due := survivors (start.misses / retries.toNat) messages
    ∃ unread last,
      (x.2.phase = .ready → unread = [] ∧ x.2.link.Announcing retries last []) ∧
      (x.1 ++ unread).map List.length = due.map List.length ∧
      shorts (x.1 ++ unread) = shorts due ∧
      (longs (x.1 ++ unread)).flatten ++ last.bytes = start.bytes ++ (longs messages).flatten ∧
      (x.1 ++ unread = due ↔ (longs due).flatten <+: start.bytes ++ (longs messages).flatten) := by
  intro x messages due
  have hc := hs.inForce Bench.transport_tracks hp
  have hstart : Attends retries start waiting [] s := .reading hc.live hc.reading ha rfl
  obtain ⟨hlengths, hshorts⟩ := Backlog.fetchAll_shape ha.patient start messages
  have hbytes := Backlog.fetchAll_bytes retries.toNat start messages
  have heq := Backlog.fetchAll_eq_iff ha.patient start messages
  obtain ⟨last, hlast, hall⟩ | ⟨hphase, unread, hall⟩ := hstart.attend hf
  · rw [List.nil_append] at hall
    rw [show start.fetchAll retries.toNat messages = _ from hall] at hlengths hshorts hbytes heq
    refine ⟨[], last, fun _ => ⟨rfl, hlast⟩, ?_⟩
    rw [List.append_nil]
    exact ⟨hlengths, hshorts, hbytes, heq⟩
  · rw [List.nil_append] at hall
    rw [← show x.1 ++ unread = _ from hall] at hlengths hshorts hbytes heq
    refine ⟨unread, _, fun hready => ?_, hlengths, hshorts, hbytes, heq⟩
    cases hphase.symm.trans hready

/-- A session that has connected to a device that announces its messages and echoes requests. The
next two reads of a body bring nothing, as many as the retries. -/
def unlucky : Session Bench :=
  let device : Device :=
    { Device.new .standard with announced := some 2, responder := some .echo }
  (Client.run Bench.transport
    { session := Session.new .standard .standard .lasting { device := device } }
    [.connect, .device fun b => { b with device := { b.device with misses := 2 } }]).session

/-- One message is given up, and the last one comes with the bytes of the one before it. -/
theorem Met.attend_eq_iff_of_loss :
    let message (byte : UInt8) : Bytes := List.replicate 16 byte
    let x := attend [.arrives (message 1) ⟨0⟩, .reads 1, .arrives [2] ⟨0⟩,
      .arrives (message 3) ⟨0⟩, .arrives (message 4) ⟨0⟩] unlucky
    unlucky.phase = .ready ∧ x.2.phase = .ready ∧
      survivors 1 [message 1, [2], message 3, message 4] = [[2], message 3, message 4] ∧
      x.1 = [[2], message 1, message 3] ∧ ∃ last,
        x.2.link.Announcing 2 last [] ∧ last.bytes = message 4 := by
  intro message x
  have hbench : unlucky.link.device.announced = some 2 ∧ unlucky.link.device.readFault = none ∧
      unlucky.link.device.isGone = false ∧ unlucky.link.device.isOpen = true ∧
      unlucky.link.device.inbound = [] ∧ unlucky.link.device.bodies = [] ∧
      unlucky.link.device.misses = 2 ∧ unlucky.link.agenda = [] ∧
      unlucky.link.silent = false ∧ unlucky.phase = .ready := by decide +kernel
  obtain ⟨hannounced, hhealthy, hpresent, hopened, hinbound, hbodies, hmisses, hidle, hsteady,
    hready⟩ := hbench
  have hmet : Met Bench.transport (fun b => b.device.isOpen) unlucky :=
    ⟨_, _, _, _, _, rfl, by simp [Call.Sole], .refl⟩
  have ha : unlucky.link.Announcing 2 ⟨2, []⟩ [] :=
    ⟨⟨hhealthy, hpresent, hopened, hidle, hsteady⟩, hannounced, by decide, hmisses, hinbound,
      by rw [hbodies]; rfl, by rw [hbodies]; exact List.not_mem_nil, List.forall_mem_nil _⟩
  have hf : ∀ m ∈ Traffic.transfers [.arrives (message 1) ⟨0⟩, .reads 1, .arrives [2] ⟨0⟩,
      .arrives (message 3) ⟨0⟩, .arrives (message 4) ⟨0⟩], Fits m := by decide
  have hx : x.2.phase = .ready ∧ x.1 = [[2], message 1, message 3] := by decide +kernel
  obtain ⟨unread, last, hdone, -, -, hbytes, -⟩ := Met.attend_eq_iff hmet hready ha hf
  obtain ⟨rfl, hlast⟩ := hdone hx.1
  refine ⟨hready, hx.1, by decide, hx.2, last, hlast, ?_⟩
  rw [show attend _ _ = x from rfl, hx.2] at hbytes
  exact List.append_cancel_left (hbytes.trans rfl)

/-- The body of an answer is given up. The next request is not answered, although the device answers
it and no further read comes back empty: the body of its answer is left behind. -/
theorem unlucky_disturbed :
    let first := unlucky.requestDefault Bench.transport (List.replicate 8 0x5A)
    let second := first.2.requestDefault Bench.transport (List.replicate 8 0x41)
    first.1 = .error (.requestTimeout 1 unlucky.settings.requestTimeout) ∧
      first.2.phase = .ready ∧ first.2.link.device.misses = 0 ∧
      second.2.phase = .ready ∧ second.2.link.device.inbound = [] ∧
      second.2.link.device.bodies.map Except.ok =
        [Codec.standard.encode ⟨2, Opcode.request, List.replicate 8 0x41⟩] ∧
      second.1 ≠ .ok (List.replicate 8 0x41) := by
  decide +kernel

end Session
end FrameLink
