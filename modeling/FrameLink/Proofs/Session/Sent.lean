import FrameLink.Proofs.Session.Anomalies
import FrameLink.Proofs.Session.Client

namespace FrameLink

variable {σ : Type} {T : Transport σ} {c : Codec} {holds : List Frame → σ → Prop}

/-- A link keeps a record of the frames that are written to it, as encoded by `c`; it takes writing
to change it. -/
structure Transport.Records (T : Transport σ) (c : Codec) (holds : List Frame → σ → Prop) : Prop where
  attach : ∀ {frames link link' selector outcome}, T.attach selector link = (outcome, link') →
    holds frames link → holds frames link'
  written : ∀ {frames link link' f bytes d n}, c.encode f = .ok bytes →
    T.write bytes d link = (.ok n, link') → holds frames link → holds (frames ++ [f]) link'
  failed : ∀ {frames link link' bytes d e}, T.write bytes d link = (.error e, link') →
    holds frames link → holds frames link'
  drift : ∀ {frames link link'}, T.Drift link link' → holds frames link → holds frames link'
  release : ∀ {frames link}, holds frames link → holds frames (T.release link)

def registered : List Entry → Nat
  | [] => 0
  | .connected :: _ => 0
  | .issued _ :: earlier => registered earlier + 1
  | .routed _ :: earlier => registered earlier
  | .lapsed _ :: earlier => registered earlier

structure SameIds (j j' : List Entry) : Prop where
  registered : registered j' = registered j
  issued : ∀ h earlier, .issued h :: earlier <:+ j' ↔ .issued h :: earlier <:+ j

namespace SameIds

variable {j j' j'' : List Entry}

theorem refl (j : List Entry) : SameIds j j := ⟨rfl, fun _ _ => Iff.rfl⟩

theorem trans (h : SameIds j j') (h' : SameIds j' j'') : SameIds j j'' where
  registered := h'.registered.trans h.registered
  issued := fun x earlier => (h'.issued x earlier).trans (h.issued x earlier)

theorem mem_iff (h : SameIds j j') {x : Handle} : .issued x ∈ j' ↔ .issued x ∈ j := by
  have hmem (l : List Entry) : .issued x ∈ l ↔ ∃ earlier, .issued x :: earlier <:+ l := by
    constructor
    · intro hm
      obtain ⟨later, earlier, rfl⟩ := List.append_of_mem hm
      exact ⟨earlier, List.suffix_append _ _⟩
    · rintro ⟨earlier, hsuffix⟩
      exact hsuffix.subset List.mem_cons_self
  simp only [hmem, h.issued]

theorem routed (j : List Entry) (f : Frame) : SameIds j (.routed f :: j) where
  registered := rfl
  issued := fun _ _ => List.suffix_cons_iff.trans (or_iff_right nofun)

theorem lapsed (j : List Entry) (ticket : Ticket) : SameIds j (.lapsed ticket :: j) where
  registered := rfl
  issued := fun _ _ => List.suffix_cons_iff.trans (or_iff_right nofun)

end SameIds

namespace PendingTable

theorem route_keeps (t : PendingTable) (now : Nat) (seq : SequenceId) :
    (t.route now seq).2.space = t.space ∧ (t.route now seq).2.next = t.next := by
  cases hf : t.find? seq with
  | some p =>
    rw [route_of_pending now hf]
    exact ⟨rfl, rfl⟩
  | none =>
    obtain ⟨r, hr, -⟩ := route_of_free now hf
    rw [hr]
    exact ⟨rfl, rfl⟩

end PendingTable

namespace Session

variable {s s' s'' : Session σ} {h : Handle} {sent : List (Handle × Frame)} {space : Nat}

structure Spares (holds : List Frame → σ → Prop) (s s' : Session σ) : Prop where
  settings : s'.settings = s.settings
  link : ∀ {frames}, holds frames s.link → holds frames s'.link
  framesSent : s'.stats.framesSent = s.stats.framesSent
  space : s'.table.space = s.table.space
  next : s'.table.next = s.table.next
  journal : SameIds s.journal s'.journal

namespace Spares

theorem refl (s : Session σ) : Spares holds s s := ⟨rfl, id, rfl, rfl, rfl, .refl _⟩

theorem trans (h : Spares holds s s') (h' : Spares holds s' s'') : Spares holds s s'' where
  settings := h'.settings.trans h.settings
  link := fun hl => h'.link (h.link hl)
  framesSent := h'.framesSent.trans h.framesSent
  space := h'.space.trans h.space
  next := h'.next.trans h.next
  journal := h.journal.trans h'.journal

theorem linked {link : σ} (hl : ∀ {frames}, holds frames s.link → holds frames link) :
    Spares holds s { s with link := link } :=
  ⟨rfl, hl, rfl, rfl, rfl, .refl _⟩

theorem route (s : Session σ) (f : Frame) : Spares holds s (s.route f) := by
  have he : (s.tick.note (.routed f)).table.route (s.tick.note (.routed f)).clock f.seq =
      s.table.route s.tick.clock f.seq := rfl
  obtain ⟨hspace, hnext⟩ := s.table.route_keeps s.tick.clock f.seq
  rw [Session.route, he]
  generalize s.table.route s.tick.clock f.seq = routed at hspace hnext
  obtain ⟨_ | _ | _, table⟩ := routed
  · exact ⟨rfl, id, rfl, hspace, hnext, .routed s.journal f⟩
  · exact ⟨rfl, id, rfl, hspace, hnext, .routed s.journal f⟩
  · dsimp only
    rw [publish]
    split <;> exact ⟨rfl, id, rfl, hspace, hnext, .routed s.journal f⟩

theorem fault (hT : T.Records c holds) (s : Session σ) (cause : SessionError) :
    Spares holds s (s.fault T cause) := by
  rw [Session.fault]
  split
  · rw [failAll_eq]
    exact ⟨rfl, hT.release, rfl, rfl, rfl, .refl _⟩
  · exact ⟨rfl, id, rfl, rfl, rfl, .refl _⟩

theorem readings (hT : T.Records c holds) (hr : Readings T s s') : Spares holds s s' := by
  induction hr with
  | refl => exact .refl s
  | tail _ hr ih =>
    refine ih.trans ?_
    cases hr with
    | taken ht =>
      cases ht with
      | quiet receiver clock hd hsame =>
        exact ⟨rfl, hT.drift hd, hsame.framesSent, rfl, rfl, .refl _⟩
      | routed f => exact route _ f
    | faulted cause => exact fault hT _ cause

theorem finish (s : Session σ) (seq : SequenceId) (outcome : Completion) :
    Spares holds s (s.finish seq outcome).2 := by
  cases hf : s.table.find? seq with
  | none =>
    rw [finish_of_free hf]
    exact ⟨rfl, id, rfl, rfl, rfl, .refl _⟩
  | some p =>
    have ht : s.tick.table.find? seq = some p := hf
    simp only [Session.finish, PendingTable.finish_of_pending ht]
    cases outcome with
    | cancelled => exact ⟨rfl, id, rfl, rfl, rfl, .refl _⟩
    | completed | timedOut => exact ⟨rfl, id, rfl, rfl, rfl, .lapsed _ p.ticket⟩

theorem giveUp (s : Session σ) (h : Handle) (d : Duration) : Spares holds s (s.giveUp h d).2 := by
  obtain ⟨n, hn⟩ := giveUp_eq s h d
  rw [hn]
  exact (finish s h.seq .timedOut).trans ⟨rfl, id, rfl, rfl, rfl, .refl _⟩

theorem await (hT : T.Records c holds) (s : Session σ) (h : Handle) (d : Duration) :
    Spares holds s (s.await T h d).2 :=
  await_keeps T s h d (readings hT (readings_linger T s h d)) fun hl => hl.trans (giveUp _ h d)

theorem close (hT : T.Records c holds) (s : Session σ) : Spares holds s (s.close T) := by
  rw [Session.close]
  split
  · exact .refl s
  · rw [failAll_eq]
    exact ⟨rfl, hT.release, rfl, rfl, rfl, .refl _⟩

theorem abandon (hT : T.Records c holds) (s : Session σ) : Spares holds s (s.abandon T) := by
  rw [Session.abandon, failAll_eq]
  exact ⟨rfl, hT.release, rfl, rfl, rfl, .refl _⟩

theorem nextEvent (s : Session σ) (id : StreamId) : Spares holds s (s.nextEvent id).2 := by
  rw [Session.nextEvent]
  split <;> exact ⟨rfl, fun h => h, rfl, rfl, rfl, .refl _⟩

end Spares

/-- The record of the link is the list of the frames that were sent, each under a handle of its own,
and each id is a number: how many ids the connection had given out before. -/
structure OnRecord (c : Codec) (holds : List Frame → σ → Prop) (space : Nat)
    (sent : List (Handle × Frame)) (s : Session σ) : Prop where
  codec : s.settings.codec = c
  link : holds (sent.map Prod.snd) s.link
  circle : s.table.space = space
  next : s.table.next = registered s.journal % space
  ids : ∀ h earlier, .issued h :: earlier <:+ s.journal → h.seq.toNat = registered earlier % space
  issued : ∀ x ∈ sent, x.2.seq = x.1.seq ∧ .issued x.1 ∈ s.journal

structure HasSent (c : Codec) (holds : List Frame → σ → Prop) (space : Nat)
    (sent : List (Handle × Frame)) (s : Session σ) : Prop extends OnRecord c holds space sent s where
  framesSent : s.stats.framesSent = sent.length

/-- What is sent by a transmission that turns out so. -/
def posted (opcode : UInt8) (payload : Bytes) : Except SessionError Handle → List (Handle × Frame)
  | .ok h => [(h, ⟨h.seq, opcode, payload⟩)]
  | .error _ => []

namespace OnRecord

theorem spares (hr : OnRecord c holds space sent s) (h : Spares holds s s') :
    OnRecord c holds space sent s' where
  codec := h.settings ▸ hr.codec
  link := h.link hr.link
  circle := h.space.trans hr.circle
  next := by rw [h.next, hr.next, h.journal.registered]
  ids := fun x earlier hsuffix => hr.ids x earlier ((h.journal.issued x earlier).mp hsuffix)
  issued := by
    intro x hx
    obtain ⟨hseq, hm⟩ := hr.issued x hx
    exact ⟨hseq, h.journal.mem_iff.mpr hm⟩

theorem attachLink (hr : OnRecord c holds space sent s) {link : σ}
    (hl : ∀ {frames}, holds frames s.link → holds frames link) :
    OnRecord c holds space sent (s.attachLink link) where
  codec := hr.codec
  link := hl hr.link
  circle := hr.circle
  next := (Nat.zero_mod _).symm
  ids := fun x earlier hsuffix =>
    hr.ids x earlier ((List.suffix_cons_iff.mp hsuffix).resolve_left nofun)
  issued := fun x hx => ⟨(hr.issued x hx).1, List.mem_cons_of_mem _ (hr.issued x hx).2⟩

/-- The next id is the number of those before it. -/
theorem enroll (hr : OnRecord c holds space sent s) (hpos : 0 < space) (hle : space ≤ 65536)
    (he : s.enroll = .ok (h, s')) :
    OnRecord c holds space sent s' ∧ .issued h ∈ s'.journal := by
  obtain ⟨-, -, rfl, rfl⟩ := enroll_eq_ok_iff.mp he
  have hlt : s.table.next < 65536 := by
    rw [hr.next]
    exact Nat.lt_of_lt_of_le (Nat.mod_lt _ hpos) hle
  refine ⟨⟨hr.codec, hr.link, hr.circle, ?_, ?_, ?_⟩, List.mem_cons_self⟩
  · change (s.table.next + 1) % s.table.space = (registered s.journal + 1) % space
    rw [hr.circle, hr.next, Nat.mod_add_mod]
  · intro x earlier hsuffix
    obtain heq | hsuffix := List.suffix_cons_iff.mp hsuffix
    · cases heq
      rw [← hr.next]
      exact Nat.mod_eq_of_lt hlt
    · exact hr.ids x earlier hsuffix
  · intro x hx
    obtain ⟨hseq, hm⟩ := hr.issued x hx
    exact ⟨hseq, List.mem_cons_of_mem _ hm⟩

theorem written (hr : OnRecord c holds space sent s) (hT : T.Records c holds)
    (hi : .issued h ∈ s.journal) {opcode : UInt8} {payload bytes : Bytes} {d : Duration} {n : Nat}
    {link : σ} (hencode : c.encode ⟨h.seq, opcode, payload⟩ = .ok bytes)
    (hw : T.write bytes d s.link = (.ok n, link)) :
    OnRecord c holds space (sent ++ [(h, ⟨h.seq, opcode, payload⟩)]) { s with link := link } where
  codec := hr.codec
  link := by
    rw [List.map_append]
    exact hT.written hencode hw hr.link
  circle := hr.circle
  next := hr.next
  ids := hr.ids
  issued := by
    intro x hx
    cases List.mem_append.mp hx with
    | inl hx => exact hr.issued x hx
    | inr hx =>
      rw [List.mem_singleton.mp hx]
      exact ⟨rfl, hi⟩

end OnRecord

namespace HasSent

theorem new (holds : List Frame → σ → Prop) {settings : SessionSettings} {link : σ}
    (hl : holds [] link) (selector : Selector) (pace : Pace) :
    HasSent settings.codec holds (max 2 (min settings.sequenceSpace 65536)) []
      (Session.new settings selector pace link) where
  codec := rfl
  link := hl
  framesSent := rfl
  circle := rfl
  next := (Nat.zero_mod _).symm
  ids := fun _ _ h => nomatch List.suffix_nil.mp h
  issued := nofun

theorem spares (hs : HasSent c holds space sent s) (h : Spares holds s s') :
    HasSent c holds space sent s' :=
  ⟨hs.toOnRecord.spares h, h.framesSent.trans hs.framesSent⟩

theorem attachLink (hs : HasSent c holds space sent s) {link : σ}
    (hl : ∀ {frames}, holds frames s.link → holds frames link) :
    HasSent c holds space sent (s.attachLink link) :=
  ⟨hs.toOnRecord.attachLink hl, hs.framesSent⟩

theorem enroll (hs : HasSent c holds space sent s) (hpos : 0 < space) (hle : space ≤ 65536)
    (he : s.enroll = .ok (h, s')) :
    HasSent c holds space sent s' ∧ .issued h ∈ s'.journal := by
  obtain ⟨hr, hi⟩ := hs.toOnRecord.enroll hpos hle he
  obtain ⟨-, -, -, rfl⟩ := enroll_eq_ok_iff.mp he
  exact ⟨⟨hr, hs.framesSent⟩, hi⟩

/-- A frame is written, and counted once everything that comes of it has been read. -/
theorem written (hs : HasSent c holds space sent s) (hT : T.Records c holds)
    (hi : .issued h ∈ s.journal) {opcode : UInt8} {payload bytes : Bytes} {d : Duration} {n : Nat}
    {link : σ} (hencode : c.encode ⟨h.seq, opcode, payload⟩ = .ok bytes)
    (hw : T.write bytes d s.link = (.ok n, link)) :
    HasSent c holds space (sent ++ [(h, ⟨h.seq, opcode, payload⟩)])
      (({ s with link := link }.settle T).updateStats fun st =>
        { st with framesSent := st.framesSent + 1 }) := by
  have hread : Spares holds { s with link := link } ({ s with link := link }.settle T) :=
    .readings hT (readings_settle T _)
  have hr := (hs.toOnRecord.written hT hi hencode hw).spares hread
  refine ⟨⟨hr.codec, hr.link, hr.circle, hr.next, hr.ids, hr.issued⟩, ?_⟩
  rw [List.length_append, ← hs.framesSent]
  exact congrArg (· + 1) hread.framesSent

theorem transmit (hs : HasSent c holds space sent s) (hT : T.Records c holds) (hpos : 0 < space)
    (hle : space ≤ 65536) (opcode : UInt8) (payload : Bytes) :
    HasSent c holds space (sent ++ posted opcode payload (s.transmit T opcode payload).1)
      (s.transmit T opcode payload).2 := by
  have ht := transmitted T s opcode payload
  generalize s.transmit T opcode payload = outcome at ht
  cases ht with
  | refused =>
    rw [posted, List.append_nil]
    exact hs
  | tooLong he _ =>
    rw [posted, List.append_nil]
    exact (hs.enroll hpos hle he).1.spares (.finish _ _ _)
  | detached he _ =>
    rw [posted, List.append_nil]
    exact (hs.enroll hpos hle he).1.spares (.finish _ _ _)
  | broken he _ _ hw _ =>
    rw [posted, List.append_nil]
    have hlinked := (hs.enroll hpos hle he).1.spares (.linked (hT.failed hw))
    exact (hlinked.spares (.fault hT _ _)).spares (.finish _ _ _)
  | failed he _ _ hw _ =>
    rw [posted, List.append_nil]
    have hlinked := (hs.enroll hpos hle he).1.spares (.linked (hT.failed hw))
    exact hlinked.spares (.finish _ _ _)
  | sent he hencode _ hw =>
    obtain ⟨hs₁, hi⟩ := hs.enroll hpos hle he
    exact hs₁.written hT hi (hs₁.codec ▸ hencode) hw

theorem send (hs : HasSent c holds space sent s) (hT : T.Records c holds) (hpos : 0 < space)
    (hle : space ≤ 65536) (opcode : UInt8) (payload : Bytes) :
    HasSent c holds space (sent ++ posted opcode payload (s.send T opcode payload).1)
      (s.send T opcode payload).2 := by
  rw [Session.send]
  split
  · exact hs.transmit hT hpos hle opcode payload
  · exact hs.transmit hT hpos hle opcode payload
  · rw [posted, List.append_nil]
    exact hs

end HasSent

def offered (T : Transport σ) (s : Session σ) : List (Handle × Frame) :=
  if s.phase.isLive then []
  else match T.attach s.selector s.link with
    | (.error _, _) => []
    | (.ok (), link) =>
      posted Opcode.handshake Version.current.toBytes
        (((s.setPhase .handshaking).attachLink link).transmit T Opcode.handshake
          Version.current.toBytes).1

namespace HasSent

theorem handshake (hs : HasSent c holds space sent s) (hT : T.Records c holds) (hpos : 0 < space)
    (hle : space ≤ 65536) :
    HasSent c holds space
      (sent ++ posted Opcode.handshake Version.current.toBytes
        (s.transmit T Opcode.handshake Version.current.toBytes).1) (s.handshake T).2 := by
  have ht := hs.transmit hT hpos hle Opcode.handshake Version.current.toBytes
  rw [Session.handshake]
  generalize s.transmit T Opcode.handshake Version.current.toBytes = outcome at ht ⊢
  obtain ⟨_ | h, s₁⟩ := outcome
  · exact ht
  · have hw := ht.spares (.await hT s₁ h s.settings.handshakeTimeout)
    dsimp only
    split <;> next hawait => rwa [hawait] at hw

theorem connect (hs : HasSent c holds space sent s) (hT : T.Records c holds) (hpos : 0 < space)
    (hle : space ≤ 65536) :
    HasSent c holds space (sent ++ s.offered T) (s.connect T).2 := by
  have hphase (s : Session σ) (phase : Phase) : Spares holds s (s.setPhase phase) :=
    ⟨rfl, id, rfl, rfl, rfl, .refl _⟩
  rw [Session.connect, offered]
  split
  · rw [List.append_nil]
    exact hs
  · have hbegin := hs.spares (hphase s .handshaking)
    have hselect : T.attach (s.setPhase .handshaking).selector (s.setPhase .handshaking).link =
        T.attach s.selector s.link := rfl
    dsimp only
    rw [hselect]
    obtain ⟨outcome, link, hopen⟩ : ∃ outcome link, T.attach s.selector s.link = (outcome, link) :=
      ⟨_, _, rfl⟩
    rw [hopen]
    cases outcome with
    | error e =>
      rw [List.append_nil]
      exact (hbegin.spares (.linked (hT.attach hopen))).spares (hphase _ .disconnected)
    | ok =>
      have hshaken := (hbegin.attachLink (hT.attach hopen)).handshake hT hpos hle
      dsimp only
      split
      · next he =>
        rw [he] at hshaken
        split
        · exact hshaken.spares (hphase _ .ready)
        · exact hshaken.spares (.fault hT _ _)
      · next he =>
        rw [he] at hshaken
        exact hshaken.spares (.fault hT _ _)

end HasSent
end Session

namespace Client

open Session

variable {client : Client σ} {calls : List (Call σ)}

def sends (T : Transport σ) (s : Session σ) : Call σ → List (Handle × Frame)
  | .connect => s.offered T
  | .send opcode payload => posted opcode payload (s.send T opcode payload).1
  | _ => []

/-- The frames that are sent in a run: those whose writes succeeded, in the order of the writes. -/
def sent (T : Transport σ) (client : Client σ) : List (Call σ) → List (Handle × Frame)
  | [] => []
  | call :: calls => sends T client.session call ++ sent T (client.perform T call) calls

theorem spares_does {s s' : Session σ} {call : Call σ} (hT : T.Records c holds)
    (hact : ∀ act, call = .device act → ∀ frames link, holds frames link → holds frames (act link))
    (hc : call ≠ .connect) (hsend : ∀ opcode payload, call ≠ .send opcode payload)
    (hd : Does T s call s') : Spares holds s s' := by
  cases hd with
  | nothing => exact .refl s
  | connect => exact absurd rfl hc
  | send opcode payload => exact absurd rfl (hsend opcode payload)
  | close => exact .close hT s
  | abandon => exact .abandon hT s
  | wait h d => exact .await hT s h d
  | expire h d => exact .readings hT (readings_linger T s h d)
  | giveUp h d => exact .giveUp s h d
  | cancelHandle h => exact .finish s h.seq .cancelled
  | dropHandle h => exact .finish s h.seq .cancelled
  | cancel seq => exact .finish s seq .cancelled
  | subscribe => exact ⟨rfl, id, rfl, rfl, rfl, .refl _⟩
  | nextEvent id => exact .nextEvent s id
  | unsubscribe => exact ⟨rfl, fun h => h, rfl, rfl, rfl, .refl _⟩
  | device act => exact .linked (hact act rfl _ _)
  | read steps => exact .readings hT (readings_settleWithin T steps s)
  | idle d => exact .readings hT (readings_idle T s d)

variable {sent : List (Handle × Frame)} {space : Nat}

theorem hasSent_perform (hT : T.Records c holds) (hpos : 0 < space) (hle : space ≤ 65536)
    (call : Call σ)
    (hact : ∀ act, call = .device act → ∀ frames link, holds frames link → holds frames (act link))
    (hs : HasSent c holds space sent client.session) :
    HasSent c holds space (sent ++ sends T client.session call) (client.perform T call).session := by
  have hd := does_perform T client call
  cases call with
  | connect => exact hs.connect hT hpos hle
  | send opcode payload =>
    have hsend := hs.send hT hpos hle opcode payload
    rw [sends, perform]
    split <;> next he => rwa [he] at hsend ⊢
  | close | abandon | wait | expire | giveUp | cancelHandle | dropHandle | cancel | subscribe
  | nextEvent | unsubscribe | device | read | idle =>
    change HasSent c holds space (sent ++ []) _
    rw [List.append_nil]
    exact hs.spares (spares_does hT hact (by simp) (by simp) hd)

theorem hasSent_run (hT : T.Records c holds) (hpos : 0 < space) (hle : space ≤ 65536)
    (hact : ∀ act, .device act ∈ calls → ∀ frames link, holds frames link → holds frames (act link))
    (hs : HasSent c holds space sent client.session) :
    HasSent c holds space (sent ++ client.sent T calls) (client.run T calls).session := by
  induction calls generalizing client sent with
  | nil => rwa [Client.sent, List.append_nil]
  | cons call calls ih =>
    have hcall := hasSent_perform hT hpos hle call
      (fun act he => hact act (he ▸ List.mem_cons_self)) hs
    have hrest := ih (fun act hm => hact act (List.mem_cons_of_mem _ hm)) hcall
    rwa [List.append_assoc] at hrest

end Client
end FrameLink
