import FrameLink.Proofs.Session.Anomalies
import FrameLink.Proofs.Session.Client
import FrameLink.Proofs.Session.Connection
import FrameLink.Proofs.Session.History

namespace FrameLink

namespace Session

variable {σ : Type} {T : Transport σ} {s s' s'' : Session σ} {hist now : List Happening}
  {h : Handle} {f : Frame} {entry : Entry}

def Unmatched (s : Session σ) (f : Frame) : Prop :=
  (s.table.route s.tick.clock f.seq).1 = .unmatched

instance (s : Session σ) (f : Frame) : Decidable (s.Unmatched f) :=
  inferInstanceAs (Decidable (_ = _))

/-- What becomes of the streams when a frame is routed. -/
def handsOut (s : Session σ) (f : Frame) : List Happening :=
  if s.Unmatched f ∧ s.publishing = true then [.event f] else []

def readsOut (s : Session σ) (id : StreamId) : List Happening :=
  match s.streams[id]? with
  | none => []
  | some stream => [.read id stream.next.1 stream.next.2.1]

def parts (s : Session σ) (id : StreamId) : List Happening :=
  if id < s.streams.length then [.left id] else []

structure SameStreams (s s' : Session σ) : Prop where
  settings : s'.settings = s.settings
  streams : s'.streams = s.streams
  publishing : s'.publishing = s.publishing
  delivered : s'.stats.eventsDelivered = s.stats.eventsDelivered
  dropped : s'.stats.eventsDropped = s.stats.eventsDropped
  live : s.phase.isLive = true → s'.phase.isLive = true

theorem SameStreams.trans (h : SameStreams s s') (h' : SameStreams s' s'') : SameStreams s s'' where
  settings := h'.settings.trans h.settings
  streams := h'.streams.trans h.streams
  publishing := h'.publishing.trans h.publishing
  delivered := h'.delivered.trans h.delivered
  dropped := h'.dropped.trans h.dropped
  live := fun hl => h'.live (h.live hl)

theorem SameStreams.publish (hs : SameStreams s s') (f : Frame) :
    SameStreams (s.publish f) (s'.publish f) := by
  have hp' : s'.publishing = s.publishing := hs.publishing
  rw [Session.publish, Session.publish]
  by_cases hp : s.publishing = true
  · rw [if_pos hp, if_pos (hp'.trans hp)]
    refine ⟨hs.settings, ?_, hp', hs.delivered, hs.dropped, hs.live⟩
    dsimp only
    rw [hs.streams, hs.settings]
  · rw [if_neg hp, if_neg (hp' ▸ hp)]
    exact hs

theorem route_of_unmatched (hu : s.Unmatched f) : SameStreams (s.publish f) (s.route f) := by
  rw [Unmatched] at hu
  have hr : (s.tick.note (.routed f)).table.route (s.tick.note (.routed f)).clock f.seq =
      (.unmatched, (s.table.route s.tick.clock f.seq).2) := by rw [← hu]; rfl
  rw [route, hr]
  have hs : SameStreams s { s.tick.note (.routed f) with
      table := (s.table.route s.tick.clock f.seq).2 } := ⟨rfl, rfl, rfl, rfl, rfl, id⟩
  exact hs.publish f

theorem route_of_matched (hm : ¬ s.Unmatched f) : SameStreams s (s.route f) := by
  rw [Unmatched] at hm
  rw [route]
  split
  · exact ⟨rfl, rfl, rfl, rfl, rfl, id⟩
  · exact ⟨rfl, rfl, rfl, rfl, rfl, id⟩
  · next he => exact absurd (congrArg Prod.fst he) hm

inductive Aside (T : Transport σ) : Session σ → Session σ → Prop
  | quiet (s : Session σ) {link : σ} {stats : Stats} (receiver : Receiver) (clock : Nat) :
    T.Drift s.link link → s.stats.SameCalls stats →
      Aside T s { s with link := link, stats := stats, receiver := receiver, clock := clock }
  | linked (s : Session σ) (link : σ) : Aside T s { s with link := link }
  | enrolled {s s' : Session σ} {h : Handle} : s.enroll = .ok (h, s') → Aside T s s'
  | finished (s : Session σ) (seq : SequenceId) (outcome : Completion) :
    Aside T s (s.finish seq outcome).2
  | timedOut (s : Session σ) (n : Nat) :
    Aside T s (s.updateStats fun st => { st with requestTimeouts := n })
  | sent (s : Session σ) :
    Aside T s (s.updateStats fun st => { st with framesSent := st.framesSent + 1 })
  | reported {s : Session σ} (cause : SessionError) : s.phase.isLive = false →
    Aside T s (s.fault T cause)
  | refused {s : Session σ} (link : σ) : s.phase.isLive = false →
    Aside T s ({ s.setPhase .handshaking with link := link }.setPhase .disconnected)
  | greeted (s : Session σ) : Aside T s (s.setPhase .ready)

inductive Ending (T : Transport σ) : Session σ → Session σ → Prop
  | faulted {s : Session σ} (cause : SessionError) : s.phase.isLive = true →
    Ending T s (s.fault T cause)
  | closed {s : Session σ} : s.phase ≠ .disconnected → Ending T s (s.close T)
  | abandoned (s : Session σ) : Ending T s (s.abandon T)

/-- One step of a session, and what it means for the streams. -/
inductive Turn (T : Transport σ) : Session σ → List Happening → Session σ → Prop
  | aside {s s' : Session σ} : Aside T s s' → Turn T s [] s'
  | routed (s : Session σ) (f : Frame) : Turn T s (s.handsOut f) (s.route f)
  | ceased {s s' : Session σ} : Ending T s s' → Turn T s [.ceased] s'
  | began {s : Session σ} (link : σ) : s.phase.isLive = false →
    Turn T s [.began] ((s.setPhase .handshaking).attachLink link)
  | opened (s : Session σ) : Turn T s [.opened s.streams.length s.publishing] s.subscribe.2
  | read (s : Session σ) (id : StreamId) : Turn T s (s.readsOut id) (s.nextEvent id).2
  | left (s : Session σ) (id : StreamId) : Turn T s (s.parts id) (s.unsubscribe id)

/-- The session comes from another one by a history. -/
inductive Turns (T : Transport σ) : Session σ → List Happening → Session σ → Prop
  | refl (s : Session σ) : Turns T s [] s
  | tail {s s' s'' : Session σ} {hist now : List Happening} :
    Turns T s hist s' → Turn T s' now s'' → Turns T s (hist ++ now) s''

theorem Turns.trans (h : Turns T s hist s') (h' : Turns T s' now s'') : Turns T s (hist ++ now) s'' := by
  induction h' with
  | refl => rwa [List.append_nil]
  | tail _ ht ih =>
    rw [← List.append_assoc]
    exact ih.tail ht

theorem sameStreams_finish (s : Session σ) (seq : SequenceId) (outcome : Completion) :
    SameStreams s (s.finish seq outcome).2 := by
  obtain ⟨_, _, _, _, h⟩ := finish_eq s seq outcome
  rw [h]
  exact ⟨rfl, rfl, rfl, rfl, rfl, id⟩

theorem Aside.sameStreams (h : Aside T s s') : SameStreams s s' := by
  cases h with
  | quiet receiver clock _ hsame =>
    exact ⟨rfl, rfl, rfl, hsame.eventsDelivered, hsame.eventsDropped, id⟩
  | enrolled he =>
    obtain ⟨-, -, -, rfl⟩ := enroll_eq_ok_iff.mp he
    exact ⟨rfl, rfl, rfl, rfl, rfl, id⟩
  | finished seq outcome => exact sameStreams_finish s seq outcome
  | reported cause hdead =>
    rw [fault_of_not_live hdead]
    exact ⟨rfl, rfl, rfl, rfl, rfl, id⟩
  | refused link hdead => exact ⟨rfl, rfl, rfl, rfl, rfl, fun h => nomatch hdead.symm.trans h⟩
  | greeted => exact ⟨rfl, rfl, rfl, rfl, rfl, fun _ => rfl⟩
  | linked | timedOut | sent => exact ⟨rfl, rfl, rfl, rfl, rfl, id⟩

theorem Ending.sameStreams (h : Ending T s s') :
    SameStreams { s.endEvents with phase := s'.phase } s' := by
  cases h with
  | faulted cause hl =>
    rw [fault_of_live hl, failAll_eq]
    exact ⟨rfl, rfl, rfl, rfl, rfl, id⟩
  | closed hp =>
    rw [Session.close, if_neg hp, failAll_eq]
    exact ⟨rfl, rfl, rfl, rfl, rfl, id⟩
  | abandoned =>
    rw [Session.abandon, failAll_eq]
    exact ⟨rfl, rfl, rfl, rfl, rfl, id⟩

theorem Turn.settings (h : Turn T s now s') : s'.settings = s.settings := by
  cases h with
  | aside hs => exact hs.sameStreams.settings
  | routed f => exact settings_route s f
  | ceased hs => exact hs.sameStreams.settings
  | began | opened | left => rfl
  | read id =>
    rw [nextEvent]
    split <;> rfl

theorem Turns.settings (h : Turns T s hist s') : s'.settings = s.settings := by
  induction h with
  | refl => rfl
  | tail _ ht ih => exact ht.settings.trans ih

/-- An event is handed out when a frame is routed that answers no request, and not otherwise. -/
theorem Turn.event (h : Turn T s now s') (hm : .event f ∈ now) :
    now = [.event f] ∧ s.Unmatched f ∧ s.publishing = true ∧ s' = s.route f := by
  cases h with
  | aside => cases hm
  | routed g =>
    rw [handsOut] at hm ⊢
    split at hm
    · next hg =>
      cases List.mem_singleton.mp hm
      rw [if_pos hg]
      exact ⟨rfl, hg.1, hg.2, rfl⟩
    · cases hm
  | ceased | began | opened => cases List.mem_singleton.mp hm
  | read id =>
    rw [readsOut] at hm
    split at hm
    · cases hm
    · cases List.mem_singleton.mp hm
  | left id =>
    rw [parts] at hm
    split at hm
    · cases List.mem_singleton.mp hm
    · cases hm

theorem Turns.event {before after : List Happening}
    (h : Turns T s (before ++ .event f :: after) s') :
    ∃ s₁, Turns T s before s₁ ∧ s₁.Unmatched f ∧ s₁.publishing = true ∧
      Turns T (s₁.route f) after s' := by
  generalize hhist : before ++ .event f :: after = hist at h
  induction h generalizing after with
  | refl => cases (List.append_eq_nil_iff.mp hhist).2
  | @tail s₁ s₂ hist now hturns ht ih =>
    obtain ⟨rest, rfl, hrest⟩ | ⟨rest, rfl, rfl⟩ := List.append_eq_append_iff.mp hhist
    · cases rest with
      | nil =>
        obtain ⟨hnow, hu, hp, rfl⟩ := ht.event (hrest ▸ List.mem_cons_self)
        rw [hnow] at hrest
        cases hrest
        rw [List.append_nil] at hturns
        exact ⟨s₁, hturns, hu, hp, .refl _⟩
      | cons x rest =>
        cases hrest
        obtain ⟨s₀, hb, hu, hp, ha⟩ := ih rfl
        exact ⟨s₀, hb, hu, hp, ha.tail ht⟩
    · obtain ⟨hnow, hu, hp, rfl⟩ := ht.event (List.mem_append_right rest List.mem_cons_self)
      obtain ⟨rfl, hafter⟩ | ⟨hrest, hnil⟩ := List.append_eq_singleton_iff.mp hnow
      · cases hafter
        rw [List.append_nil]
        exact ⟨s₁, hturns, hu, hp, .refl _⟩
      · cases hnil

def arrived (s : Session σ) : List Frame := s.journal.reverse.filterMap Entry.frame?

theorem arrived_note (hj : s'.journal = entry :: s.journal) :
    s'.arrived = s.arrived ++ entry.frame?.toList := by
  rw [arrived, hj, List.reverse_cons, List.filterMap_append, arrived]
  cases entry <;> rfl

theorem arrived_finish (s : Session σ) (seq : SequenceId) (outcome : Completion) :
    (s.finish seq outcome).2.arrived = s.arrived := by
  obtain ⟨_, _, _, lapses, h⟩ := finish_eq s seq outcome
  have hnone : (lapses.map Entry.lapsed).reverse.filterMap Entry.frame? = [] := by
    simp [List.filterMap_eq_nil_iff, Entry.frame?]
  rw [h, arrived, List.reverse_append, List.filterMap_append, hnone, List.append_nil, arrived]

theorem journal_fault (T : Transport σ) (s : Session σ) (cause : SessionError) :
    (s.fault T cause).journal = s.journal := by
  rw [fault]
  split
  · rw [failAll_eq]
    rfl
  · rfl

theorem Aside.arrived (h : Aside T s s') : s'.arrived = s.arrived := by
  cases h with
  | enrolled he =>
    obtain ⟨-, -, -, rfl⟩ := enroll_eq_ok_iff.mp he
    exact (arrived_note rfl).trans (List.append_nil _)
  | finished seq outcome => exact arrived_finish s seq outcome
  | reported cause => rw [Session.arrived, journal_fault, Session.arrived]
  | quiet | linked | timedOut | sent | refused | greeted => rfl

theorem Ending.arrived (h : Ending T s s') : s'.arrived = s.arrived := by
  have hj : s'.journal = s.journal := by
    cases h with
    | faulted cause => exact journal_fault T s cause
    | closed hp =>
      rw [Session.close, if_neg hp, failAll_eq]
      rfl
    | abandoned =>
      rw [Session.abandon, failAll_eq]
      rfl
  rw [Session.arrived, hj, Session.arrived]

/-- Only a frame that is routed can be an event. -/
theorem Turn.arrived (h : Turn T s now s') :
    ∃ frames, s'.arrived = s.arrived ++ frames ∧ (now.filterMap Happening.event?).Sublist frames := by
  have hquiet (ha : s'.arrived = s.arrived) (hn : now.filterMap Happening.event? = []) :
      ∃ frames, s'.arrived = s.arrived ++ frames ∧
        (now.filterMap Happening.event?).Sublist frames :=
    ⟨[], ha.trans (List.append_nil _).symm, hn ▸ List.Sublist.refl _⟩
  cases h with
  | aside hs => exact hquiet hs.arrived rfl
  | routed f =>
    refine ⟨[f], arrived_note (journal_route s f), ?_⟩
    rw [handsOut]
    split
    · exact List.Sublist.refl _
    · exact List.nil_sublist _
  | ceased hs => exact hquiet hs.arrived rfl
  | began link => exact hquiet ((arrived_note rfl).trans (List.append_nil _)) rfl
  | opened => exact hquiet rfl rfl
  | read id =>
    refine hquiet ?_ ?_
    · rw [nextEvent]
      split <;> rfl
    · rw [readsOut]
      split <;> rfl
  | left id =>
    refine hquiet rfl ?_
    rw [parts]
    split <;> rfl

theorem Turns.arrived (h : Turns T s hist s') :
    ∃ frames, s'.arrived = s.arrived ++ frames ∧
      (hist.filterMap Happening.event?).Sublist frames := by
  induction h with
  | refl => exact ⟨[], (List.append_nil _).symm, List.Sublist.refl _⟩
  | tail _ ht ih =>
    obtain ⟨frames, ha, hsub⟩ := ih
    obtain ⟨more, ha', hsub'⟩ := ht.arrived
    refine ⟨frames ++ more, ?_, ?_⟩
    · rw [ha', ha, List.append_assoc]
    · rw [List.filterMap_append]
      exact hsub.append hsub'

def Passes (T : Transport σ) (s s' : Session σ) : Prop :=
  ∃ now, Turns T s now s' ∧ ∀ x ∈ now, x.reader? = none

namespace Passes

theorem refl (s : Session σ) : Passes T s s := ⟨[], .refl s, nofun⟩

theorem trans (h : Passes T s s') (h' : Passes T s' s'') : Passes T s s'' := by
  obtain ⟨now, ht, hc⟩ := h
  obtain ⟨later, ht', hc'⟩ := h'
  refine ⟨now ++ later, ht.trans ht', fun x hx => ?_⟩
  cases List.mem_append.mp hx with
  | inl hx => exact hc x hx
  | inr hx => exact hc' x hx

theorem of_turn (h : Turn T s now s') (hc : ∀ x ∈ now, x.reader? = none) : Passes T s s' :=
  ⟨[] ++ now, (Turns.refl s).tail h, hc⟩

theorem aside (h : Aside T s s') : Passes T s s' := of_turn (.aside h) nofun

theorem routed (s : Session σ) (f : Frame) : Passes T s (s.route f) := by
  refine of_turn (.routed s f) fun x hx => ?_
  rw [handsOut] at hx
  split at hx
  · rw [List.mem_singleton.mp hx]
    rfl
  · cases hx

theorem ceased (h : Ending T s s') : Passes T s s' :=
  of_turn (.ceased h) fun x hx => by rw [List.mem_singleton.mp hx]; rfl

theorem began (hd : s.phase.isLive = false) (link : σ) :
    Passes T s ((s.setPhase .handshaking).attachLink link) :=
  of_turn (.began link hd) fun x hx => by rw [List.mem_singleton.mp hx]; rfl

theorem fault (T : Transport σ) (s : Session σ) (cause : SessionError) :
    Passes T s (s.fault T cause) := by
  cases hl : s.phase.isLive with
  | true => exact ceased (.faulted cause hl)
  | false => exact aside (.reported cause hl)

theorem readings (hr : Readings T s s') : Passes T s s' := by
  induction hr with
  | refl => exact .refl s
  | tail _ hr ih =>
    refine ih.trans ?_
    cases hr with
    | taken ht =>
      cases ht with
      | quiet receiver clock hd hsame => exact aside (.quiet _ receiver clock hd hsame)
      | routed f => exact routed _ f
    | faulted cause => exact fault T _ cause

theorem finish (s : Session σ) (seq : SequenceId) (outcome : Completion) :
    Passes T s (s.finish seq outcome).2 :=
  aside (.finished s seq outcome)

theorem written (T : Transport σ) (he : s.enroll = .ok (h, s')) (link : σ) :
    Passes T s { s' with link := link } :=
  (aside (.enrolled he)).trans (aside (.linked s' link))

theorem transmit (T : Transport σ) (s : Session σ) (opcode : UInt8) (payload : Bytes) :
    Passes T s (s.transmit T opcode payload).2 := by
  have ht := transmitted T s opcode payload
  generalize s.transmit T opcode payload = outcome at ht
  cases ht with
  | refused => exact .refl s
  | tooLong he _ => exact (aside (.enrolled he)).trans (finish _ _ _)
  | detached he _ => exact (aside (.enrolled he)).trans (finish _ _ _)
  | broken he _ _ _ _ => exact ((written T he _).trans (fault T _ _)).trans (finish _ _ _)
  | failed he _ _ _ _ => exact (written T he _).trans (finish _ _ _)
  | sent he _ _ _ =>
    exact ((written T he _).trans (readings (readings_settle T _))).trans (aside (.sent _))

theorem send (T : Transport σ) (s : Session σ) (opcode : UInt8) (payload : Bytes) :
    Passes T s (s.send T opcode payload).2 := by
  rw [Session.send]
  split
  · exact transmit T s opcode payload
  · exact transmit T s opcode payload
  · exact .refl s

theorem giveUp (s : Session σ) (h : Handle) (d : Duration) : Passes T s (s.giveUp h d).2 := by
  obtain ⟨n, hn⟩ := giveUp_eq s h d
  rw [hn]
  exact (finish s h.seq .timedOut).trans (aside (.timedOut _ n))

theorem await (T : Transport σ) (s : Session σ) (h : Handle) (d : Duration) :
    Passes T s (s.await T h d).2 :=
  await_keeps T s h d (readings (readings_linger T s h d)) fun hl => hl.trans (giveUp _ h d)

theorem handshake (T : Transport σ) (s : Session σ) : Passes T s (s.handshake T).2 := by
  have ht := transmit T s Opcode.handshake Version.current.toBytes
  rw [Session.handshake]
  split
  · next e s₁ he => rwa [he] at ht
  · next h s₁ he =>
    rw [he] at ht
    have hw := ht.trans (await T s₁ h s.settings.handshakeTimeout)
    split <;> next he => rwa [he] at hw

theorem connect (T : Transport σ) (s : Session σ) : Passes T s (s.connect T).2 := by
  rw [Session.connect]
  split
  · exact .refl s
  · next hl =>
    have hdead : s.phase.isLive = false := Bool.eq_false_iff.mpr hl
    dsimp only
    split
    · exact aside (.refused _ hdead)
    · next link _ =>
      have hb : Passes T s ((s.setPhase .handshaking).attachLink link) := began hdead link
      have hh := hb.trans (handshake T _)
      split
      · next he =>
        rw [he] at hh
        split
        · exact hh.trans (aside (.greeted _))
        · exact hh.trans (fault T _ _)
      · next he =>
        rw [he] at hh
        exact hh.trans (fault T _ _)

theorem close (T : Transport σ) (s : Session σ) : Passes T s (s.close T) := by
  rw [Session.close]
  split
  · exact .refl s
  · next hp =>
    have hclosed : Passes T s (s.close T) := ceased (.closed hp)
    rwa [Session.close, if_neg hp] at hclosed

theorem abandon (T : Transport σ) (s : Session σ) : Passes T s (s.abandon T) :=
  ceased (.abandoned s)

end Passes
end Session

def Call.isReader {σ : Type} : Call σ → Bool
  | subscribe => true
  | nextEvent _ => true
  | unsubscribe _ => true
  | _ => false

namespace Client

open Session

variable {σ : Type} {T : Transport σ} {s s' : Session σ} {c : Client σ}

/-- Whatever is not done by a reader is done by connections, as far as the streams are concerned. -/
theorem passes_does {call : Call σ} (hr : call.isReader = false) (hd : Does T s call s') :
    Passes T s s' := by
  cases hd with
  | nothing => exact .refl s
  | connect => exact .connect T s
  | close => exact .close T s
  | abandon => exact .abandon T s
  | send opcode payload => exact .send T s opcode payload
  | wait h d => exact .await T s h d
  | expire h d => exact .readings (readings_linger T s h d)
  | giveUp h d => exact .giveUp s h d
  | cancelHandle h => exact .finish s h.seq .cancelled
  | dropHandle h => exact .finish s h.seq .cancelled
  | cancel seq => exact .finish s seq .cancelled
  | subscribe | nextEvent | unsubscribe => cases hr
  | device act => exact .aside (.linked s (act s.link))
  | read steps => exact .readings (readings_settleWithin T steps s)
  | idle d => exact .readings (readings_idle T s d)

def Adds (T : Transport σ) (c : Client σ) (call : Call σ) (now : List Happening) : Prop :=
  match call with
  | .subscribe => now = [.opened c.session.streams.length c.session.publishing]
  | .nextEvent id => now = c.session.readsOut id
  | .unsubscribe id => now = c.session.parts id
  | call => Turns T c.session now (c.perform T call).session ∧ ∀ x ∈ now, x.reader? = none

/-- What happens to the streams in a run, call by call. -/
inductive Chronicle (T : Transport σ) : Client σ → List (Call σ) → List Happening → Prop
  | nil (c : Client σ) : Chronicle T c [] []
  | cons {c : Client σ} {call : Call σ} {calls : List (Call σ)} {now later : List Happening} :
    Adds T c call now → Chronicle T (c.perform T call) calls later →
      Chronicle T c (call :: calls) (now ++ later)

theorem exists_adds (T : Transport σ) (c : Client σ) (call : Call σ) : ∃ now, Adds T c call now := by
  have hd := does_perform T c call
  cases call with
  | subscribe | nextEvent | unsubscribe => exact ⟨_, rfl⟩
  | connect | close | abandon | send | wait | expire | giveUp | cancelHandle | dropHandle | cancel
  | device | read | idle => exact passes_does rfl hd

theorem Adds.turns {call : Call σ} {now : List Happening} (h : Adds T c call now) :
    Turns T c.session now (c.perform T call).session := by
  have hone {now : List Happening} {s' : Session σ} (ht : Turn T c.session now s') :
      Turns T c.session now s' := (Turns.refl _).tail ht
  cases call with
  | subscribe => rw [show now = _ from h]; exact hone (.opened _)
  | nextEvent id => rw [show now = _ from h]; exact hone (.read _ id)
  | unsubscribe id => rw [show now = _ from h]; exact hone (.left _ id)
  | connect | close | abandon | send | wait | expire | giveUp | cancelHandle | dropHandle | cancel
  | device | read | idle => exact h.1

/-- Every run has a history. -/
theorem exists_chronicle (T : Transport σ) (c : Client σ) (calls : List (Call σ)) :
    ∃ hist, Chronicle T c calls hist := by
  induction calls generalizing c with
  | nil => exact ⟨[], .nil c⟩
  | cons call calls ih =>
    obtain ⟨now, hnow⟩ := exists_adds T c call
    obtain ⟨later, hlater⟩ := ih (c.perform T call)
    exact ⟨now ++ later, .cons hnow hlater⟩

theorem Chronicle.turns {calls : List (Call σ)} {hist : List Happening}
    (h : Chronicle T c calls hist) : Turns T c.session hist (c.run T calls).session := by
  induction h with
  | nil c => exact .refl c.session
  | cons hnow _ ih => exact hnow.turns.trans ih

theorem settings_run (T : Transport σ) (c : Client σ) (calls : List (Call σ)) :
    (c.run T calls).session.settings = c.session.settings := by
  obtain ⟨hist, h⟩ := exists_chronicle T c calls
  exact h.turns.settings

end Client
end FrameLink
