import FrameLink.Device.Bench
import FrameLink.Proofs.Session.Lifecycle

namespace FrameLink

/-- What callers do with a session, and what the link does of its own accord. A caller may have
waited for as long as it likes; `wait` is the moment when it is told, or has waited for too long and
gives up at once. When the timer of a caller fires, others may come in between before it gives up:
`expire` is the first of these moments and `giveUp` the second. -/
inductive Call (σ : Type) where
  | connect
  | close
  | abandon
  | send (opcode : UInt8) (payload : Bytes)
  | wait (h : Handle) (timeout : Duration)
  | expire (h : Handle) (timeout : Duration)
  | giveUp (h : Handle) (timeout : Duration)
  | cancelHandle (h : Handle)
  | dropHandle (h : Handle)
  | cancel (seq : SequenceId)
  | subscribe
  | nextEvent (id : StreamId)
  | unsubscribe (id : StreamId)
  | device (act : σ → σ)
  | read (steps : Nat)
  | idle (d : Duration)

/-- A session in use, with the handles that are held, those whose timers have fired, and what has
been told to those who waited. A handle is used once. -/
structure Client (σ : Type) where
  session : Session σ
  held : List Handle := []
  expired : List (Handle × Duration) := []
  told : List (Handle × Reply) := []

namespace Client

open Session

variable {σ : Type} {T : Transport σ} {c : Client σ} {s : Session σ} {h : Handle} {reply : Reply}
  {mine : Ticket → Prop}

def perform (T : Transport σ) (c : Client σ) : Call σ → Client σ
  | .connect => { c with session := (c.session.connect T).2 }
  | .close => { c with session := c.session.close T }
  | .abandon => { c with session := c.session.abandon T }
  | .send opcode payload =>
    match c.session.send T opcode payload with
    | (.ok h, s) => { c with session := s, held := h :: c.held }
    | (.error _, s) => { c with session := s }
  | .wait h timeout =>
    if h ∈ c.held then
      let (reply, s) := c.session.await T h timeout
      { c with session := s, held := c.held.erase h, told := (h, reply) :: c.told }
    else c
  | .expire h timeout =>
    if h ∈ c.held then
      let s := c.session.linger T h timeout
      match s.outcome? h with
      | some reply =>
        { c with session := s, held := c.held.erase h, told := (h, reply) :: c.told }
      | none =>
        { c with session := s, held := c.held.erase h, expired := (h, timeout) :: c.expired }
    else c
  | .giveUp h timeout =>
    if (h, timeout) ∈ c.expired then
      let (reply, s) := c.session.giveUp h timeout
      { c with
        session := s
        expired := c.expired.erase (h, timeout)
        told := (h, reply) :: c.told }
    else c
  | .cancelHandle h =>
    if h ∈ c.held then
      { c with session := (c.session.cancelHandle h).2, held := c.held.erase h }
    else c
  | .dropHandle h =>
    if h ∈ c.held then { c with session := c.session.withdraw h, held := c.held.erase h } else c
  | .cancel seq => { c with session := (c.session.cancel seq).2 }
  | .subscribe => { c with session := c.session.subscribe.2 }
  | .nextEvent id => { c with session := (c.session.nextEvent id).2 }
  | .unsubscribe id => { c with session := c.session.unsubscribe id }
  | .device act => { c with session := { c.session with link := act c.session.link } }
  | .read steps => { c with session := settleWithin T steps c.session }
  | .idle d => { c with session := c.session.idle T d }

def run (T : Transport σ) (c : Client σ) (calls : List (Call σ)) : Client σ :=
  calls.foldl (perform T) c

inductive Does (T : Transport σ) (s : Session σ) : Call σ → Session σ → Prop
  | nothing (call : Call σ) : Does T s call s
  | connect : Does T s .connect (s.connect T).2
  | close : Does T s .close (s.close T)
  | abandon : Does T s .abandon (s.abandon T)
  | send (opcode : UInt8) (payload : Bytes) :
    Does T s (.send opcode payload) (s.send T opcode payload).2
  | wait (h : Handle) (d : Duration) : Does T s (.wait h d) (s.await T h d).2
  | expire (h : Handle) (d : Duration) : Does T s (.expire h d) (s.linger T h d)
  | giveUp (h : Handle) (d : Duration) : Does T s (.giveUp h d) (s.giveUp h d).2
  | cancelHandle (h : Handle) : Does T s (.cancelHandle h) (s.cancel h.seq).2
  | dropHandle (h : Handle) : Does T s (.dropHandle h) (s.cancel h.seq).2
  | cancel (seq : SequenceId) : Does T s (.cancel seq) (s.cancel seq).2
  | subscribe : Does T s .subscribe s.subscribe.2
  | nextEvent (id : StreamId) : Does T s (.nextEvent id) (s.nextEvent id).2
  | unsubscribe (id : StreamId) : Does T s (.unsubscribe id) (s.unsubscribe id)
  | device (act : σ → σ) : Does T s (.device act) { s with link := act s.link }
  | read (steps : Nat) : Does T s (.read steps) (settleWithin T steps s)
  | idle (d : Duration) : Does T s (.idle d) (s.idle T d)

theorem does_perform (T : Transport σ) (c : Client σ) (call : Call σ) :
    Does T c.session call (c.perform T call).session := by
  cases call with
  | connect => exact .connect
  | close => exact .close
  | abandon => exact .abandon
  | send opcode payload =>
    have hs : Does T c.session _ _ := .send opcode payload
    rw [perform]
    split <;> next he => rwa [he] at hs
  | wait h timeout =>
    rw [perform]
    split
    · exact .wait h timeout
    · exact .nothing _
  | expire h timeout =>
    rw [perform]
    split
    · dsimp only
      split <;> exact .expire h timeout
    · exact .nothing _
  | giveUp h timeout =>
    rw [perform]
    split
    · exact .giveUp h timeout
    · exact .nothing _
  | cancelHandle h =>
    rw [perform]
    split
    · exact .cancelHandle h
    · exact .nothing _
  | dropHandle h =>
    rw [perform]
    split
    · exact .dropHandle h
    · exact .nothing _
  | cancel seq => exact .cancel seq
  | subscribe => exact .subscribe
  | nextEvent id => exact .nextEvent id
  | unsubscribe id => exact .unsubscribe id
  | device act => exact .device act
  | read steps => exact .read steps
  | idle d => exact .idle d

/-- What is kept by each of the calls is kept by a run of them. -/
theorem run_induction {P : Session σ → Prop} {calls : List (Call σ)} (hp : P c.session)
    (hstep : ∀ s s' call, call ∈ calls → P s → Does T s call s' → P s') :
    P (c.run T calls).session := by
  induction calls generalizing c with
  | nil => exact hp
  | cons call calls ih =>
    have hnext := hstep _ _ call List.mem_cons_self hp (does_perform T c call)
    exact ih hnext fun s s' call hm => hstep s s' call (List.mem_cons_of_mem _ hm)

def untold (c : Client σ) : List Handle := c.held ++ c.expired.map Prod.fst

/-- A request that has timed out has opened a connection, or a caller has been told of a timeout:
its own, or one whose handle is older and has the same id. -/
def Excused (c : Client σ) (ticket : Ticket) : Prop :=
  Greeting c.session.journal ticket ∨
    ∃ h ∈ c.session.issued, h.ticket = ticket ∧
      ∃ h' d, h'.seq = h.seq ∧ h'.ticket ≤ ticket ∧
        (h', .error (.requestTimeout h'.seq d)) ∈ c.told

/-- Handles are for requests, nobody is told anything twice, and a request only times out if a
caller is told so. -/
structure Kept (c : Client σ) : Prop where
  settled : c.session.Settled
  untold : ∀ h ∈ c.untold, h ∈ c.session.issued
  told : ∀ h reply, (h, reply) ∈ c.told → h ∈ c.session.issued ∧ c.session.Yields h reply
  distinct : (c.untold ++ c.told.map Prod.fst).Nodup
  lapsed : ∀ ticket, .lapsed ticket ∈ c.session.journal → c.Excused ticket

theorem issued_of_grows {s' : Session σ} (hg : Grows mine s s') (hi : h ∈ s.issued) :
    h ∈ s'.issued :=
  mem_issued.mpr (hg.journal.subset (mem_issued.mp hi))

theorem yields_of_grows {s' : Session σ} (hs : s'.Settled) (hg : Grows mine s s')
    (hi : h ∈ s.issued) (hy : s.Yields h reply) : s'.Yields h reply := by
  cases hy with
  | answer hm _ =>
    exact .answer (hg.answers hm) (hs.books.rightful (issued_of_grows hg hi) (hg.answers hm))
  | timeout d hi' hs' ht hl =>
    exact .timeout d (issued_of_grows hg hi') hs' ht (hg.journal.subset hl)
  | deserted hl => exact .deserted (hg.journal.subset hl)

theorem Excused.mono {c' : Client σ} {ticket : Ticket} (he : c.Excused ticket)
    (hg : Grows mine c.session c'.session) (ht : c.told ⊆ c'.told) : c'.Excused ticket := by
  obtain hgreet | ⟨h, hi, hticket, h', d, hseq, hle, hm⟩ := he
  · exact .inl (hgreet.mono hg.journal)
  · exact .inr ⟨h, issued_of_grows hg hi, hticket, h', d, hseq, hle, ht hm⟩

namespace Kept

theorem new (settings : SessionSettings) (selector : Selector) (pace : Pace) (link : σ) :
    Kept { session := Session.new settings selector pace link } where
  settled := .new settings selector pace link
  untold := nofun
  told := nofun
  distinct := List.nodup_nil
  lapsed := nofun

theorem advance (hk : c.Kept) (hs : s.Settled) (hg : Grows mine c.session s)
    (hmine : ∀ ticket, mine ticket → Greeting s.journal ticket) :
    Kept { c with session := s } where
  settled := hs
  untold := fun h hm => issued_of_grows hg (hk.untold h hm)
  told := by
    intro h reply hm
    obtain ⟨hi, hy⟩ := hk.told h reply hm
    exact ⟨issued_of_grows hg hi, yields_of_grows hs hg hi hy⟩
  distinct := hk.distinct
  lapsed := by
    intro ticket hl
    obtain hl | hl := hg.lapsed ticket hl
    · exact (hk.lapsed ticket hl).mono hg (List.Subset.refl _)
    · exact .inl (hmine ticket hl)

theorem steps (hk : c.Kept) (hs : Steps (fun _ => False) c.session s) :
    Kept { c with session := s } :=
  hk.advance (hk.settled.steps hs) hs.grows fun _ => False.elim

theorem release (hk : c.Kept) (h : Handle) : Kept { c with held := c.held.erase h } where
  settled := hk.settled
  untold := fun h' hm => hk.untold h' (((List.erase_sublist ..).append_right _).subset hm)
  told := hk.told
  distinct := hk.distinct.sublist (((List.erase_sublist ..).append_right _).append_right _)
  lapsed := hk.lapsed

theorem rearrange (hk : c.Kept) {held : List Handle} {expired : List (Handle × Duration)}
    (hperm : (held ++ expired.map Prod.fst).Perm c.untold) :
    Kept { c with held := held, expired := expired } where
  settled := hk.settled
  untold := fun h hm => hk.untold h (hperm.subset hm)
  told := hk.told
  distinct := (hperm.append_right _).nodup_iff.mpr hk.distinct
  lapsed := hk.lapsed

/-- A caller is told. What times out meanwhile is a request with the id of its handle, and then it
is told so. -/
theorem tell (hk : c.Kept) {held : List Handle} {expired : List (Handle × Duration)}
    (hperm : (h :: (held ++ expired.map Prod.fst)).Perm c.untold) (hs : s.Settled)
    (hg : Grows mine c.session s) (hy : s.Yields h reply)
    (hmine : ∀ ticket, mine ticket → ∃ d, reply = .error (.requestTimeout h.seq d) ∧
      ∃ h' ∈ s.issued, h'.ticket = ticket ∧ h.seq = h'.seq ∧ h.ticket ≤ ticket) :
    Kept { session := s, held := held, expired := expired, told := (h, reply) :: c.told } where
  settled := hs
  untold := fun h' hm => issued_of_grows hg
    (hk.untold h' (hperm.subset (List.mem_cons_of_mem _ hm)))
  told := by
    intro h' reply' hm
    cases List.mem_cons.mp hm with
    | inl hm =>
      cases hm
      exact ⟨issued_of_grows hg (hk.untold h (hperm.subset List.mem_cons_self)), hy⟩
    | inr hm =>
      obtain ⟨hi, hy'⟩ := hk.told h' reply' hm
      exact ⟨issued_of_grows hg hi, yields_of_grows hs hg hi hy'⟩
  distinct := (List.perm_middle.trans (hperm.append_right _)).nodup_iff.mpr hk.distinct
  lapsed := by
    intro ticket hl
    obtain hl | hl := hg.lapsed ticket hl
    · exact (hk.lapsed ticket hl).mono hg (List.subset_cons_self _ _)
    · obtain ⟨d, rfl, h', hi, ht, hseq, hle⟩ := hmine ticket hl
      exact .inr ⟨h', hi, ht, h, d, hseq, hle, List.mem_cons_self⟩

theorem giveUp (hk : c.Kept) {held : List Handle} {expired : List (Handle × Duration)}
    (hperm : (h :: (held ++ expired.map Prod.fst)).Perm c.untold) (d : Duration) :
    Kept { session := (c.session.giveUp h d).2, held := held, expired := expired,
           told := (h, (c.session.giveUp h d).1) :: c.told } := by
  have hb := hk.settled.books
  have hi := hk.untold h (hperm.subset List.mem_cons_self)
  have hsteps : Steps (fun ticket => ∃ p, c.session.table.find? h.seq = some p ∧ p.ticket = ticket)
      c.session (c.session.giveUp h d).2 := steps_giveUp (fun p hp => ⟨p, hp, rfl⟩) d
  refine hk.tell hperm (hk.settled.steps hsteps) hsteps.grows (hb.giveUp_yields hi d) ?_
  rintro ticket ⟨p, hp, rfl⟩
  have hpending := PendingTable.mem_of_find? hp
  have hseq : p.seq = h.seq := PendingTable.seq_of_find? hp
  refine ⟨d, congrArg Prod.fst (giveUp_of_pending hp), p.handle, ?_, rfl, hseq.symm, ?_⟩
  · exact issued_of_grows hsteps.grows (hb.issued_of_pending hpending)
  · exact hb.le_of_same_id hpending hi hseq

theorem send (hk : c.Kept) (T : Transport σ) (opcode : UInt8) (payload : Bytes) :
    (c.perform T (.send opcode payload)).Kept := by
  have hsteps : Steps (fun _ => False) c.session (c.session.send T opcode payload).2 :=
    steps_send T c.session opcode payload
  rw [Client.perform]
  split
  · next h s hs =>
    rw [hs] at hsteps
    have hnext := hk.steps hsteps
    obtain ⟨s₁, he, hrest⟩ := enroll_of_send (fun _ => False) hs
    obtain ⟨-, -, rfl, rfl⟩ := enroll_eq_ok_iff.mp he
    have hi : .issued ⟨c.session.table.due, c.session.tickets⟩ ∈ s.journal :=
      hrest.grows.journal.subset List.mem_cons_self
    -- All tickets that are known by now are older than the new one.
    have hnew : ∀ h ∈ c.session.issued, h ≠ ⟨c.session.table.due, c.session.tickets⟩ := by
      rintro h hi rfl
      exact Nat.lt_irrefl _ (hk.settled.books.ticket_lt hi)
    constructor
    · exact hnext.settled
    · intro h hm
      cases List.mem_cons.mp hm with
      | inl hm =>
        subst hm
        exact mem_issued.mpr hi
      | inr hm => exact hnext.untold h hm
    · exact hnext.told
    · refine List.nodup_cons.mpr ⟨fun hm => ?_, hk.distinct⟩
      cases List.mem_append.mp hm with
      | inl hm => exact hnew _ (hk.untold _ hm) rfl
      | inr hm =>
        obtain ⟨⟨h, reply⟩, hm, he⟩ := List.mem_map.mp hm
        exact hnew h (hk.told h reply hm).1 he
    · exact hnext.lapsed
  · next e s hs =>
    rw [hs] at hsteps
    exact hk.steps hsteps

theorem settle (hk : c.Kept) {held : List Handle} {expired : List (Handle × Duration)}
    (hperm : (h :: (held ++ expired.map Prod.fst)).Perm c.untold)
    (ho : c.session.outcome? h = some reply) :
    Kept { c with held := held, expired := expired, told := (h, reply) :: c.told } := by
  have hi := hk.untold h (hperm.subset List.mem_cons_self)
  have hy := hk.settled.books.outcome_yields hi ho
  exact hk.tell hperm hk.settled (.refl _) hy fun _ => False.elim

theorem perm_untold (hm : h ∈ c.held) :
    (h :: (c.held.erase h ++ c.expired.map Prod.fst)).Perm c.untold :=
  (List.perm_cons_erase hm).symm.append_right _

theorem expire (hk : c.Kept) (T : Transport σ) (h : Handle) (d : Duration) :
    (c.perform T (.expire h d)).Kept := by
  have hnext := hk.steps (steps_linger T c.session h d)
  rw [Client.perform]
  split
  · next hm =>
    dsimp only
    split
    · next reply ho => exact hnext.settle (perm_untold hm) ho
    · exact hnext.rearrange (List.perm_middle.trans (perm_untold hm))
  · exact hk

theorem wait (hk : c.Kept) (T : Transport σ) (h : Handle) (d : Duration) :
    (c.perform T (.wait h d)).Kept := by
  have hnext := hk.steps (steps_linger T c.session h d)
  rw [Client.perform]
  split
  · next hm =>
    cases ho : (c.session.linger T h d).outcome? h with
    | some reply =>
      simp only [await, ho]
      exact hnext.settle (perm_untold hm) ho
    | none =>
      simp only [await, ho]
      exact hnext.giveUp (perm_untold hm) d
  · exact hk

theorem perform (hk : c.Kept) (T : Transport σ) (call : Call σ) : (c.perform T call).Kept := by
  cases call with
  | connect =>
    obtain ⟨hs, hg⟩ := hk.settled.connect T
    exact hk.advance hs hg fun _ => And.right
  | close =>
    obtain ⟨hs, hg⟩ := hk.settled.close T
    exact hk.advance hs hg fun _ => False.elim
  | abandon =>
    obtain ⟨hs, hg⟩ := hk.settled.abandon T
    exact hk.advance hs hg fun _ => False.elim
  | send opcode payload => exact hk.send T opcode payload
  | wait h timeout => exact hk.wait T h timeout
  | expire h timeout => exact hk.expire T h timeout
  | giveUp h timeout =>
    rw [Client.perform]
    split
    · next hm =>
      have hperm := ((List.perm_cons_erase hm).symm.map Prod.fst).append_left c.held
      exact hk.giveUp (List.perm_middle.symm.trans hperm) timeout
    · exact hk
  | cancelHandle h =>
    rw [Client.perform]
    split
    · exact (hk.steps (steps_cancel c.session h.seq)).release h
    · exact hk
  | dropHandle h =>
    rw [Client.perform]
    split
    · exact (hk.steps (steps_withdraw c.session h)).release h
    · exact hk
  | cancel seq => exact hk.steps (steps_cancel c.session seq)
  | subscribe => exact hk.steps (steps_subscribe c.session)
  | nextEvent id => exact hk.steps (steps_nextEvent c.session id)
  | unsubscribe id => exact hk.steps (steps_unsubscribe c.session id)
  | device act => exact hk.steps (steps_link c.session (act c.session.link))
  | read steps => exact hk.steps (steps_settleWithin T steps c.session)
  | idle d => exact hk.steps (steps_idle T c.session d)

theorem run (hk : c.Kept) (T : Transport σ) (calls : List (Call σ)) : (c.run T calls).Kept := by
  induction calls generalizing c with
  | nil => exact hk
  | cons call calls ih => exact ih (hk.perform T call)

end Kept

/-- Whatever is done with a new session. Every request has a ticket of its own, and just one of
three fates, once: it waits, or it has been answered, or it has timed out. A response that answers a
request is the first frame with its id since it was registered, on the same connection; any other
answer tells of its own cancellation, or of the end of the connection. Nobody is told twice, and
while the session is not ready nobody is left waiting. A request times out with its own caller, or
with one whose timer had fired for an earlier request with the same id. Who gives up after its timer
has fired leaves all other requests alone unless a later one waits under its id. -/
theorem run_new_answered (T : Transport σ) (settings : SessionSettings) (selector : Selector)
    (pace : Pace) (link : σ) (calls : List (Call σ)) :
    let c := run T { session := Session.new settings selector pace link } calls
    let s := c.session
    (s.issued.map Handle.ticket).Nodup ∧
    (∀ h ∈ s.issued, s.fates h.ticket = 1) ∧
    (∀ ticket reply, (ticket, reply) ∈ s.answers →
      ∃ h ∈ s.issued, h.ticket = ticket ∧ Rightful s.journal h reply) ∧
    (∀ h reply, (h, reply) ∈ c.told → h ∈ s.issued ∧ s.Yields h reply) ∧
    (c.held ++ c.expired.map Prod.fst ++ c.told.map Prod.fst).Nodup ∧
    (∀ ticket, .lapsed ticket ∈ s.journal → c.Excused ticket) ∧
    (∀ h d, (h, d) ∈ c.expired →
      ((∀ p ∈ s.table.pending, p.ticket ≠ h.ticket → (s.giveUp h d).2.Undecided p) ↔
        ¬ ∃ p ∈ s.table.pending, p.seq = h.seq ∧ h.ticket < p.ticket)) ∧
    (s.phase ≠ .ready → s.table.pending = []) := by
  intro c s
  have hk : c.Kept := (Kept.new settings selector pace link).run T calls
  have hb : s.Books := hk.settled.books
  have hexpired : ∀ h d, (h, d) ∈ c.expired → h ∈ s.issued := fun h d hm =>
    hk.untold h (List.mem_append_right _ (List.mem_map_of_mem (f := Prod.fst) hm))
  refine ⟨?_, fun h => hb.fates_eq_one, hb.answers, hk.told, hk.distinct, hk.lapsed,
    fun h d hm => hb.giveUp_spares_iff (hexpired h d hm) d, hk.settled.pending_eq_nil⟩
  rw [hb.tickets]
  exact List.nodup_reverse.mpr List.nodup_range

/-- Two ids go around. While the first caller is between its timer and giving up, its response
arrives and its id is given to another request. -/
def overtaken : Client Bench :=
  let settings := { SessionSettings.standard with sequenceSpace := 2 }
  run Bench.transport
    { session := Session.new settings .standard .stepped (.new settings.codec) }
    [.connect, .send 2 [0x61], .expire ⟨1, 1⟩ ⟨0⟩,
      .device (·.act (.frame ⟨1, 2, [0x41]⟩ ⟨0⟩)), .read 4,
      .send 2 [0x62], .send 2 [0x63], .giveUp ⟨1, 1⟩ ⟨0⟩, .wait ⟨1, 3⟩ ⟨0⟩]

/-- The request that has been given the id is lost with the first caller, and its own caller is told
that the session is closed, while it is ready. -/
theorem overtaken_deserts :
    overtaken.session.phase = .ready ∧
    (⟨1, 3⟩, .error .sessionClosed) ∈ overtaken.told ∧
    ¬ ∀ ticket, .lapsed ticket ∈ overtaken.session.journal →
      Greeting overtaken.session.journal ticket ∨
        ∃ h d, h.ticket = ticket ∧ (h, .error (.requestTimeout h.seq d)) ∈ overtaken.told := by
  have htold : overtaken.told =
      [(⟨1, 3⟩, .error .sessionClosed), (⟨1, 1⟩, .error (.requestTimeout 1 ⟨0⟩))] := by
    decide +kernel
  have hjournal : overtaken.session.journal =
      [.lapsed 3, .issued ⟨1, 3⟩, .issued ⟨0, 2⟩, .routed ⟨1, 2, [0x41]⟩, .issued ⟨1, 1⟩,
        .routed ⟨0, 1, [1, 0]⟩, .issued ⟨0, 0⟩, .connected] := by decide +kernel
  refine ⟨by decide +kernel, htold ▸ List.mem_cons_self, fun hall => ?_⟩
  obtain ⟨h, earlier, hsuffix, ht⟩ | ⟨h, d, ht, hm⟩ := hall 3 (hjournal ▸ List.mem_cons_self)
  · rw [hjournal] at hsuffix
    obtain ⟨rfl, -⟩ : h = ⟨0, 0⟩ ∧ earlier = [] := by simpa [List.suffix_cons_iff] using hsuffix
    cases ht
  · rw [htold] at hm
    obtain ⟨rfl, -⟩ : h = ⟨1, 1⟩ ∧ h.seq = 1 ∧ d = ⟨0⟩ := by simpa using hm
    cases ht

example :
    let link := Bench.new SessionSettings.standard.codec
    let calls : List (Call Bench) :=
      [.connect, .send 2 [0x61], .send 2 [0x62], .send 2 [0x63],
        .device (·.act (.frame ⟨2, 2, [0x42]⟩ ⟨0⟩)), .device (·.act (.frame ⟨1, 2, [0x41]⟩ ⟨0⟩)),
        .read 4, .wait ⟨1, 1⟩ ⟨0⟩, .wait ⟨2, 2⟩ ⟨0⟩, .wait ⟨3, 3⟩ ⟨0⟩]
    let c := run Bench.transport { session := Session.new .standard .standard .stepped link } calls
    c.told.map (fun (h, reply) => (h.seq, reply.toOption)) =
      [(3, none), (2, some ⟨2, 2, [0x42]⟩), (1, some ⟨1, 2, [0x41]⟩)] := by decide +kernel

end Client
end FrameLink
