import FrameLink.Proofs.Session.Linkage
import FrameLink.Proofs.Usb.Balance

namespace FrameLink
namespace Usb

def Bus.Told (b : Bus) : Prop := b.calls = b.history.map Attempt.call

theorem Bus.Told.adds {b b' : Bus} {made : List Attempt} (ht : b.Told) (h : Adds made b b') :
    b'.Told := by
  rw [Told, h.calls, h.history, ht, List.map_append]

namespace Connection

variable {c c' : Connection} {α : Type} {s : Selector}

def isOpen (c : Connection) : Bool := c.link.any (·.handle.isSome)

theorem isOpen_eq_true_iff : c.isOpen = true ↔ ∃ l h, c.link = some l ∧ l.handle = some h := by
  simp [isOpen, Option.any_eq_true, Option.isSome_iff_exists]

theorem isOpen_of_handle {l : Link} {h : Handle} (hl : c.link = some l) (hh : l.handle = some h) :
    c.isOpen = true :=
  isOpen_eq_true_iff.mpr ⟨l, h, hl, hh⟩

theorem isOpen_congr (hl : c'.link = c.link) : c'.isOpen = c.isOpen := by
  rw [isOpen, hl, isOpen]

theorem act_adds {activity : BusM α} {Q : α → List Attempt → Prop} (h : Makes activity Q)
    (c : Connection) :
    ∃ made, Bus.Adds made c.bus (c.act activity).2.bus ∧ Q (c.act activity).1 made :=
  h c.bus

inductive Attached (c c' : Connection) (made : List Attempt) : Except TransportError Unit → Prop
  | refused {e : TransportError} (link : c'.link = c.link) (balanced : Balanced made) :
    Attached c c' made (.error e)
  | opened {l : Link} {h : Handle} {body : List Attempt} (link : c'.link = some l)
    (handle : l.handle = some h) (made_eq : made = ⟨.openDevice h.device, true⟩ :: body)
    (inUse : InUse h.device l.endpoints.interface l.detached true body) :
    Attached c c' made (.ok ())

theorem attach_adds {outcome : Except TransportError Unit}
    (h : transport.attach s c = (outcome, c')) :
    ∃ earlier made, Bus.Adds (earlier ++ made) c.bus c'.bus ∧ Balanced earlier ∧
      Attached c c' made outcome := by
  obtain ⟨_, hadds, earlier, made, rfl, hb, ho⟩ := act_adds (c.connector.makes_connect s) c
  have hlink : (c.act (c.connector.connect s)).2.link = c.link := rfl
  change c.attach s = _ at h
  rw [attach] at h
  generalize c.act (c.connector.connect s) = r at hadds ho hlink h
  obtain ⟨_ | l, c₁⟩ := r
  · cases h
    exact ⟨earlier, made, hadds, hb, .refused hlink ho⟩
  · cases h
    obtain ⟨h, body, hh, he, hmade, hu⟩ := ho
    exact ⟨earlier, made, hadds, hb, .opened rfl hh hmade (he ▸ hu)⟩

inductive Carried (c c' : Connection) (made : List Attempt) : Prop
  | idle (shut : c.isOpen = false) (same : c' = c) (made_eq : made = [])
  | used {l l' : Link} {h : Handle} (link : c.link = some l) (handle : l.handle = some h)
    (link' : c'.link = some l') (same : Link.Same l l') (plain : Plain h.device made)

theorem onLink_adds {activity : Link → BusM (Except TransportError α × Link)}
    (hclosed : ∀ l, l.handle = none → activity l = pure (.error .closed, l))
    (hopen : ∀ l h, l.handle = some h →
      Makes (activity l) fun r made => Link.Same l r.2 ∧ Plain h.device made) (c : Connection) :
    ∃ made, Bus.Adds made c.bus (c.onLink activity).2.bus ∧
      Carried c (c.onLink activity).2 made := by
  obtain ⟨bus, connector, _ | l⟩ := c
  · exact ⟨[], .refl bus, .idle rfl rfl rfl⟩
  · cases hh : l.handle with
    | none =>
      simp only [onLink, hclosed l hh]
      exact ⟨[], .refl bus, .idle (by simp [isOpen, hh]) rfl rfl⟩
    | some h =>
      obtain ⟨made, hadds, hsame, hp⟩ := act_adds (hopen l h hh) ⟨bus, connector, some l⟩
      exact ⟨made, hadds, .used rfl hh rfl hsame hp⟩

theorem write_adds {bytes : Bytes} {d : Duration} {outcome : Except TransportError Nat}
    (h : transport.write bytes d c = (outcome, c')) :
    ∃ made, Bus.Adds made c.bus c'.bus ∧ Carried c c' made := by
  have he : c' = (c.onLink fun l => l.write bytes d).2 := (congrArg Prod.snd h).symm
  rw [he]
  exact onLink_adds (fun l hn => l.write_of_closed hn bytes d)
    (fun l h hh => l.plain_write hh bytes d) c

theorem Carried.refl (c : Connection) : Carried c c [] := by
  cases hc : c.isOpen with
  | false => exact .idle hc rfl rfl
  | true =>
    obtain ⟨l, h, hl, hh⟩ := isOpen_eq_true_iff.mp hc
    exact .used hl hh hl ⟨rfl, rfl, rfl⟩ (.nil _)

theorem drift_adds (h : transport.Drift c c') :
    ∃ made, Bus.Adds made c.bus c'.bus ∧ Carried c c' made := by
  cases h with
  | still => exact ⟨[], .refl c.bus, .refl c⟩
  | @polled _ max d outcome h =>
    change c.poll max d = _ at h
    rw [poll] at h
    split at h
    · cases h
    · have he : c' = (c.onLink fun l => l.read max d).2 :=
        (congrArg Prod.snd (Option.some.inj h)).symm
      rw [he]
      exact onLink_adds (fun l hn => l.read_of_closed hn max d)
        (fun l h hh => l.plain_read hh max d) c
  | followed h => cases h

inductive Ceased (c c' : Connection) (made : List Attempt) : Prop
  | idle (shut : c.isOpen = false) (same : c' = c) (made_eq : made = [])
  | closed {l : Link} {h : Handle} (link : c.link = some l) (handle : l.handle = some h)
    (shut : c'.isOpen = false)
    (balanced : ∀ body, InUse h.device l.endpoints.interface l.detached true body →
      Balanced (⟨.openDevice h.device, true⟩ :: body ++ made))

theorem close_adds (c : Connection) :
    ∃ made, Bus.Adds made c.bus c.close.bus ∧ Ceased c c.close made := by
  obtain ⟨bus, connector, _ | l⟩ := c
  · exact ⟨[], .refl bus, .idle rfl rfl rfl⟩
  · cases hh : l.handle with
    | none =>
      simp only [close, Link.close_of_closed hh]
      exact ⟨[], .refl bus, .idle (by simp [isOpen, hh]) rfl rfl⟩
    | some h =>
      obtain ⟨made, hadds, hn, hb⟩ := act_adds (Link.makes_close hh) ⟨bus, connector, some l⟩
      exact ⟨made, hadds, .closed rfl hh (by simp [isOpen, close, hn]) hb⟩

theorem close_of_closed (hc : c.isOpen = false) : c.close = c := by
  obtain ⟨made, -, ⟨-, same, -⟩ | ⟨link, handle, -, -⟩⟩ := c.close_adds
  · exact same
  · simp [isOpen_of_handle link handle] at hc

theorem isOpen_close (c : Connection) : c.close.isOpen = false := by
  obtain ⟨made, -, ⟨shut, same, -⟩ | ⟨-, -, shut, -⟩⟩ := c.close_adds
  · rwa [same]
  · exact shut

theorem Carried.isOpen_eq {made : List Attempt} (h : Carried c c' made) : c'.isOpen = c.isOpen := by
  cases h with
  | idle shut same _ => rw [same]
  | used link handle link' same _ =>
    rw [isOpen_of_handle link handle, isOpen_of_handle link' (same.handle.trans handle)]

theorem transport_tracks : transport.Tracks isOpen where
  attached := by
    intro s c c' h
    obtain ⟨_, made, -, -, hend⟩ := attach_adds h
    cases hend with
    | opened link handle => exact isOpen_of_handle link handle
  refused := by
    intro s c c' e h
    obtain ⟨_, made, -, -, hend⟩ := attach_adds h
    cases hend with
    | refused link => exact isOpen_congr link
  write := by
    intro bytes d c
    generalize h : transport.write bytes d c = r
    obtain ⟨outcome, c'⟩ := r
    obtain ⟨made, -, hc⟩ := write_adds h
    exact hc.isOpen_eq
  poll := by
    intro max d c c' outcome h
    obtain ⟨made, -, hc⟩ := drift_adds (.polled h)
    exact hc.isOpen_eq
  follow := nofun
  release := isOpen_close

/-- Between any two operations on a link all that was opened on its bus has been closed again, but
for the device that it holds itself and has claimed the interface of. -/
inductive Accounted (c : Connection) : Prop
  | closed (shut : c.isOpen = false) (balanced : Balanced c.bus.history)
  | opened {l : Link} {h : Handle} {earlier body : List Attempt} (link : c.link = some l)
    (handle : l.handle = some h) (balanced : Balanced earlier)
    (history : c.bus.history = earlier ++ ⟨.openDevice h.device, true⟩ :: body)
    (inUse : InUse h.device l.endpoints.interface l.detached true body)

namespace Accounted

variable {made : List Attempt}

theorem balanced (ha : c.Accounted) (hc : c.isOpen = false) : Balanced c.bus.history := by
  cases ha with
  | closed _ balanced => exact balanced
  | opened link handle => simp [isOpen_of_handle link handle] at hc

theorem of_same (ha : c.Accounted) (hl : c'.link = c.link) (hh : c'.bus.history = c.bus.history) :
    c'.Accounted := by
  cases ha with
  | closed shut balanced => exact .closed ((isOpen_congr hl).trans shut) (hh ▸ balanced)
  | opened link handle balanced history inUse =>
    exact .opened (hl.trans link) handle balanced (hh.trans history) inUse

/-- A device is only opened while none is open. -/
theorem attached {earlier : List Attempt} {outcome : Except TransportError Unit} (ha : c.Accounted)
    (hc : c.isOpen = false) (hadds : Bus.Adds (earlier ++ made) c.bus c'.bus)
    (hb : Balanced earlier) (hend : Attached c c' made outcome) : c'.Accounted := by
  have hearlier : Balanced (c.bus.history ++ earlier) := (ha.balanced hc).append hb
  cases hend with
  | refused link balanced =>
    refine .closed ((isOpen_congr link).trans hc) ?_
    rw [hadds.history, ← List.append_assoc]
    exact hearlier.append balanced
  | opened link handle made_eq inUse =>
    refine .opened link handle hearlier ?_ inUse
    rw [hadds.history, made_eq, List.append_assoc]

theorem carried (ha : c.Accounted) (hadds : Bus.Adds made c.bus c'.bus) (h : Carried c c' made) :
    c'.Accounted := by
  cases h with
  | idle _ same _ => rwa [same]
  | @used l l' h link handle link' same plain =>
    cases ha with
    | closed shut => simp [isOpen_of_handle link handle] at shut
    | @opened _ _ earlier body hl hh balanced history inUse =>
      cases link.symm.trans hl
      cases handle.symm.trans hh
      have hhistory : c'.bus.history = earlier ++ ⟨.openDevice h.device, true⟩ :: (body ++ made) := by
        rw [hadds.history, history, List.append_assoc, List.cons_append]
      refine .opened link' (same.handle.trans handle) balanced hhistory ?_
      rw [same.endpoints, same.detached]
      exact inUse.append plain

theorem ceased (ha : c.Accounted) (hadds : Bus.Adds made c.bus c'.bus) (h : Ceased c c' made) :
    c'.Accounted := by
  cases h with
  | idle _ same _ => rwa [same]
  | closed link handle shut hb =>
    cases ha with
    | closed shut => simp [isOpen_of_handle link handle] at shut
    | @opened l h earlier body hl hh balanced history inUse =>
      cases link.symm.trans hl
      cases handle.symm.trans hh
      refine .closed shut ?_
      rw [hadds.history, history, List.append_assoc]
      exact balanced.append (hb body inUse)

end Accounted

/-- What a session keeps of the bus: its history tells of the log, and accounts for all devices. -/
def Kept (c : Connection) : Prop := c.bus.Told ∧ c.Accounted

theorem transport_keeps : transport.Keeps isOpen Kept where
  attach := by
    intro s c c' outcome h hc ⟨ht, ha⟩
    obtain ⟨earlier, made, hadds, hb, hend⟩ := attach_adds h
    exact ⟨ht.adds hadds, ha.attached hc hadds hb hend⟩
  write := by
    intro bytes d c c' outcome h ⟨ht, ha⟩
    obtain ⟨made, hadds, hc⟩ := write_adds h
    exact ⟨ht.adds hadds, ha.carried hadds hc⟩
  drift := by
    intro c c' h ⟨ht, ha⟩
    obtain ⟨made, hadds, hc⟩ := drift_adds h
    exact ⟨ht.adds hadds, ha.carried hadds hc⟩
  release := by
    intro c ⟨ht, ha⟩
    obtain ⟨made, hadds, hc⟩ := c.close_adds
    exact ⟨ht.adds hadds, ha.ceased hadds hc⟩

end Connection
end Usb

/-- A call of somebody who uses the session while nobody else makes calls on its bus. What becomes
of the devices, and what they let succeed, is another matter. -/
def Call.Alone : Call Usb.Connection → Prop
  | .abandon => False
  | .device act => ∀ link, (act link).link = link.link ∧
    (act link).bus.history = link.bus.history ∧ (act link).bus.calls = link.bus.calls
  | _ => True

theorem Call.Alone.sole {call : Call Usb.Connection} (h : call.Alone) :
    call.Sole Usb.Connection.isOpen := by
  cases call with
  | abandon => exact h
  | device act => exact fun link => Usb.Connection.isOpen_congr (h link).1
  | _ => trivial

theorem Call.Alone.kept {act : Usb.Connection → Usb.Connection} (h : (Call.device act).Alone)
    (link : Usb.Connection) (hk : link.Kept) : (act link).Kept := by
  obtain ⟨hlink, hhistory, hcalls⟩ := h link
  refine ⟨?_, hk.2.of_same hlink hhistory⟩
  rw [Usb.Bus.Told, hcalls, hhistory]
  exact hk.1

namespace Client

open Session

/-- Whatever is done with a new session over a bus, and whatever its devices let succeed. A device
is open just when the session is ready. Then its interface is claimed and nothing has been given
back yet, and all else that was opened has been closed. When the session is not ready, or is
dropped, everything has been closed after an orderly life, and to close the link once more makes no
call. -/
theorem run_new_balanced (settings : SessionSettings) (selector : Selector) (pace : Pace)
    (link : Usb.Connection) (calls : List (Call Usb.Connection)) (hclosed : link.isOpen = false)
    (hbalanced : Usb.Balanced link.bus.history) (htold : link.bus.Told)
    (hc : ∀ call ∈ calls, call.Alone) :
    let T := Usb.Connection.transport
    let s := (run T { session := Session.new settings selector pace link } calls).session
    let dropped := (s.abandon T).link
    s.link.bus.Told ∧
    (s.link.isOpen = true ↔ s.phase = .ready) ∧
    (s.phase ≠ .ready → Usb.Balanced s.link.bus.history ∧ T.release s.link = s.link) ∧
    (s.phase = .ready → ∃ earlier d i detached body,
      s.link.bus.history = earlier ++ ⟨.openDevice d, true⟩ :: body ∧ Usb.Balanced earlier ∧
      Usb.InUse d i detached true body) ∧
    T.release (T.release s.link) = T.release s.link ∧
    dropped.isOpen = false ∧ dropped.bus.Told ∧ Usb.Balanced dropped.bus.history ∧
      T.release dropped = dropped := by
  intro T s dropped
  have hsole : ∀ call ∈ calls, call.Sole Usb.Connection.isOpen := fun call hm => (hc call hm).sole
  have hnew : (Session.new settings selector pace link).AtRest Usb.Connection.isOpen :=
    .new settings selector pace hclosed
  have ha : s.AtRest Usb.Connection.isOpen :=
    atRest_run Usb.Connection.transport_tracks hnew hsole
  have hk : s.link.Kept :=
    keeps_run Usb.Connection.transport_tracks Usb.Connection.transport_keeps hnew
      ⟨htold, .closed hclosed hbalanced⟩ hsole fun act hm => (hc _ hm).kept
  have hd : dropped.Kept := keeps_abandon Usb.Connection.transport_keeps hk
  have hgiven : dropped = T.release s.link := by
    change ((s.failAll .sessionClosed).releaseLink T).link = T.release s.link
    rw [failAll_eq]
    rfl
  have hshut : dropped.isOpen = false := hgiven ▸ Usb.Connection.isOpen_close s.link
  refine ⟨hk.1, ⟨fun ho => ?_, fun hp => (ha.inForce hp).device⟩, fun hp => ?_, fun hp => ?_, ?_,
    hshut, hd.1, hd.2.balanced hshut, Usb.Connection.close_of_closed hshut⟩
  · by_contra hp
    cases ho.symm.trans (ha.released hp).device
  · have hs := (ha.released hp).device
    exact ⟨hk.2.balanced hs, Usb.Connection.close_of_closed hs⟩
  · cases hk.2 with
    | closed shut => cases shut.symm.trans (ha.inForce hp).device
    | opened _ _ balanced history inUse => exact ⟨_, _, _, _, _, history, balanced, inUse⟩
  · exact Usb.Connection.close_of_closed (Usb.Connection.isOpen_close s.link)

/-- A link that has not been opened, on a bus with one device. A kernel driver holds its interface,
the first release will fail, and a handshake is acknowledged. -/
def guarded : Usb.Connection :=
  let ack := SessionSettings.standard.codec.encode
    ⟨0, Opcode.handshakeAck, Version.current.toBytes⟩
  let device : Usb.Device :=
    { vendor := 0x0ffc, product := 0x0002, path := ⟨1, 1⟩, kernelDriver := true
      faults := [(.release, some .io)], inbound := [(0x82, ⟨ack.toOption.getD [], none⟩)] }
  { bus := { devices := [device], calls := [.init], holders := [1], history := [⟨.init, true⟩] }
    connector := ⟨0, {}⟩ }

theorem run_new_balanced_guarded :
    let T := Usb.Connection.transport
    let s := (run T { session := Session.new .standard .standard .stepped guarded }
      [.connect]).session
    let dropped := (s.abandon T).link
    guarded.isOpen = false ∧ Usb.Balanced guarded.bus.history ∧ guarded.bus.Told ∧
      (∀ call ∈ [.connect], Call.Alone call) ∧ s.phase = .ready ∧ s.link.isOpen = true ∧
      Usb.Balanced dropped.bus.history ∧
      dropped.bus.history.filter (fun x => ¬ x.isPlain) =
        [⟨.openDevice 0, true⟩, ⟨.detach 0 0, true⟩, ⟨.claim 0 0, true⟩, ⟨.release 0 0, false⟩,
          ⟨.attach 0 0, true⟩, ⟨.release 0 0, true⟩, ⟨.closeDevice 0, true⟩] := by
  intro T s dropped
  have hb : Usb.Balanced guarded.bus.history := .idle .nil rfl rfl
  have hc : ∀ call ∈ [.connect], Call.Alone call := by simp [Call.Alone]
  have hp : s.phase = .ready := by decide +kernel
  obtain ⟨-, hopen, -, -, -, -, -, hdropped, -⟩ :=
    run_new_balanced .standard .standard .stepped guarded [.connect] rfl hb rfl hc
  exact ⟨rfl, hb, rfl, hc, hp, hopen.mpr hp, hdropped, by decide +kernel⟩

end Client
end FrameLink
