import FrameLink.Proofs.Usb.Lives
import FrameLink.Usb.Connection

namespace FrameLink
namespace Usb

namespace Handle

theorem plain_readString (h : Handle) (index : Nat) (text : StringDescriptor) :
    Makes (h.readString index text) fun _ made => Plain h.device made := by
  have hlog (ok : Bool) {r : Option String} :
      Makes (do Bus.log (.readString h.device index) ok; return r)
        fun _ made => Plain h.device made := by
    refine (Bus.makes_log _ ok).bind fun _ made hm => .pure ?_
    rw [hm, List.append_nil]
    exact .singleton rfl rfl
  cases text with
  | absent => exact .pure (.nil _)
  | content bs => exact hlog true
  | unreadable e => exact hlog false

theorem plain_transfer {α β : Type} (h : Handle) {m : BusM α} {c : Call}
    (hm : Makes m fun _ made => made = []) (hu : c.user? = some h.device)
    (hp : ∀ ok, (⟨c, ok⟩ : Attempt).isPlain = true) (settle : α → Except UsbError β) :
    Makes (do let a ← m; Bus.log c (settle a).isOk; return settle a)
      fun _ made => Plain h.device made := by
  refine hm.silent_bind fun a => (Bus.makes_log c _).bind fun _ made hmade => .pure ?_
  rw [hmade, List.append_nil]
  exact .singleton hu (hp _)

theorem plain_writeBulk (h : Handle) (endpoint : UInt8) (data : Bytes) (timeout : Duration) :
    Makes (h.writeBulk endpoint data timeout) fun _ made => Plain h.device made := by
  rw [writeBulk]
  split
  · exact .pure (.nil _)
  · exact h.plain_transfer (Bus.makes_deliver h.device data) rfl (fun _ => rfl) _

theorem plain_readBulk (h : Handle) (endpoint : UInt8) (room : Nat) (timeout : Duration) :
    Makes (h.readBulk endpoint room timeout) fun _ made => Plain h.device made := by
  rw [readBulk]
  split
  · exact .pure (.nil _)
  · exact h.plain_transfer (Bus.makes_receive h.device endpoint room) rfl (fun _ => rfl) _

theorem plain_readInterrupt (h : Handle) (endpoint : UInt8) (room : Nat) (timeout : Duration) :
    Makes (h.readInterrupt endpoint room timeout) fun _ made => Plain h.device made := by
  rw [readInterrupt]
  split
  · exact .pure (.nil _)
  · exact h.plain_transfer (Bus.makes_receive h.device endpoint room) rfl (fun _ => rfl) _

end Handle

namespace Link

theorem makes_reattach {α : Type} {m : BusM α} {R : α → List Attempt → Prop} (h : Handle) (i : UInt8)
    (detached : Bool)
    (hm : ∀ back : List Attempt, back.map Attempt.call =
      (if detached then [.attach h.device i] else []) → Makes m fun a more => R a (back ++ more)) :
    Makes (if detached then (do let _ ← h.attach i; m) else m) R := by
  cases detached with
  | false => exact hm [] rfl
  | true =>
    refine (h.makes_attach i).bind fun r back hback => hm back ?_
    rw [hback]
    rfl

theorem makes_detachDriver (h : Handle) (i : UInt8) :
    Makes (detachDriver h i) fun detached made => InUse h.device i detached false made := by
  refine (h.makes_driverActive i).bind fun r made hm => ?_
  have hu : InUse h.device i false false made := by
    rw [hm]
    exact (InUse.nil h.device i).append (.singleton rfl rfl)
  split
  · refine (h.makes_detach i).bind fun r more hm => .pure ?_
    rw [hm, List.append_nil]
    exact hu.detach r.isOk
  · exact .pure (by rwa [List.append_nil])

/-- What has been done with a link that has just been opened, or that could not be. -/
def Opened (endpoints : Endpoints) (made : List Attempt) : Except TransportError Link → Prop
  | .error _ => Balanced made
  | .ok l => ∃ h body, l.handle = some h ∧ l.endpoints = endpoints ∧
      made = ⟨.openDevice h.device, true⟩ :: body ∧
      InUse h.device endpoints.interface l.detached true body

theorem makes_make (context : ContextId) (endpoints : Endpoints) (d : Nat) :
    Makes (make context endpoints d) fun r made => Opened endpoints made r := by
  refine (Bus.makes_device d).silent_bind fun device => ?_
  refine (Handle.makes_make context d).bind fun r opened ⟨hopened, hh⟩ => ?_
  cases r with
  | error e =>
    rw [hopened]
    exact .pure (.idle .nil rfl rfl)
  | ok h =>
    obtain ⟨rfl, hnone⟩ := hh h rfl
    refine (makes_detachDriver h endpoints.interface).bind fun detached body hu => ?_
    refine (h.makes_claim endpoints.interface).bind fun ⟨r, h'⟩ claim ⟨hclaim, hh'⟩ => ?_
    dsimp only at hclaim hh'
    cases r with
    | error e =>
      obtain rfl : h' = h := hh'
      dsimp only
      refine makes_reattach h' endpoints.interface detached fun back hback => ?_
      refine h'.makes_drop.bind fun _ dropped ⟨rest, after, hdropped, hrest, hafter⟩ => .pure ?_
      have hg : GivenBack h'.device endpoints.interface detached false [] back rest :=
        ⟨rfl, hback, _, hrest⟩
      have hb := Balanced.of_inUse (hu.claim false) hg (fun _ _ => by simp) hafter
      rw [hopened, hclaim, hdropped]
      simpa [Opened, Except.isOk, Except.toBool] using hb
    | ok =>
      refine .pure ⟨h', body ++ claim, rfl, rfl, ?_, ?_⟩
      · rw [hopened, hh']
        simp [Except.isOk, Except.toBool]
      · rw [hclaim, hh']
        exact hu.claim true

/-- A link that is closed gives back what it holds. -/
theorem makes_close {l : Link} {h : Handle} (hh : l.handle = some h) :
    Makes l.close fun l' made => l'.handle = none ∧
      ∀ body, InUse h.device l.endpoints.interface l.detached true body →
        Balanced (⟨.openDevice h.device, true⟩ :: body ++ made) := by
  rw [close, hh]
  dsimp only
  refine (h.makes_release l.endpoints.interface).bind fun ⟨r, h'⟩ first ⟨hfirst, hd⟩ => ?_
  dsimp only at hfirst hd ⊢
  refine makes_reattach h' l.endpoints.interface l.detached fun back hback => ?_
  refine h'.makes_drop.bind fun _ dropped ⟨rest, after, hdropped, hrest, hafter⟩ => ?_
  refine .pure ⟨rfl, fun body hu => ?_⟩
  rw [hd] at hback hrest hdropped
  have hg : GivenBack h.device l.endpoints.interface l.detached true first back rest :=
    ⟨by rw [hfirst]; rfl, hback, _, hrest⟩
  have hb := Balanced.of_inUse hu hg nofun hafter
  rw [hdropped]
  simpa using hb

theorem plain_fetch (h : Handle) (endpoint : UInt8) (room : Nat) :
    Makes (fetch h endpoint room) fun _ made => Plain h.device made := by
  refine (h.plain_readBulk endpoint room fetchTimeout).bind fun r made hp => ?_
  split <;> exact .pure (by rwa [List.append_nil])

theorem plain_fetchMessage (h : Handle) (endpoint : UInt8) (size retries : Nat) :
    Makes (fetchMessage (fetch h endpoint) size retries) fun _ made => Plain h.device made := by
  intro b
  refine fetchInto_keeps (P := fun b' => ∃ made, Bus.Adds made b b' ∧ Plain h.device made)
    (fun room b' ⟨made, hadds, hp⟩ => ?_) _ _ _ ⟨[], .refl b, .nil _⟩
  obtain ⟨more, hadds', hp'⟩ := plain_fetch h endpoint room b'
  exact ⟨made ++ more, hadds.trans hadds', hp.append hp'⟩

theorem plain_readAnnounced (h : Handle) (e : Endpoints) (timeout : Duration) :
    Makes (readAnnounced h e timeout) fun _ made => Plain h.device made := by
  refine (h.plain_readInterrupt e.announce _ timeout).bind fun r made hp => ?_
  cases r with
  | error e => exact .pure (by rwa [List.append_nil])
  | ok header =>
    dsimp only
    split
    · exact .pure (by rwa [List.append_nil])
    · exact (plain_fetchMessage h _ _ _).mono fun _ _ => hp.append
    · exact .pure (by rwa [List.append_nil])

theorem plain_receive (h : Handle) (e : Endpoints) (max : Nat) (timeout : Duration) :
    Makes (receive h e max timeout) fun _ made => Plain h.device made := by
  rw [receive]
  split
  · exact plain_readAnnounced h e timeout
  · exact (h.plain_readBulk e.input max timeout).bind fun _ _ hp => .pure (by rwa [List.append_nil])
  · exact (h.plain_readInterrupt e.input max timeout).bind fun _ _ hp =>
      .pure (by rwa [List.append_nil])

structure Same (l l' : Link) : Prop where
  handle : l'.handle = l.handle
  endpoints : l'.endpoints = l.endpoints
  detached : l'.detached = l.detached

theorem same_note {α : Type} (l : Link) (outcome : Except TransportError α) :
    Same l (l.note outcome) := by
  rw [note.eq_def]
  split <;> exact ⟨rfl, rfl, rfl⟩

theorem plain_write {l : Link} {h : Handle} (hh : l.handle = some h) (data : Bytes)
    (timeout : Duration) :
    Makes (l.write data timeout) fun r made => Same l r.2 ∧ Plain h.device made := by
  rw [write, hh]
  refine (h.plain_writeBulk l.endpoints.output data timeout).bind fun r made hp => .pure ?_
  rw [List.append_nil]
  exact ⟨l.same_note _, hp⟩

theorem plain_read {l : Link} {h : Handle} (hh : l.handle = some h) (max : Nat)
    (timeout : Duration) :
    Makes (l.read max timeout) fun r made => Same l r.2 ∧ Plain h.device made := by
  rw [read, hh]
  refine (plain_receive h l.endpoints max timeout).bind fun r made hp => .pure ?_
  rw [List.append_nil]
  exact ⟨l.same_note _, hp⟩

theorem write_of_closed {l : Link} (hh : l.handle = none) (data : Bytes) (timeout : Duration) :
    l.write data timeout = pure (.error .closed, l) := by
  rw [write, hh]

theorem read_of_closed {l : Link} (hh : l.handle = none) (max : Nat) (timeout : Duration) :
    l.read max timeout = pure (.error .closed, l) := by
  rw [read, hh]

theorem close_of_closed {l : Link} (hh : l.handle = none) : l.close = pure l := by
  rw [close, hh]

end Link

namespace Connector

theorem balanced_readSerial (c : Connector) (d : Nat) :
    Makes (c.readSerial d) fun _ made => Balanced made := by
  refine (Bus.makes_device d).silent_bind fun device => ?_
  refine (Handle.makes_make c.context d).bind fun r opened ⟨hopened, hh⟩ => ?_
  cases r with
  | error e =>
    rw [hopened]
    exact .pure (.idle .nil rfl rfl)
  | ok h =>
    obtain ⟨rfl, hnone⟩ := hh h rfl
    refine (h.plain_readString serialIndex device.serial).bind fun serial body hp => ?_
    refine h.makes_drop.bind fun _ dropped ⟨rest, after, hdropped, hrest, hafter⟩ => .pure ?_
    have hu := (InUse.nil h.device 0).append hp
    have hg : GivenBack h.device 0 false false [] [] rest := ⟨rfl, rfl, _, hrest⟩
    have hb := Balanced.of_inUse hu hg nofun hafter
    rw [hopened, hdropped]
    simpa [Except.isOk, Except.toBool] using hb

theorem balanced_isMatch (c : Connector) (s : Selector) (d : Nat) :
    Makes (c.isMatch s d) fun _ made => Balanced made := by
  refine (Bus.makes_device d).silent_bind fun device => ?_
  split
  · split
    · exact (c.balanced_readSerial d).bind fun _ _ hb => .pure (by rwa [List.append_nil])
    · exact .pure .nil
  · exact .pure .nil

theorem balanced_findAmong (c : Connector) (s : Selector) (places : List Nat) :
    Makes (c.findAmong s places) fun _ made => Balanced made := by
  induction places with
  | nil => exact .pure .nil
  | cons d rest ih =>
    refine (Bus.makes_readDescriptor d).silent_bind fun r => ?_
    cases r with
    | error e => exact ih
    | ok =>
      refine (c.balanced_isMatch s d).bind fun found made hb => ?_
      split
      · exact .pure (by rwa [List.append_nil])
      · exact ih.mono fun _ _ => hb.append

theorem balanced_find (c : Connector) (s : Selector) :
    Makes (c.find s) fun _ made => Balanced made := by
  refine Bus.makes_enumerate.bind fun r made hm => ?_
  have hb : Balanced made := by
    rw [hm]
    exact .idle .nil rfl rfl
  cases r with
  | error e => exact .pure (by rwa [List.append_nil])
  | ok places =>
    refine (c.balanced_findAmong s places).bind fun found more hmore => ?_
    split <;> exact .pure (by rw [List.append_nil]; exact hb.append hmore)

/-- What has been done with a link that has just been connected, or that could not be. -/
theorem makes_connect (c : Connector) (s : Selector) :
    Makes (c.connect s) fun r made => ∃ earlier more, made = earlier ++ more ∧ Balanced earlier ∧
      Link.Opened c.endpoints more r := by
  refine (c.balanced_find s).bind fun r earlier hb => ?_
  cases r with
  | error e => exact .pure ⟨earlier, [], rfl, hb, .nil⟩
  | ok d =>
    exact (Link.makes_make c.context c.endpoints d).mono fun _ more ho => ⟨earlier, more, rfl, hb, ho⟩

end Connector
end Usb
end FrameLink
