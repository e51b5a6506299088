import FrameLink.Proofs.Device.Announcement
import FrameLink.Usb.Discovery

namespace FrameLink
namespace Usb

variable {α β : Type} {m : BusM α} {Q : α → List Attempt → Prop} {d : Nat}

/-- These calls have been made meanwhile. -/
structure Bus.Adds (made : List Attempt) (b b' : Bus) : Prop where
  history : b'.history = b.history ++ made
  calls : b'.calls = b.calls ++ made.map Attempt.call

namespace Bus.Adds

variable {b b' b'' : Bus} {made more : List Attempt}

theorem refl (b : Bus) : Adds [] b b := ⟨(List.append_nil _).symm, (List.append_nil _).symm⟩

theorem trans (h : Adds made b b') (h' : Adds more b' b'') : Adds (made ++ more) b b'' where
  history := by rw [h'.history, h.history, List.append_assoc]
  calls := by rw [h'.calls, h.calls, List.map_append, List.append_assoc]

end Bus.Adds

/-- Whatever bus it is done on, the activity comes to a result and makes calls such that `Q`. -/
def Makes (m : BusM α) (Q : α → List Attempt → Prop) : Prop :=
  ∀ b, ∃ made, Bus.Adds made b (m.run b).2 ∧ Q (m.run b).1 made

namespace Makes

variable {R : α → List Attempt → Prop}

theorem mono (h : Makes m Q) (hr : ∀ a made, Q a made → R a made) : Makes m R := by
  intro b
  obtain ⟨made, hadds, hq⟩ := h b
  exact ⟨made, hadds, hr _ _ hq⟩

theorem pure {a : α} (h : Q a []) : Makes (Pure.pure a) Q := fun b => ⟨[], .refl b, h⟩

theorem bind {f : α → BusM β} {R : β → List Attempt → Prop} (h : Makes m Q)
    (hf : ∀ a made, Q a made → Makes (f a) fun r more => R r (made ++ more)) :
    Makes (m >>= f) R := by
  intro b
  obtain ⟨made, hadds, hq⟩ := h b
  obtain ⟨more, hadds', hr⟩ := hf _ _ hq (m.run b).2
  exact ⟨made ++ more, hadds.trans hadds', hr⟩

theorem silent_bind {f : α → BusM β} {R : β → List Attempt → Prop}
    (h : Makes m fun _ made => made = []) (hf : ∀ a, Makes (f a) R) : Makes (m >>= f) R :=
  h.bind fun a made hm => by
    rw [hm]
    exact hf a

end Makes

namespace Bus

theorem makes_get : Makes (get : BusM Bus) fun _ made => made = [] := fun b => ⟨[], .refl b, rfl⟩

theorem makes_log (c : Call) (ok : Bool) : Makes (log c ok) fun _ made => made = [⟨c, ok⟩] :=
  fun _ => ⟨_, ⟨rfl, rfl⟩, rfl⟩

theorem makes_device (d : Nat) : Makes (device d) fun _ made => made = [] :=
  fun b => ⟨[], .refl b, rfl⟩

theorem makes_updateDevice (d : Nat) (f : Device → Device) :
    Makes (updateDevice d f) fun _ made => made = [] :=
  fun _ => ⟨[], ⟨(List.append_nil _).symm, (List.append_nil _).symm⟩, rfl⟩

theorem makes_outcome (d : Nat) (p : FaultPoint) : Makes (outcome d p) fun _ made => made = [] := by
  refine (makes_device d).silent_bind fun device => ?_
  dsimp only
  refine (makes_updateDevice d _).silent_bind fun _ => ?_
  split <;> exact .pure rfl

theorem makes_call (c : Call) (d : Nat) (p : FaultPoint) :
    Makes (call c d p) fun r made => made = [⟨c, r.isOk⟩] := by
  refine (makes_outcome d p).silent_bind fun r => ?_
  refine (makes_log c r.isOk).bind fun _ made hm => .pure ?_
  rw [hm, List.append_nil]

theorem makes_call_bind {c : Call} {p : FaultPoint} {f : Except UsbError Unit → BusM β}
    {R : β → List Attempt → Prop}
    (hf : ∀ r, Makes (f r) fun b more => R b (⟨c, r.isOk⟩ :: more)) :
    Makes (call c d p >>= f) R :=
  (makes_call c d p).bind fun r made hm => by
    rw [hm]
    exact hf r

theorem makes_hold (context : ContextId) : Makes (hold context) fun _ made => made = [] :=
  fun _ => ⟨[], ⟨(List.append_nil _).symm, (List.append_nil _).symm⟩, rfl⟩

theorem makes_letGo (context : ContextId) :
    Makes (letGo context) fun _ made => made = [] ∨ made = [⟨.exit, true⟩] := by
  have hless : Makes (modify fun b : Bus => { b with holders := b.holders.modify context (· - 1) })
      fun _ made => made = [] :=
    fun b => ⟨[], ⟨(List.append_nil _).symm, (List.append_nil _).symm⟩, rfl⟩
  refine hless.silent_bind fun _ => makes_get.silent_bind fun b => ?_
  split
  · exact (makes_log .exit true).mono fun _ _ => .inr
  · exact .pure (.inl rfl)

theorem makes_enumerate : Makes enumerate fun r made => made = [⟨.enumerate, r.isOk⟩] := by
  intro b
  refine ⟨[⟨.enumerate, b.listFault.isNone⟩], ?_⟩
  obtain ⟨initFault, _ | e, devices, calls, holders, history⟩ := b
  · exact ⟨⟨rfl, rfl⟩, rfl⟩
  · exact ⟨⟨rfl, rfl⟩, rfl⟩

theorem makes_readDescriptor (d : Nat) : Makes (readDescriptor d) fun _ made => made = [] :=
  makes_outcome d .descriptor

theorem makes_receive (d : Nat) (endpoint : UInt8) (room : Nat) :
    Makes (receive d endpoint room) fun _ made => made = [] :=
  (makes_device d).silent_bind fun _ => (makes_updateDevice d _).silent_bind fun _ => .pure rfl

theorem makes_deliver (d : Nat) (data : Bytes) :
    Makes (deliver d data) fun _ made => made = [] := by
  refine (makes_device d).silent_bind fun device => ?_
  refine (makes_updateDevice d _).silent_bind fun _ => ?_
  split <;> exact .pure rfl

end Bus

namespace Handle

open Bus

theorem makes_make (context : ContextId) (d : Nat) :
    Makes (make context d) fun r made =>
      made = [⟨.openDevice d, r.isOk⟩] ∧ ∀ h, r = .ok h → h.device = d ∧ h.claimed = [] := by
  refine makes_call_bind fun r => ?_
  cases r with
  | error e => exact .pure ⟨rfl, nofun⟩
  | ok =>
    refine (makes_hold context).silent_bind fun _ => .pure ⟨rfl, fun h he => ?_⟩
    cases he
    exact ⟨rfl, rfl⟩

theorem makes_releaseAll (d : Nat) (interfaces : List UInt8) :
    Makes (releaseAll d interfaces) fun _ made =>
      made.map Attempt.call = interfaces.map (.release d) := by
  induction interfaces with
  | nil => exact .pure rfl
  | cons i rest ih =>
    refine makes_call_bind fun r => ih.mono fun _ more hr => ?_
    rw [List.map_cons, hr, List.map_cons]

theorem makes_drop (h : Handle) :
    Makes h.drop fun _ made => ∃ releases after,
      made = releases ++ ⟨.closeDevice h.device, true⟩ :: after ∧
      releases.map Attempt.call = h.claimed.map (.release h.device) ∧
      (after = [] ∨ after = [⟨.exit, true⟩]) := by
  refine (makes_releaseAll h.device h.claimed).bind fun _ releases hr => ?_
  refine (makes_log (.closeDevice h.device) true).bind fun _ closed hc => ?_
  refine (makes_letGo h.context).mono fun _ after ha => ⟨releases, after, ?_, hr, ha⟩
  rw [hc]
  rfl

theorem makes_claim (h : Handle) (i : UInt8) :
    Makes (h.claim i) fun r made => made = [⟨.claim h.device i, r.1.isOk⟩] ∧
      r.2 = { h with claimed := if r.1.isOk then h.claimed ++ [i] else h.claimed } := by
  refine makes_call_bind fun r => ?_
  cases r <;> exact .pure ⟨rfl, rfl⟩

theorem makes_release (h : Handle) (i : UInt8) :
    Makes (h.release i) fun r made => made = [⟨.release h.device i, r.1.isOk⟩] ∧
      r.2.device = h.device := by
  refine makes_call_bind fun r => ?_
  cases r <;> exact .pure ⟨rfl, rfl⟩

theorem makes_driverActive (h : Handle) (i : UInt8) :
    Makes (h.driverActive i) fun r made => made = [⟨.driverActive h.device i, r.isOk⟩] := by
  refine makes_call_bind fun r => ?_
  cases r with
  | error e => exact .pure rfl
  | ok => exact (makes_device h.device).silent_bind fun _ => .pure rfl

theorem makes_detach (h : Handle) (i : UInt8) :
    Makes (h.detach i) fun r made => made = [⟨.detach h.device i, r.isOk⟩] := by
  refine makes_call_bind fun r => ?_
  cases r with
  | error e => exact .pure rfl
  | ok => exact (makes_updateDevice h.device _).silent_bind fun _ => .pure rfl

theorem makes_attach (h : Handle) (i : UInt8) :
    Makes (h.attach i) fun r made => made = [⟨.attach h.device i, r.isOk⟩] := by
  refine makes_call_bind fun r => ?_
  cases r with
  | error e => exact .pure rfl
  | ok => exact (makes_updateDevice h.device _).silent_bind fun _ => .pure rfl

end Handle
end Usb
end FrameLink
