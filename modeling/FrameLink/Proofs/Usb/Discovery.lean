import FrameLink.Usb.Discovery
import Mathlib.Data.List.Basic
import Mathlib.Data.List.Find
import Mathlib.Data.List.Forall2

namespace FrameLink
namespace Usb

open Bus

variable {α β : Type} {d : Nat} {x y z : Device} {m : BusM α} {a : α}

namespace Device

def outcome (x : Device) (p : FaultPoint) : Except UsbError Unit :=
  match (firstFault p x.faults).1 with
  | some e => .error e
  | none => .ok ()

/-- The device with that outcome used up. -/
def spend (x : Device) (p : FaultPoint) : Device := { x with faults := (firstFault p x.faults).2 }

end Device

def StringDescriptor.text? : StringDescriptor → Option String
  | .absent => none
  | .content bs => String.fromUTF8? ⟨(bs.take Handle.maxString).toArray⟩
  | .unreadable _ => none

namespace Device

def told (x : Device) (s : StringDescriptor) : Option String :=
  match x.outcome .opening with
  | .error _ => none
  | .ok () => s.text?

def summary (x : Device) : Summary where
  vendor := x.vendor
  product := x.product
  path := x.path
  manufacturerName := x.told x.manufacturerName
  productName := x.told x.productName
  serial := x.told x.serial

def summary? (x : Device) : Option Summary :=
  match x.outcome .descriptor with
  | .error _ => none
  | .ok () => some x.summary

theorem firstFault_firstFault {p q : FaultPoint} (h : p ≠ q)
    (faults : List (FaultPoint × Option UsbError)) :
    (firstFault q (firstFault p faults).2).1 = (firstFault q faults).1 := by
  induction faults with
  | nil => rfl
  | cons fault rest ih =>
    obtain ⟨r, outcome⟩ := fault
    by_cases hp : r = p
    · have hq : r ≠ q := fun he => h (hp.symm.trans he)
      simp only [firstFault, if_pos hp, if_neg hq]
    · by_cases hq : r = q
      · simp only [firstFault, if_neg hp, if_pos hq]
      · simp only [firstFault, if_neg hp, if_neg hq, ih]

theorem summary_spend (x : Device) : (x.spend .descriptor).summary = x.summary := by
  have h : (x.spend .descriptor).outcome .opening = x.outcome .opening := by
    rw [outcome, outcome, spend, firstFault_firstFault (by decide)]
  have ht (s : StringDescriptor) : (x.spend .descriptor).told s = x.told s := by
    rw [told, told, h]
  simp only [summary, ht]
  rfl

end Device

/-- Wherever the device `x` stands in place `d`, the activity comes to `a` and leaves it as `y`, and
all other devices as they are. -/
def Inquiry (d : Nat) (x : Device) (m : BusM α) (a : α) (y : Device) : Prop :=
  ∀ b, b.devices[d]? = some x → (m.run b).1 = a ∧ (m.run b).2.devices = b.devices.set d y

namespace Inquiry

theorem pure (a : α) : Inquiry d x (Pure.pure a) a x := by
  intro b hb
  obtain ⟨hlt, rfl⟩ := List.getElem?_eq_some_iff.mp hb
  exact ⟨rfl, (List.set_getElem_self hlt).symm⟩

theorem standing (h : Inquiry d x m a y) {b : Bus} (hb : b.devices[d]? = some x) :
    (m.run b).2.devices[d]? = some y := by
  obtain ⟨hlt, -⟩ := List.getElem?_eq_some_iff.mp hb
  rw [(h b hb).2, List.getElem?_set_self hlt]

theorem bind {f : α → BusM β} {r : β} (h : Inquiry d x m a y) (hf : Inquiry d y (f a) r z) :
    Inquiry d x (m >>= f) r z := by
  intro b hb
  obtain ⟨hresult, hdevices⟩ := h b hb
  obtain ⟨hr, hz⟩ := hf (m.run b).2 (h.standing hb)
  rw [hdevices, List.set_set] at hz
  rw [← hresult] at hr hz
  exact ⟨hr, hz⟩

theorem run_bind (h : Inquiry d x m a y) {b : Bus} (hb : b.devices[d]? = some x) (f : α → BusM β) :
    (m >>= f).run b = (f a).run (m.run b).2 := by
  rw [← (h b hb).1]
  rfl

theorem device (d : Nat) (x : Device) : Inquiry d x (Bus.device d) x x := by
  intro b hb
  obtain ⟨hlt, rfl⟩ := List.getElem?_eq_some_iff.mp hb
  refine ⟨?_, (List.set_getElem_self hlt).symm⟩
  exact (congrArg (Option.getD · default) hb)

theorem of_devices_eq {u : Unit} {m : BusM Unit} (h : ∀ b, (m.run b).2.devices = b.devices) :
    Inquiry d x m u x := by
  intro b hb
  rw [h]
  exact ⟨rfl, (pure u b hb).2⟩

theorem log (c : Call) (ok : Bool) : Inquiry d x (Bus.log c ok) () x :=
  of_devices_eq fun _ => rfl

theorem updateDevice (f : Device → Device) : Inquiry d x (Bus.updateDevice d f) () (f x) := by
  intro b hb
  refine ⟨rfl, ?_⟩
  have h : ((Bus.updateDevice d f).run b).2.devices = b.devices.modify d f := rfl
  rw [h, List.modify_eq_set_getElem?, hb]
  rfl

theorem outcome (p : FaultPoint) : Inquiry d x (Bus.outcome d p) (x.outcome p) (x.spend p) := by
  refine (device d x).bind ?_
  refine (updateDevice fun device => { device with faults := (firstFault p x.faults).2 }).bind ?_
  rw [Device.outcome]
  cases (firstFault p x.faults).1 with
  | none => exact pure _
  | some e => exact pure _

theorem readDescriptor (d : Nat) (x : Device) :
    Inquiry d x (Bus.readDescriptor d) (x.outcome .descriptor) (x.spend .descriptor) :=
  outcome .descriptor

theorem call (c : Call) (p : FaultPoint) : Inquiry d x (Bus.call c d p) (x.outcome p) (x.spend p) :=
  (outcome p).bind ((log c _).bind (pure _))

theorem letGo (context : ContextId) : Inquiry d x (Bus.letGo context) () x := by
  refine of_devices_eq fun b => ?_
  let after : Bus := { b with holders := b.holders.modify context (· - 1) }
  have hrun : (Bus.letGo context).run b =
      (if after.holders[context]? = some 0 then Bus.log .exit true else Pure.pure ()).run after := rfl
  rw [hrun]
  split
  · rfl
  · rfl

theorem make (context : ContextId) :
    Inquiry d x (Handle.make context d) ((x.outcome .opening).map fun _ => ⟨context, d, []⟩)
      (x.spend .opening) := by
  refine (call _ .opening).bind ?_
  cases x.outcome .opening with
  | error e => exact pure _
  | ok => exact (of_devices_eq (u := ()) fun _ => rfl).bind (pure _)

theorem drop (context : ContextId) (e : Nat) : Inquiry d x (Handle.drop ⟨context, e, []⟩) () x :=
  (pure ()).bind ((log _ true).bind (letGo context))

theorem readString (h : Handle) (index : Nat) (s : StringDescriptor) :
    Inquiry d x (h.readString index s) s.text? x := by
  cases s with
  | absent => exact pure _
  | content bs => exact (log _ true).bind (pure _)
  | unreadable e => exact (log _ false).bind (pure _)

theorem readSerial (c : Connector) :
    Inquiry d x (c.readSerial d) (x.told x.serial) (x.spend .opening) := by
  refine (device d x).bind ((make c.context).bind ?_)
  rw [Device.told]
  cases x.outcome .opening with
  | error e => exact pure _
  | ok => exact (readString _ _ _).bind ((drop _ _).bind (pure _))

theorem summarize (c : Connector) :
    Inquiry d x (c.summarize d) x.summary (x.spend .opening) := by
  refine (device d x).bind ((make c.context).bind ?_)
  simp only [Device.summary, Device.told]
  cases x.outcome .opening with
  | error e => exact pure _
  | ok =>
    exact (readString _ _ _).bind ((readString _ _ _).bind
      ((readString _ _ _).bind ((drop _ _).bind (pure _))))

end Inquiry

/-- The device that an entry is about is one that the selector asks for. -/
structure Summary.Suits (e : Summary) (s : Selector) : Prop where
  vendor : e.vendor = s.vendor
  product : e.product = s.product
  path : ∀ path, s.path = some path → e.path = path
  serial : ∀ serial, s.serial = some serial → e.serial = some serial

def Summary.suits (e : Summary) (s : Selector) : Bool :=
  s.matchesIds e.vendor e.product && s.matchesPath e.path && s.matchesSerial e.serial

theorem Summary.suits_iff {e : Summary} {s : Selector} : e.suits s = true ↔ e.Suits s := by
  obtain ⟨vendor, product, serial, path⟩ := s
  have hpath : Selector.matchesPath ⟨vendor, product, serial, path⟩ e.path = true ↔
      ∀ p, path = some p → e.path = p := by
    cases path with
    | none => simp [Selector.matchesPath]
    | some p =>
      simp only [Selector.matchesPath, beq_iff_eq, Option.some.injEq, forall_eq']
      exact eq_comm
  have hserial : Selector.matchesSerial ⟨vendor, product, serial, path⟩ e.serial = true ↔
      ∀ n, serial = some n → e.serial = some n := by
    cases serial <;> simp [Selector.matchesSerial]
  rw [suits, Bool.and_eq_true, Bool.and_eq_true, hpath, hserial, Selector.matchesIds,
    Bool.and_eq_true, beq_iff_eq, beq_iff_eq]
  exact ⟨fun ⟨⟨⟨hv, hp⟩, hq⟩, hs⟩ => ⟨hv.symm, hp.symm, hq, hs⟩,
    fun ⟨hv, hp, hq, hs⟩ => ⟨⟨⟨hv.symm, hp.symm⟩, hq⟩, hs⟩⟩

theorem Summary.suits_eq_false_iff {e : Summary} {s : Selector} :
    e.suits s = false ↔ ¬ e.Suits s := by
  rw [← suits_iff, Bool.not_eq_true]

instance (e : Summary) (s : Selector) : Decidable (e.Suits s) :=
  decidable_of_iff (e.suits s = true) Summary.suits_iff

theorem Summary.suits_of_no_serial {e : Summary} {s : Selector} (h : e.serial = none) :
    e.Suits s ↔ s.serial = none ∧ e.vendor = s.vendor ∧ e.product = s.product ∧
      ∀ path, s.path = some path → e.path = path := by
  constructor
  · rintro ⟨hv, hp, hpath, hserial⟩
    refine ⟨Option.eq_none_iff_forall_ne_some.mpr fun n hn => ?_, hv, hp, hpath⟩
    cases h.symm.trans (hserial n hn)
  · rintro ⟨hnone, hv, hp, hpath⟩
    refine ⟨hv, hp, hpath, fun n hn => ?_⟩
    cases hnone.symm.trans hn

/-- A device is asked for its serial number only if the rest matches, and if one is wanted. -/
theorem Inquiry.isMatch (c : Connector) (s : Selector) (d : Nat) (x : Device) :
    ∃ y, Inquiry d x (c.isMatch s d) (x.summary.suits s) y := by
  have hsuits : x.summary.suits s = (s.matchesIds x.vendor x.product && s.matchesPath x.path &&
    s.matchesSerial (x.told x.serial)) := rfl
  rw [hsuits, Connector.isMatch]
  by_cases h : s.matchesIds x.vendor x.product ∧ s.matchesPath x.path
  · rw [h.1, h.2, Bool.and_self, Bool.true_and]
    by_cases hs : s.serial.isSome
    · refine ⟨x.spend .opening, (device d x).bind ?_⟩
      rw [if_pos h, if_pos hs]
      exact (readSerial c).bind (pure _)
    · have hany : s.matchesSerial (x.told x.serial) = true := by
        rw [Option.not_isSome_iff_eq_none] at hs
        rw [Selector.matchesSerial, hs]
      refine ⟨x, (device d x).bind ?_⟩
      rw [if_pos h, if_neg hs, hany]
      exact pure _
  · have hno : (s.matchesIds x.vendor x.product && s.matchesPath x.path) = false := by
      rwa [← Bool.not_eq_true, Bool.and_eq_true]
    refine ⟨x, (device d x).bind ?_⟩
    rw [if_neg h, hno, Bool.false_and]
    exact pure _

namespace Bus

/-- The entry of the device in a place. -/
def summary? (b : Bus) (d : Nat) : Option Summary := b.devices[d]?.bind Device.summary?

variable {b b' : Bus} {rest : List Nat}

theorem summary?_set (h : b'.devices = b.devices.set d y) (hn : (d :: rest).Nodup) :
    ∀ e ∈ rest, b'.summary? e = b.summary? e := by
  intro e he
  have hne : d ≠ e := fun heq => (List.nodup_cons.mp hn).1 (heq ▸ he)
  rw [summary?, summary?, h, List.getElem?_set_ne hne]

end Bus

namespace Connector

variable {b : Bus} {rest places : List Nat} {e : UsbError} {s : Selector}

theorem devices_after {m : BusM α} {m' : BusM β} {a : α} {a' : β} {x y z : Device}
    (h : Inquiry d x m a y) (h' : Inquiry d y m' a' z) (hd : b.devices[d]? = some x) :
    (m'.run (m.run b).2).2.devices = b.devices.set d z := by
  rw [(h' _ (h.standing hd)).2, (h b hd).2, List.set_set]

theorem run_summarizeAll (c : Connector) (hn : places.Nodup)
    (hl : ∀ d ∈ places, d < b.devices.length) :
    ((c.summarizeAll places).run b).1 = places.filterMap b.summary? := by
  induction places generalizing b with
  | nil => rfl
  | cons d rest ih =>
    obtain ⟨x, hd⟩ : ∃ x, b.devices[d]? = some x :=
      ⟨_, List.getElem?_eq_getElem (hl d List.mem_cons_self)⟩
    have hrest {b' : Bus} {y : Device} (hb' : b'.devices = b.devices.set d y) :
        ((c.summarizeAll rest).run b').1 = rest.filterMap b.summary? := by
      rw [ih (List.nodup_cons.mp hn).2 ?_, List.filterMap_congr (Bus.summary?_set hb' hn)]
      intro e he
      rw [hb', List.length_set]
      exact hl e (List.mem_cons_of_mem d he)
    have hq := Inquiry.readDescriptor d x
    have hs := Inquiry.summarize (d := d) (x := x.spend .descriptor) c
    rw [Device.summary_spend] at hs
    rw [summarizeAll, hq.run_bind hd, List.filterMap_cons, Bus.summary?, hd, Option.bind_some,
      Device.summary?]
    cases hr : x.outcome .descriptor with
    | error e => exact hrest (hq b hd).2
    | ok =>
      dsimp only
      rw [hs.run_bind (hq.standing hd)]
      exact congrArg (List.cons x.summary) (hrest (devices_after hq hs hd))

theorem run_findAmong (c : Connector) (s : Selector) (hn : places.Nodup)
    (hl : ∀ d ∈ places, d < b.devices.length) :
    ((c.findAmong s places).run b).1 = places.find? fun d => (b.summary? d).any (·.suits s) := by
  induction places generalizing b with
  | nil => rfl
  | cons d rest ih =>
    obtain ⟨x, hd⟩ : ∃ x, b.devices[d]? = some x :=
      ⟨_, List.getElem?_eq_getElem (hl d List.mem_cons_self)⟩
    have hrest {b' : Bus} {y : Device} (hb' : b'.devices = b.devices.set d y) :
        ((c.findAmong s rest).run b').1 = rest.find? fun d => (b.summary? d).any (·.suits s) := by
      have he := Bus.summary?_set hb' hn
      rw [ih (List.nodup_cons.mp hn).2 ?_, List.find?_congr fun e h => by rw [he e h]]
      intro e he
      rw [hb', List.length_set]
      exact hl e (List.mem_cons_of_mem d he)
    have hq := Inquiry.readDescriptor d x
    obtain ⟨y, hm⟩ := Inquiry.isMatch c s d (x.spend .descriptor)
    rw [Device.summary_spend] at hm
    rw [findAmong, hq.run_bind hd, List.find?_cons, Bus.summary?, hd, Option.bind_some,
      Device.summary?]
    cases hr : x.outcome .descriptor with
    | error e => exact hrest (hq b hd).2
    | ok =>
      dsimp only [Option.any_some]
      rw [hm.run_bind (hq.standing hd)]
      cases x.summary.suits s with
      | true => rfl
      | false => exact hrest (devices_after hq hm hd)

theorem run_list (c : Connector) (hb : b.listFault = none) :
    (c.list.run b).1 = .ok ((List.range b.devices.length).filterMap b.summary?) := by
  obtain ⟨initFault, listFault, devices, calls, holders, history⟩ := b
  cases hb
  exact congrArg Except.ok (c.run_summarizeAll List.nodup_range fun d => List.mem_range.mp)

theorem run_bind_eq {α β : Type} (m : BusM α) (f : α → BusM β) (b : Bus) :
    (m >>= f).run b = (f (m.run b).1).run (m.run b).2 := rfl

theorem run_find (c : Connector) (s : Selector) (hb : b.listFault = none) :
    ((c.find s).run b).1 = ((List.range b.devices.length).find? fun d =>
      (b.summary? d).any (·.suits s)).elim (.error .notFound) .ok := by
  obtain ⟨initFault, listFault, devices, calls, holders, history⟩ := b
  cases hb
  let listed : Bus := ⟨initFault, none, devices, calls ++ [.enumerate], holders,
    history ++ [⟨.enumerate, true⟩]⟩
  let places := List.range devices.length
  have hamong : ((c.findAmong s places).run listed).1 =
      places.find? fun d => (listed.summary? d).any (·.suits s) :=
    c.run_findAmong s List.nodup_range fun d => List.mem_range.mp
  have hentry : listed.summary? =
      Bus.summary? ⟨initFault, none, devices, calls, holders, history⟩ := rfl
  have hlisted : Bus.enumerate.run ⟨initFault, none, devices, calls, holders, history⟩ =
      (.ok places, listed) := rfl
  rw [← hentry, ← hamong, find, run_bind_eq, hlisted]
  dsimp only
  rw [run_bind_eq]
  cases ((c.findAmong s places).run listed).1 <;> rfl

theorem run_of_listFault (c : Connector) (s : Selector) (hb : b.listFault = some e) :
    (c.list.run b).1 = .error e.toTransport ∧ ((c.find s).run b).1 = .error e.toTransport := by
  obtain ⟨initFault, listFault, devices, calls, holders, history⟩ := b
  cases hb
  exact ⟨rfl, rfl⟩

end Connector

/-- The device has the same to tell, and the next calls that look for it come out the same. -/
structure Device.Steady (x x' : Device) : Prop where
  vendor : x'.vendor = x.vendor
  product : x'.product = x.product
  path : x'.path = x.path
  manufacturerName : x'.manufacturerName = x.manufacturerName
  productName : x'.productName = x.productName
  serial : x'.serial = x.serial
  descriptor : x'.outcome .descriptor = x.outcome .descriptor
  opening : x'.outcome .opening = x.outcome .opening

theorem Device.Steady.summary?_eq {x x' : Device} (h : x.Steady x') :
    x'.summary? = x.summary? := by
  simp only [summary?, summary, told, h.vendor, h.product, h.path, h.manufacturerName, h.productName,
    h.serial, h.descriptor, h.opening]

/-- The same devices are attached, and are found to be as they were. -/
structure Bus.Steady (b b' : Bus) : Prop where
  listFault : b'.listFault = b.listFault
  devices : List.Forall₂ Device.Steady b.devices b'.devices

theorem Bus.Steady.summary?_eq {b b' : Bus} (h : b.Steady b') (d : Nat) :
    b'.summary? d = b.summary? d := by
  have hmap : b'.devices.map Device.summary? = b.devices.map Device.summary? := by
    have hd := h.devices
    generalize b.devices = xs at hd ⊢
    generalize b'.devices = xs' at hd ⊢
    induction hd with
    | nil => rfl
    | cons hx _ ih => rw [List.map_cons, List.map_cons, hx.summary?_eq, ih]
  have hget := congrArg (fun entries => entries[d]?.bind id) hmap
  simpa [summary?, List.getElem?_map, Option.bind_map] using hget

/-- An entry tells of a device what the device has told. Of a serial number that cannot be had it
tells nothing. -/
structure Summary.Describes (e : Summary) (x : Device) : Prop where
  vendor : e.vendor = x.vendor
  product : e.product = x.product
  path : e.path = x.path
  serial : x.outcome .opening = .ok () → e.serial = x.serial.text?
  no_serial : x.outcome .opening ≠ .ok () → e.serial = none

theorem Device.describes_summary (x : Device) : x.summary.Describes x where
  vendor := rfl
  product := rfl
  path := rfl
  serial h := by
    have hs : x.summary.serial = x.told x.serial := rfl
    rw [hs, told, h]
  no_serial h := by
    have hs : x.summary.serial = x.told x.serial := rfl
    cases ho : x.outcome .opening with
    | error e => rw [hs, told, ho]
    | ok => exact absurd ho h

theorem Bus.summary?_eq_some_iff {b : Bus} {e : Summary} : b.summary? d = some e ↔
    ∃ x, b.devices[d]? = some x ∧ x.outcome .descriptor = .ok () ∧ x.summary = e := by
  rw [summary?, Option.bind_eq_some_iff]
  refine exists_congr fun x => and_congr_right fun _ => ?_
  rw [Device.summary?]
  cases x.outcome .descriptor with
  | error => simp
  | ok => simp

section Listed

variable {γ δ : Type} {f : γ → Option δ} {p : δ → Bool} {xs : List γ} {es : List δ}

theorem forall₂_filter (f : γ → Option δ) (xs : List γ) :
    List.Forall₂ (fun x e => f x = some e) (xs.filter fun x => (f x).isSome) (xs.filterMap f) := by
  induction xs with
  | nil => exact .nil
  | cons x xs ih =>
    cases hx : f x with
    | none =>
      rw [List.filter_cons_of_neg (by simp [hx]), List.filterMap_cons_none hx]
      exact ih
    | some e =>
      rw [List.filter_cons_of_pos (by simp [hx]), List.filterMap_cons_some hx]
      exact .cons hx ih

/-- The first that is found is found by its place in the list of what is known of all. -/
theorem find?_eq_some_iff (h : List.Forall₂ (fun x e => f x = some e) xs es) {x : γ} :
    xs.find? (fun x => (f x).any p) = some x ↔
      ∃ i e, xs[i]? = some x ∧ es[i]? = some e ∧ p e = true ∧ ∀ e' ∈ es.take i, p e' = false := by
  induction h with
  | nil => simp
  | @cons y e xs es hy _ ih =>
    have hany : (f y).any p = p e := by rw [hy, Option.any_some]
    rw [List.find?_cons, hany]
    cases he : p e with
    | true =>
      constructor
      · intro h
        cases h
        exact ⟨0, e, rfl, rfl, he, nofun⟩
      · rintro ⟨_ | i, e', hx, he', hp, hbefore⟩
        · exact hx
        · cases he.symm.trans (hbefore e List.mem_cons_self)
    | false =>
      refine ih.trans ⟨?_, ?_⟩
      · rintro ⟨i, e', hx, he', hp, hbefore⟩
        exact ⟨i + 1, e', hx, he', hp, List.forall_mem_cons.mpr ⟨he, hbefore⟩⟩
      · rintro ⟨_ | i, e', hx, he', hp, hbefore⟩
        · cases he'
          cases he.symm.trans hp
        · exact ⟨i, e', hx, he', hp, (List.forall_mem_cons.mp hbefore).2⟩

theorem find?_eq_none_iff (h : List.Forall₂ (fun x e => f x = some e) xs es) :
    xs.find? (fun x => (f x).any p) = none ↔ ∀ e ∈ es, p e = false := by
  induction h with
  | nil => simp
  | @cons y e xs es hy _ ih =>
    have hany : (f y).any p = p e := by rw [hy, Option.any_some]
    rw [List.find?_cons, hany, List.forall_mem_cons]
    cases p e with
    | true => simp
    | false => simp [ih]

end Listed

/-- The first listed device whose entry suits the selector is found, and none where there is no such
entry, as long as the devices stay as they are. Just those devices are listed whose descriptor can
be read, each with what it tells, and an entry without a serial number suits a selector that wants
none. -/
theorem Connector.find_eq_first_listed (c : Connector) (s : Selector) {b b' : Bus}
    (h : b.Steady b') :
    match (c.list.run b).1 with
    | .error e => b.listFault.map UsbError.toTransport = some e ∧ ((c.find s).run b').1 = .error e
    | .ok entries => ∃ places : List Nat, places.Pairwise (· < ·) ∧
        (∀ d, d ∈ places ↔ ∃ x, b.devices[d]? = some x ∧ x.outcome .descriptor = .ok ()) ∧
        List.Forall₂ (fun d e => ∃ x, b.devices[d]? = some x ∧ e.Describes x) places entries ∧
        (∀ e ∈ entries, e.serial = none →
          (e.Suits s ↔ s.serial = none ∧ e.vendor = s.vendor ∧ e.product = s.product ∧
            ∀ path, s.path = some path → e.path = path)) ∧
        (∀ d, ((c.find s).run b').1 = .ok d ↔ ∃ i e, places[i]? = some d ∧
          entries[i]? = some e ∧ e.Suits s ∧ ∀ e' ∈ entries.take i, ¬ e'.Suits s) ∧
        (((c.find s).run b').1 = .error .notFound ↔ ∀ e ∈ entries, ¬ e.Suits s) := by
  cases hb : b.listFault with
  | some e =>
    have hb' : b'.listFault = some e := h.listFault.trans hb
    rw [(c.run_of_listFault s hb).1, (c.run_of_listFault s hb').2]
    exact ⟨rfl, rfl⟩
  | none =>
    have hb' : b'.listFault = none := h.listFault.trans hb
    have hlength : b'.devices.length = b.devices.length := h.devices.length_eq.symm
    have hentry : b'.summary? = b.summary? := funext h.summary?_eq
    rw [c.run_list hb, c.run_find s hb', hlength, hentry]
    let places := (List.range b.devices.length).filter fun d => (b.summary? d).isSome
    have hlisted : List.Forall₂ (fun d e => b.summary? d = some e) places _ :=
      forall₂_filter b.summary? (List.range b.devices.length)
    have hfind : (List.range b.devices.length).find? (fun d => (b.summary? d).any (·.suits s)) =
        places.find? fun d => (b.summary? d).any (·.suits s) := by
      rw [List.find?_filter]
      refine List.find?_congr fun d _ => ?_
      cases b.summary? d <;> simp
    have hok (found : Option Nat) (d : Nat) :
        found.elim (.error TransportError.notFound) Except.ok = .ok d ↔ found = some d := by
      cases found <;> simp
    have hnot (found : Option Nat) :
        found.elim (.error TransportError.notFound) Except.ok = .error .notFound ↔ found = none := by
      cases found <;> simp
    refine ⟨places, List.pairwise_lt_range.filter _, fun d => ?_, ?_, fun e _ => ?_, fun d => ?_, ?_⟩
    · rw [List.mem_filter, List.mem_range, Option.isSome_iff_exists]
      constructor
      · rintro ⟨-, e, he⟩
        obtain ⟨x, hx, hr, -⟩ := Bus.summary?_eq_some_iff.mp he
        exact ⟨x, hx, hr⟩
      · rintro ⟨x, hx, hr⟩
        obtain ⟨hlt, -⟩ := List.getElem?_eq_some_iff.mp hx
        exact ⟨hlt, x.summary, Bus.summary?_eq_some_iff.mpr ⟨x, hx, hr, rfl⟩⟩
    · refine hlisted.imp fun d e hd => ?_
      obtain ⟨x, hx, -, rfl⟩ := Bus.summary?_eq_some_iff.mp hd
      exact ⟨x, hx, x.describes_summary⟩
    · exact Summary.suits_of_no_serial
    · rw [hok, hfind, find?_eq_some_iff hlisted]
      simp only [Summary.suits_iff, Summary.suits_eq_false_iff]
    · rw [hnot, hfind, find?_eq_none_iff hlisted]
      simp only [Summary.suits_eq_false_iff]

/-- Two devices alike. The descriptor of the first cannot be read, and the second is busy. -/
def twins : Bus :=
  let unreadable : Device :=
    { vendor := 0x0ffc, product := 0x0002, path := ⟨1, 6⟩
      faults := [(.descriptor, some .io), (.descriptor, some .io)] }
  let busy : Device :=
    { vendor := 0x0ffc, product := 0x0002, path := ⟨1, 7⟩, serial := .content [0x47, 0x32]
      faults := [(.opening, some .busy), (.opening, some .busy)] }
  { devices := [unreadable, busy], calls := [.init], holders := [1], history := [⟨.init, true⟩] }

theorem Connector.find_eq_first_listed_busy :
    let c : Connector := ⟨0, {}⟩
    let after := (c.list.run twins).2
    twins.Steady after ∧
      (c.list.run twins).1 = .ok [{ vendor := 0x0ffc, product := 0x0002, path := ⟨1, 7⟩ }] ∧
      ∃ d x, ((c.find .standard).run after).1 = .ok d ∧ twins.devices[d]? = some x ∧
        x.path = ⟨1, 7⟩ := by
  intro c after
  have hsteady : twins.Steady after :=
    ⟨rfl, .cons ⟨rfl, rfl, rfl, rfl, rfl, rfl, rfl, rfl⟩
      (.cons ⟨rfl, rfl, rfl, rfl, rfl, rfl, rfl, rfl⟩ .nil)⟩
  have hlist : (c.list.run twins).1 =
      .ok [{ vendor := 0x0ffc, product := 0x0002, path := ⟨1, 7⟩ }] := rfl
  have h := c.find_eq_first_listed .standard hsteady
  rw [hlist] at h
  obtain ⟨places, -, -, hplaces, -, hfound, -⟩ := h
  cases hplaces with
  | @cons d _ _ _ hd hnone =>
    cases hnone
    obtain ⟨x, hx, he⟩ := hd
    exact ⟨hsteady, hlist, d, x, (hfound d).mpr ⟨0, _, rfl, rfl, by decide, nofun⟩, hx, he.path.symm⟩

end Usb
end FrameLink
