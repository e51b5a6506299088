import FrameLink.Proofs.Device.Announced

namespace FrameLink

open Announcement

/-- A read of the host: the bytes it has room for, and how many fetches are to come back empty from
then on, if that is said anew before it. -/
structure Ask where
  max : Nat
  misses : Option Nat := none

/-- No fetch meets as many misses as it has retries. A fetch that comes to its end has met all that
were due. -/
def Spared (retries : Nat) : (due : Nat) → List Bytes → List Ask → Prop
  | due, m :: messages, a :: asks =>
    let due := a.misses.getD due
    if m.length ≤ maxEmbedded then Spared retries due messages asks
    else due < retries ∧ Spared retries 0 messages asks
  | _, _, _ => True

namespace Device

def ask (d : Device) (a : Ask) : Except TransportError Bytes × Device :=
  { d with misses := a.misses.getD d.misses }.read a.max

def askAll : List Ask → Device → List (Except TransportError Bytes) × Device
  | [], d => ([], d)
  | a :: asks, d =>
    let (got, d) := d.ask a
    let (later, d) := askAll asks d
    (got :: later, d)

structure Announces (retries : UInt8) (d : Device) : Prop where
  healthy : d.readFault = none
  present : d.isGone = false
  opened : d.isOpen = true
  announced : d.announced = some retries

/-- The device has announced these messages and holds the bodies of the long ones; so many misses
are due. -/
structure Promises (retries : UInt8) (due : Nat) (waiting : List Bytes) (d : Device) : Prop extends
    Announces retries d where
  misses : d.misses = due
  headers : d.inbound = waiting.map fun m => (compose m).1
  bodies : d.bodies.flatten = (longs waiting).flatten
  full : [] ∉ d.bodies
  fit : ∀ m ∈ waiting, m.length < 65536

variable {d : Device} {retries : UInt8} {due : Nat} {message : Bytes} {waiting rest : List Bytes}

theorem readAnnounced_of_short (d : Device) (retries : Nat) (hs : message.length ≤ maxEmbedded) :
    d.readAnnounced retries (compose message).1 = (.ok message, d) := by
  by_cases hne : message = []
  · subst hne
    rfl
  · rw [readAnnounced, (ofHeader_compose_of_short hne hs).2]

theorem readAnnounced_of_long (d : Device) (retries : Nat) (hl : maxEmbedded < message.length)
    (hs : message.length < 65536) :
    d.readAnnounced retries (compose message).1 = fetchMessage fetch message.length retries d := by
  rw [readAnnounced, (ofHeader_compose_of_long hl hs).2]

theorem Announces.read (ha : d.Announces retries) {header : Bytes}
    (hi : d.inbound = header :: rest) (max : Nat) :
    d.read max = { d with inbound := rest }.readAnnounced retries.toNat header := by
  simp [Device.read, ha.healthy, ha.present, ha.opened, ha.announced, hi]

namespace Promises

theorem enqueue (hp : d.Promises retries due waiting) (hf : message.length < 65536) :
    (d.enqueue message).Promises retries due (waiting ++ [message]) := by
  have hfull : [] ∉ d.bodies ++ longs [message] := by
    rw [List.mem_append, not_or]
    refine ⟨hp.full, fun hm => ?_⟩
    have hlong := (List.mem_filter.mp hm).2
    exact absurd hlong (by decide)
  rw [enqueue_of_announced hp.announced, toList_compose]
  refine ⟨⟨hp.healthy, hp.present, hp.opened, hp.announced⟩, hp.misses, ?_, ?_, hfull, ?_⟩
  · rw [List.map_append, ← hp.headers]
    rfl
  · rw [List.flatten_append, hp.bodies, longs_append, List.flatten_append]
  · exact List.forall_mem_append.mpr ⟨hp.fit, List.forall_mem_singleton.mpr hf⟩

theorem enqueueAll (hp : d.Promises retries due waiting) {messages : List Bytes}
    (hf : ∀ m ∈ messages, m.length < 65536) :
    (messages.foldl Device.enqueue d).Promises retries due (waiting ++ messages) := by
  induction messages generalizing d waiting with
  | nil => rwa [List.append_nil]
  | cons m messages ih =>
    obtain ⟨hm, hf⟩ := List.forall_mem_cons.mp hf
    rw [List.append_cons]
    exact ih (hp.enqueue hm) hf

theorem miss (hp : d.Promises retries due waiting) (misses : Nat) :
    { d with misses := misses }.Promises retries misses waiting :=
  ⟨⟨hp.healthy, hp.present, hp.opened, hp.announced⟩, rfl, hp.headers, hp.bodies, hp.full, hp.fit⟩

theorem read_short (hp : d.Promises retries due (message :: rest))
    (hs : message.length ≤ maxEmbedded) (max : Nat) :
    ∃ d', d.read max = (.ok message, d') ∧ d'.Promises retries due rest := by
  refine ⟨_, (hp.read hp.headers max).trans (readAnnounced_of_short _ _ hs),
    ⟨hp.healthy, hp.present, hp.opened, hp.announced⟩, hp.misses, rfl, ?_, hp.full,
    fun m hm => hp.fit m (List.mem_cons_of_mem _ hm)⟩
  exact hp.bodies.trans (by rw [(longs_cons_of_short hs _).1])

theorem read_long (hp : d.Promises retries due (message :: rest))
    (hl : maxEmbedded < message.length) (hdue : due < retries.toNat) (max : Nat) :
    ∃ d', d.read max = (.ok message, d') ∧ d'.Promises retries 0 rest := by
  -- However the bodies are cut up, this one is in front of the later ones.
  have hstock : d.bodies.flatten = message ++ (longs rest).flatten := by
    rw [hp.bodies, (longs_cons_of_long hl _).1, List.flatten_cons]
  have henough : message.length ≤ d.bodies.flatten.length := by
    rw [hstock, List.length_append]
    exact Nat.le_add_right ..
  obtain ⟨bodies, hfetched, hflatten, hfull⟩ := fetchMessage_of_patience
    (d := { d with inbound := rest.map fun m => (compose m).1 }) (hp.misses ▸ hdue) hp.full
    (Nat.zero_lt_of_lt hl) henough
  dsimp only at hfetched hflatten
  rw [hstock, List.take_left] at hfetched
  rw [hstock, List.drop_left] at hflatten
  have hread : d.read max = (.ok message, { d with
      inbound := rest.map fun m => (compose m).1, misses := 0, bodies := bodies }) := by
    rw [hp.read hp.headers max, readAnnounced_of_long _ _ hl (hp.fit _ List.mem_cons_self),
      hfetched]
  exact ⟨_, hread, ⟨hp.healthy, hp.present, hp.opened, hp.announced⟩, rfl, rfl, hflatten, hfull,
    fun m hm => hp.fit m (List.mem_cons_of_mem _ hm)⟩

theorem askAll {asks : List Ask} (hp : d.Promises retries due waiting)
    (hl : asks.length = waiting.length) (hs : Spared retries.toNat due waiting asks) :
    ∃ d' due', d.askAll asks = (waiting.map .ok, d') ∧ d'.Promises retries due' [] := by
  induction asks generalizing d due waiting with
  | nil =>
    obtain rfl := List.length_eq_zero_iff.mp hl.symm
    exact ⟨d, due, rfl, hp⟩
  | cons a asks ih =>
    cases waiting with
    | nil => cases hl
    | cons m rest =>
      have hrest := Nat.succ.inj hl
      have hmiss := hp.miss (a.misses.getD d.misses)
      -- The first read takes the first message, and later reads meet what misses it leaves.
      obtain ⟨d', due', hread, hp', hs'⟩ : ∃ d' due', d.ask a = (.ok m, d') ∧
          d'.Promises retries due' rest ∧ Spared retries.toNat due' rest asks := by
        rw [Spared, ← hp.misses] at hs
        split at hs
        · next hshort =>
          obtain ⟨d', hread, hp'⟩ := hmiss.read_short hshort a.max
          exact ⟨d', _, hread, hp', hs⟩
        · next hlong =>
          obtain ⟨d', hread, hp'⟩ := hmiss.read_long (Nat.not_le.mp hlong) hs.1 a.max
          exact ⟨d', _, hread, hp', hs.2⟩
      obtain ⟨last, left, hlater, hlast⟩ := ih hp' hrest hs'
      refine ⟨last, left, ?_, hlast⟩
      rw [Device.askAll, hread]
      dsimp only
      rw [hlater, List.map_cons]

theorem queues_eq_nil (hp : d.Promises retries due []) : d.inbound = [] ∧ d.bodies = [] := by
  refine ⟨hp.headers, List.eq_nil_iff_forall_not_mem.mpr fun body hm => ?_⟩
  have hempty : body = [] := List.flatten_eq_nil_iff.mp hp.bodies body hm
  exact hp.full (hempty ▸ hm)

end Promises

/-- Whatever messages are queued, each read takes one of them, whole and in their order, and when
all have been read nothing is left. -/
theorem askAll_enqueued (ha : d.Announces retries) (hi : d.inbound = []) (hb : d.bodies = [])
    {messages : List Bytes} (hf : ∀ m ∈ messages, m.length ≤ 65535) {asks : List Ask}
    (hl : asks.length = messages.length) (hs : Spared retries.toNat d.misses messages asks) :
    let (got, last) := (messages.foldl enqueue d).askAll asks
    got = messages.map .ok ∧ last.inbound = [] ∧ last.bodies = [] := by
  have hempty : d.Promises retries d.misses [] :=
    ⟨ha, rfl, hi, by rw [hb]; rfl, by simp [hb], by simp⟩
  have hqueued := hempty.enqueueAll fun m hm => Nat.lt_succ_of_le (hf m hm)
  obtain ⟨last, due, hall, hlast⟩ := hqueued.askAll hl hs
  rw [hall]
  exact ⟨rfl, hlast.queues_eq_nil⟩

/-- An empty message, short ones and long ones, with misses before two of the bodies. -/
theorem askAll_enqueued_mixed :
    let d : Device := { Device.new .standard with announced := some 3, misses := 2, isOpen := true }
    let messages := [[], List.replicate 15 7, List.replicate 40 1, [2], List.replicate 16 9]
    let asks : List Ask := [⟨512, none⟩, ⟨8, none⟩, ⟨512, none⟩, ⟨512, some 1⟩, ⟨512, none⟩]
    let (got, last) := (messages.foldl enqueue d).askAll asks
    got = messages.map .ok ∧ last.inbound = [] ∧ last.bodies = [] := by
  intro d messages asks
  have hspared : Spared 3 d.misses messages asks := by
    simp [Spared, maxEmbedded, d, messages, asks]
  exact @askAll_enqueued d 3 ⟨rfl, rfl, rfl, rfl⟩ rfl rfl messages (by decide) asks rfl hspared

end Device
end FrameLink
