import FrameLink.Proofs.Device.Delivery

namespace FrameLink

namespace Announcement

variable {message : Bytes}

/-- A message that can be announced: there is something of it, and the header can tell its
length. -/
def Fits (message : Bytes) : Prop := message ≠ [] ∧ message.length < 65536

instance (message : Bytes) : Decidable (Fits message) :=
  inferInstanceAs (Decidable (_ ∧ _))

def shorts (messages : List Bytes) : List Bytes :=
  messages.filter fun m => m.length ≤ maxEmbedded

def longs (messages : List Bytes) : List Bytes :=
  messages.filter fun m => maxEmbedded < m.length

theorem longs_cons_of_short (hs : message.length ≤ maxEmbedded) (messages : List Bytes) :
    longs (message :: messages) = longs messages ∧
      shorts (message :: messages) = message :: shorts messages := by
  simp [longs, shorts, hs]

theorem longs_cons_of_long (hl : maxEmbedded < message.length) (messages : List Bytes) :
    longs (message :: messages) = message :: longs messages ∧
      shorts (message :: messages) = shorts messages := by
  simp [longs, shorts, hl]

theorem toList_compose (message : Bytes) : (compose message).2.toList = longs [message] := by
  rw [compose]
  split
  · next hs => exact (longs_cons_of_short hs []).1.symm
  · next hl => exact (longs_cons_of_long (Nat.not_le.mp hl) []).1.symm

theorem longs_append (messages more : List Bytes) :
    longs (messages ++ more) = longs messages ++ longs more :=
  List.filter_append ..

theorem length_flatten_longs {xs ys : List Bytes}
    (hlength : xs.map List.length = ys.map List.length) :
    (longs xs).flatten.length = (longs ys).flatten.length := by
  have hmap (zs : List Bytes) : (longs zs).map List.length =
      (zs.map List.length).filter fun n => maxEmbedded < n := by
    rw [List.filter_map]
    rfl
  rw [List.length_flatten, List.length_flatten, hmap, hmap, hlength]

/-- Messages that agree in their lengths, in the short ones and in all bytes of the long ones. -/
theorem eq_of_lengths {xs ys : List Bytes} (hlength : xs.map List.length = ys.map List.length)
    (hshorts : shorts xs = shorts ys) (hlongs : (longs xs).flatten = (longs ys).flatten) :
    xs = ys := by
  induction xs generalizing ys with
  | nil => exact (List.map_eq_nil_iff.mp hlength.symm).symm
  | cons x xs ih =>
    cases ys with
    | nil => cases hlength
    | cons y ys =>
      obtain ⟨hxy, hrest⟩ := List.cons.inj hlength
      by_cases hx : x.length ≤ maxEmbedded
      · obtain ⟨hlx, hsx⟩ := longs_cons_of_short hx xs
        obtain ⟨hly, hsy⟩ := longs_cons_of_short (hxy ▸ hx) ys
        rw [hsx, hsy] at hshorts
        rw [hlx, hly] at hlongs
        obtain ⟨rfl, hshorts'⟩ := List.cons.inj hshorts
        rw [ih hrest hshorts' hlongs]
      · obtain ⟨hlx, hsx⟩ := longs_cons_of_long (Nat.not_le.mp hx) xs
        obtain ⟨hly, hsy⟩ := longs_cons_of_long (hxy ▸ Nat.not_le.mp hx) ys
        rw [hsx, hsy] at hshorts
        rw [hlx, hly, List.flatten_cons, List.flatten_cons] at hlongs
        obtain ⟨rfl, hlongs'⟩ := List.append_inj hlongs hxy
        rw [ih hrest hshorts hlongs']

/-- What is left of the messages when the first long ones are lost. -/
def survivors : Nat → List Bytes → List Bytes
  | _, [] => []
  | lost, m :: rest =>
    if m.length ≤ maxEmbedded then m :: survivors lost rest
    else match lost with
      | 0 => m :: rest
      | lost + 1 => survivors lost rest

theorem survivors_zero (messages : List Bytes) : survivors 0 messages = messages := by
  induction messages with
  | nil => rfl
  | cons m rest ih =>
    rw [survivors]
    split
    · rw [ih]
    · rfl

end Announcement

open Announcement

/-- What the next fetches meet: reads that bring nothing, and the bytes of bodies that were given
up. -/
structure Backlog where
  misses : Nat
  bytes : Bytes

namespace Backlog

/-- What a host gets of an announced message, if it does not give it up. -/
def fetch (retries : Nat) (backlog : Backlog) (message : Bytes) : Option Bytes × Backlog :=
  if message.length ≤ maxEmbedded then (some message, backlog)
  else
    let bytes := backlog.bytes ++ message
    if backlog.misses < retries then
      (some (bytes.take message.length), ⟨0, bytes.drop message.length⟩)
    else (none, ⟨backlog.misses - retries, bytes⟩)

def fetchAll (retries : Nat) : Backlog → List Bytes → List Bytes × Backlog
  | backlog, [] => ([], backlog)
  | backlog, m :: rest =>
    let (got, backlog) := backlog.fetch retries m
    let (later, last) := fetchAll retries backlog rest
    (got.toList ++ later, last)

variable {retries : Nat} {backlog : Backlog} {message : Bytes} {messages : List Bytes}

theorem length_take_behind (bytes message : Bytes) :
    ((bytes ++ message).take message.length).length = message.length := by
  rw [List.length_take, List.length_append]
  omega

theorem fetchAll_append (retries : Nat) (backlog : Backlog) (messages more : List Bytes) :
    backlog.fetchAll retries (messages ++ more) =
      ((backlog.fetchAll retries messages).1 ++
        ((backlog.fetchAll retries messages).2.fetchAll retries more).1,
        ((backlog.fetchAll retries messages).2.fetchAll retries more).2) := by
  induction messages generalizing backlog with
  | nil => rfl
  | cons m rest ih =>
    simp only [List.cons_append, fetchAll, ih, List.append_assoc]

/-- No body is lost for good: what has been fetched and what is still to come are the bodies of all
messages, the ones that were given up included. -/
theorem fetchAll_bytes (retries : Nat) (backlog : Backlog) (messages : List Bytes) :
    (longs (backlog.fetchAll retries messages).1).flatten ++
      (backlog.fetchAll retries messages).2.bytes = backlog.bytes ++ (longs messages).flatten := by
  induction messages generalizing backlog with
  | nil => simp [fetchAll, longs]
  | cons m rest ih =>
    rw [fetchAll, fetch]
    dsimp only
    split
    · next hs =>
      rw [(longs_cons_of_short hs _).1, Option.toList_some, List.singleton_append,
        (longs_cons_of_short hs _).1]
      exact ih backlog
    · next hl =>
      have hl := Nat.not_le.mp hl
      rw [(longs_cons_of_long hl _).1, List.flatten_cons, ← List.append_assoc]
      split
      · next hm =>
        have hlength := length_take_behind backlog.bytes m
        rw [Option.toList_some, List.singleton_append, (longs_cons_of_long (hlength.symm ▸ hl) _).1,
          List.flatten_cons, List.append_assoc, ih, ← List.append_assoc, List.take_append_drop]
      · exact ih _

theorem fetchAll_shape (hr : 0 < retries) (backlog : Backlog) (messages : List Bytes) :
    (backlog.fetchAll retries messages).1.map List.length =
        (survivors (backlog.misses / retries) messages).map List.length ∧
      shorts (backlog.fetchAll retries messages).1 =
        shorts (survivors (backlog.misses / retries) messages) := by
  induction messages generalizing backlog with
  | nil => exact ⟨rfl, rfl⟩
  | cons m rest ih =>
    rw [fetchAll, fetch, survivors.eq_def]
    dsimp only
    split
    · next hs =>
      obtain ⟨hlength, hshorts⟩ := ih backlog
      rw [Option.toList_some, List.singleton_append, List.map_cons, List.map_cons,
        (longs_cons_of_short hs _).2, (longs_cons_of_short hs _).2, hlength, hshorts]
      exact ⟨rfl, rfl⟩
    · next hl =>
      have hl := Nat.not_le.mp hl
      split
      · next hm =>
        have hlength := length_take_behind backlog.bytes m
        -- The misses are used up, so that no later message is given up.
        obtain ⟨hlengths, hshorts⟩ := ih ⟨0, (backlog.bytes ++ m).drop m.length⟩
        rw [Nat.zero_div, survivors_zero] at hlengths hshorts
        rw [Nat.div_eq_of_lt hm, Option.toList_some, List.singleton_append, List.map_cons,
          List.map_cons, hlength, hlengths, (longs_cons_of_long (hlength.symm ▸ hl) _).2,
          (longs_cons_of_long hl _).2, hshorts]
        exact ⟨rfl, rfl⟩
      · next hm =>
        rw [Nat.div_eq_sub_div hr (Nat.not_lt.mp hm)]
        exact ih ⟨backlog.misses - retries, backlog.bytes ++ m⟩

/-- Whatever is not given up is delivered as it was announced just in case the bytes that come first
happen to be the ones that are due. -/
theorem fetchAll_eq_iff (hr : 0 < retries) (backlog : Backlog) (messages : List Bytes) :
    (backlog.fetchAll retries messages).1 = survivors (backlog.misses / retries) messages ↔
      (longs (survivors (backlog.misses / retries) messages)).flatten <+:
        backlog.bytes ++ (longs messages).flatten := by
  have hbytes := fetchAll_bytes retries backlog messages
  obtain ⟨hlength, hshorts⟩ := fetchAll_shape hr backlog messages
  constructor
  · intro he
    rw [he] at hbytes
    exact ⟨_, hbytes⟩
  · rintro ⟨later, hlater⟩
    exact eq_of_lengths hlength hshorts
      (List.append_inj_left (hbytes.trans hlater.symm) (length_flatten_longs hlength))

end Backlog

theorem Fetched.over_exactly {bs buffer : Bytes} (h : bs.length ≤ buffer.length) :
    (Fetched.exactly bs).over buffer = bs ++ buffer.drop bs.length := by
  rw [Fetched.over, Fetched.exactly, List.take_of_length_le h]

namespace Device

variable {d : Device}

theorem fetchInto_of_misses (byte : UInt8) (bs filled : Bytes) (misses retries later : Nat) :
    fetchInto fetch (byte :: bs) (misses + retries) filled { d with misses := misses + later } =
      fetchInto fetch (byte :: bs) retries filled { d with misses := later } := by
  induction misses with
  | zero => rw [Nat.zero_add, Nat.zero_add]
  | succ misses ih =>
    have hmissed : fetch (bs.length + 1) { d with misses := misses + 1 + later } =
        (.ok (.exactly []), { d with misses := misses + later }) := by
      rw [fetch, if_pos (show 0 < misses + 1 + later by omega)]
      simp only [show misses + 1 + later - 1 = misses + later by omega]
    rw [show misses + 1 + retries = misses + retries + 1 by omega, fetchInto, hmissed]
    exact ih

theorem fetchInto_of_body (hm : d.misses = 0) (hfull : [] ∉ d.bodies) (hd : d.bodies ≠ [])
    (byte : UInt8) (bs filled : Bytes) (retries : Nat) :
    ∃ piece bodies, 0 < piece.length ∧ piece.length ≤ bs.length + 1 ∧
      piece ++ bodies.flatten = d.bodies.flatten ∧ [] ∉ bodies ∧
      fetchInto fetch (byte :: bs) (retries + 1) filled d =
        fetchInto fetch ((byte :: bs).drop piece.length) (retries + 1) (filled ++ piece)
          { d with bodies := bodies } := by
  obtain ⟨body, rest, hbodies⟩ := List.exists_cons_of_ne_nil hd
  rw [hbodies, List.mem_cons, not_or] at hfull
  have hpos : 0 < (body.take (bs.length + 1)).length := by
    have hbody := List.length_pos_iff.mpr (Ne.symm hfull.1)
    rw [List.length_take]
    omega
  have hpiece : (body.take (bs.length + 1)).length ≤ (byte :: bs).length := List.length_take_le ..
  refine ⟨body.take (bs.length + 1), Bench.remaining (bs.length + 1) body rest, hpos, hpiece, ?_,
    Bench.full_remaining hfull.2, ?_⟩
  · rw [Bench.flatten_remaining, hbodies]
    rfl
  · have hfetch : fetch (bs.length + 1) d = (.ok (.exactly (body.take (bs.length + 1))),
        { d with bodies := Bench.remaining (bs.length + 1) body rest }) := by
      rw [fetch, hm, if_neg (Nat.lt_irrefl 0), hbodies]
      rfl
    rw [fetchInto, hfetch]
    dsimp only
    rw [Fetched.over_exactly hpiece, Fetched.exactly, if_neg (Nat.ne_of_gt hpos), List.drop_left,
      List.take_left]

theorem fetchInto_of_stock (hm : d.misses = 0) (hfull : [] ∉ d.bodies) (retries : Nat)
    (buffer filled : Bytes) (hb : buffer.length ≤ d.bodies.flatten.length) :
    ∃ bodies, fetchInto fetch buffer (retries + 1) filled d =
        (.ok (filled ++ d.bodies.flatten.take buffer.length), { d with bodies := bodies }) ∧
      bodies.flatten = d.bodies.flatten.drop buffer.length ∧ [] ∉ bodies := by
  induction hn : buffer.length using Nat.strongRecOn generalizing buffer filled d with
  | ind n ih =>
    subst hn
    cases buffer with
    | nil => exact ⟨d.bodies, by simp [fetchInto], rfl, hfull⟩
    | cons byte bs =>
      have hd : d.bodies ≠ [] := by
        intro hd
        rw [hd] at hb
        cases hb
      obtain ⟨piece, bodies, hpos, hpiece, hall, hfull', hfetch⟩ :=
        fetchInto_of_body hm hfull hd byte bs filled retries
      rw [hfetch, ← hall]
      rw [← hall, List.length_append] at hb
      -- What is left of the buffer is filled from what is left of the bodies.
      have hleft : (byte :: bs).length = piece.length + ((byte :: bs).drop piece.length).length := by
        rw [List.length_drop, List.length_cons]
        omega
      obtain ⟨bodies', hfetched, hflatten, hfull''⟩ :=
        ih ((byte :: bs).drop piece.length).length (by omega) (d := { d with bodies := bodies }) hm
          hfull' ((byte :: bs).drop piece.length) (filled ++ piece) (by dsimp only; omega) rfl
      refine ⟨bodies', ?_, ?_, hfull''⟩
      · rw [hfetched, hleft, List.take_length_add_append, List.append_assoc]
      · rw [hflatten, hleft, List.drop_length_add_append]

theorem enqueue_of_announced {retries : UInt8} (ha : d.announced = some retries)
    (message : Bytes) :
    d.enqueue message = { d with
      inbound := d.inbound ++ [(compose message).1]
      bodies := d.bodies ++ (compose message).2.toList } := by
  rw [enqueue]
  split
  · next he => cases ha.symm.trans he
  · rfl

theorem fetchMessage_of_patience {retries size : Nat} (hm : d.misses < retries)
    (hfull : [] ∉ d.bodies) (hpos : 0 < size) (hs : size ≤ d.bodies.flatten.length) :
    ∃ bodies, fetchMessage fetch size retries d =
        (.ok (d.bodies.flatten.take size), { d with misses := 0, bodies := bodies }) ∧
      bodies.flatten = d.bodies.flatten.drop size ∧ [] ∉ bodies := by
  obtain ⟨left, rfl⟩ : ∃ left, retries = d.misses + (left + 1) :=
    ⟨retries - d.misses - 1, by omega⟩
  have hlength : (List.replicate size (0 : UInt8)).length = size := List.length_replicate
  obtain ⟨n, rfl⟩ : ∃ n, size = n + 1 := ⟨size - 1, by omega⟩
  have hskip : fetchInto fetch (List.replicate (n + 1) 0) (d.misses + (left + 1)) [] d =
      fetchInto fetch (List.replicate (n + 1) 0) (left + 1) [] { d with misses := 0 } :=
    fetchInto_of_misses 0 (List.replicate n 0) [] d.misses (left + 1) 0
  obtain ⟨bodies, hfetched, hflatten, hfull'⟩ :=
    fetchInto_of_stock (d := { d with misses := 0 }) rfl hfull left (List.replicate (n + 1) 0) []
      (hlength.symm ▸ hs)
  rw [hlength] at hfetched hflatten
  exact ⟨bodies, hskip.trans hfetched, hflatten, hfull'⟩

theorem fetchMessage_of_impatience {retries size : Nat} (hm : retries ≤ d.misses)
    (hs : 0 < size) :
    fetchMessage fetch size retries d =
      (.error .timeout, { d with misses := d.misses - retries }) := by
  obtain ⟨n, rfl⟩ : ∃ n, size = n + 1 := ⟨size - 1, by omega⟩
  have hmisses : d.misses = retries + (d.misses - retries) := by omega
  have hskip := fetchInto_of_misses (d := d) 0 (List.replicate n 0) [] retries 0
    (d.misses - retries)
  rw [← hmisses, Nat.add_zero] at hskip
  rw [fetchMessage, List.replicate_succ]
  exact hskip.trans (by rw [fetchInto]; rfl)

end Device

namespace Bench

variable {b : Bench} {retries : UInt8} {backlog : Backlog} {waiting rest : List Bytes}
  {message : Bytes}

theorem Calm.poll_of_timeout (hc : b.Calm) {max : Nat} {d : Device}
    (hr : b.device.read max = (.error .timeout, d)) (ha : d.announced = some retries)
    (hi : d.inbound.length < b.device.inbound.length) :
    b.poll max = some (.error .timeout, { b with device := d }) := by
  have hannounces : d.announced.isNone = false := by
    rw [ha]
    rfl
  rw [poll, if_neg (Bool.eq_false_iff.mp hc.steady), hr]
  dsimp only
  rw [hannounces, if_neg Bool.false_ne_true, if_pos hi]

/-- The device announces its messages, and some of them have not been read yet. Their bodies are
behind the bytes of the backlog. -/
structure Announcing (retries : UInt8) (backlog : Backlog) (waiting : List Bytes) (b : Bench) :
    Prop extends Calm b where
  announced : b.device.announced = some retries
  patient : 0 < retries.toNat
  misses : b.device.misses = backlog.misses
  headers : b.device.inbound = waiting.map fun m => (compose m).1
  bodies : b.device.bodies.flatten = backlog.bytes ++ (longs waiting).flatten
  full : [] ∉ b.device.bodies
  fit : ∀ m ∈ waiting, Fits m

def delivery (age : Duration) : Option Bytes → Except TransportError Packet
  | some data => .ok ⟨data, age⟩
  | none => .error .timeout

namespace Announcing

theorem act (ha : b.Announcing retries backlog waiting) (hf : Fits message) (age : Duration) :
    (b.act (.raw message age)).Announcing retries backlog (waiting ++ [message]) := by
  have hd : (b.act (.raw message age)).device = { b.device with
      inbound := b.device.inbound ++ [(compose message).1]
      bodies := b.device.bodies ++ (compose message).2.toList } :=
    Device.enqueue_of_announced ha.announced message
  have hsteady : (b.act (.raw message age)).silent = false := by
    rw [Bench.act, ha.steady]
    rfl
  have hbody : (compose message).2.toList = longs [message] := toList_compose message
  have hheaders : b.device.inbound ++ [(compose message).1] =
      (waiting ++ [message]).map fun m => (compose m).1 := by
    rw [List.map_append, ← ha.headers]
    rfl
  have hbodies : (b.device.bodies ++ (compose message).2.toList).flatten =
      backlog.bytes ++ (longs (waiting ++ [message])).flatten := by
    rw [hbody, List.flatten_append, ha.bodies, longs_append, List.flatten_append, List.append_assoc]
  have hfull : [] ∉ b.device.bodies ++ (compose message).2.toList := by
    rw [hbody, List.mem_append, not_or]
    exact ⟨ha.full, fun hm => hf.1 (List.mem_singleton.mp (List.mem_filter.mp hm).1).symm⟩
  have hfit : ∀ m ∈ waiting ++ [message], Fits m := by
    intro m hm
    obtain hm | hm := List.mem_append.mp hm
    · exact ha.fit m hm
    · exact List.mem_singleton.mp hm ▸ hf
  exact ⟨⟨hd ▸ ha.healthy, hd ▸ ha.present, hd ▸ ha.opened, ha.idle, hsteady⟩, hd ▸ ha.announced,
    ha.patient, hd ▸ ha.misses, hd ▸ hheaders, hd ▸ hbodies, hd ▸ hfull, hfit⟩

/-- It does not matter whether the host has been told that there is nothing to read. -/
theorem told (ha : b.Announcing retries backlog waiting) :
    { b with dry := true }.Announcing retries backlog waiting :=
  ⟨⟨ha.healthy, ha.present, ha.opened, ha.idle, ha.steady⟩, ha.announced, ha.patient, ha.misses,
    ha.headers, ha.bodies, ha.full, ha.fit⟩

theorem poll_nil (ha : b.Announcing retries backlog []) (max : Nat) :
    b.poll max = if b.dry then none else some (.error .timeout, { b with dry := true }) :=
  ha.toCalm.poll_dry ha.announced ha.headers

theorem read_long (ha : b.Announcing retries backlog (message :: rest))
    (hl : maxEmbedded < message.length) (max : Nat) :
    b.device.read max = fetchMessage Device.fetch message.length retries.toNat
      { b.device with inbound := rest.map fun m => (compose m).1 } := by
  have he := (ofHeader_compose_of_long hl (ha.fit message List.mem_cons_self).2).2
  simp [Device.read, ha.healthy, ha.present, ha.opened, ha.headers, ha.announced,
    Device.readAnnounced, he]

theorem poll_short (ha : b.Announcing retries backlog (message :: rest))
    (hs : message.length ≤ maxEmbedded) (max : Nat) :
    ∃ b', b.poll max = some (.ok ⟨message, b.age⟩, b') ∧ b'.Announcing retries backlog rest := by
  have he := (ofHeader_compose_of_short (ha.fit message List.mem_cons_self).1 hs).2
  refine ⟨_, ha.toCalm.poll_embedded ha.announced ha.headers he, ha.toCalm.queueing _,
    ha.announced, ha.patient, ha.misses, rfl, ?_, ha.full,
    fun m hm => ha.fit m (List.mem_cons_of_mem _ hm)⟩
  exact ha.bodies.trans (by rw [(longs_cons_of_short hs _).1])

theorem poll_long (ha : b.Announcing retries backlog (message :: rest))
    (hl : maxEmbedded < message.length) (hm : backlog.misses < retries.toNat) (max : Nat) :
    let bytes := backlog.bytes ++ message
    ∃ b', b.poll max = some (.ok ⟨bytes.take message.length, b.age⟩, b') ∧
      b'.Announcing retries ⟨0, bytes.drop message.length⟩ rest := by
  intro bytes
  have hstock : b.device.bodies.flatten = bytes ++ (longs rest).flatten := by
    rw [ha.bodies, (longs_cons_of_long hl _).1, List.flatten_cons, List.append_assoc]
  have hlength : message.length ≤ bytes.length := by
    rw [List.length_append]
    exact Nat.le_add_left ..
  have henough : message.length ≤ b.device.bodies.flatten.length := by
    rw [hstock, List.length_append]
    exact Nat.le_trans hlength (Nat.le_add_right ..)
  have hmisses : b.device.misses < retries.toNat := ha.misses ▸ hm
  obtain ⟨bodies, hfetched, hflatten, hfull⟩ := Device.fetchMessage_of_patience
    (d := { b.device with inbound := rest.map fun m => (compose m).1 }) hmisses ha.full
    (Nat.zero_lt_of_lt hl) henough
  dsimp only at hflatten
  rw [hstock, List.drop_append_of_le_length hlength] at hflatten
  have hread : b.device.read max = (.ok (bytes.take message.length), { b.device with
      inbound := rest.map fun m => (compose m).1, misses := 0, bodies := bodies }) := by
    rw [ha.read_long hl, hfetched, hstock, List.take_append_of_le_length hlength]
  exact ⟨_, ha.toCalm.poll_of_read hread, ⟨ha.healthy, ha.present, ha.opened, ha.idle, ha.steady⟩,
    ha.announced, ha.patient, rfl, rfl, hflatten, hfull,
    fun m hm => ha.fit m (List.mem_cons_of_mem _ hm)⟩

theorem poll_lost (ha : b.Announcing retries backlog (message :: rest))
    (hl : maxEmbedded < message.length) (hm : retries.toNat ≤ backlog.misses) (max : Nat) :
    ∃ b', b.poll max = some (.error .timeout, b') ∧
      b'.Announcing retries ⟨backlog.misses - retries.toNat, backlog.bytes ++ message⟩ rest := by
  have hmisses : retries.toNat ≤ b.device.misses := ha.misses ▸ hm
  have hread : b.device.read max = (.error .timeout, { b.device with
      inbound := rest.map fun m => (compose m).1
      misses := b.device.misses - retries.toNat }) := by
    rw [ha.read_long hl]
    exact Device.fetchMessage_of_impatience hmisses (Nat.zero_lt_of_lt hl)
  have hshorter : (rest.map fun m => (compose m).1).length < b.device.inbound.length := by
    rw [ha.headers, List.map_cons, List.length_cons]
    exact Nat.lt_succ_self _
  have hbodies : b.device.bodies.flatten =
      (backlog.bytes ++ message) ++ (longs rest).flatten := by
    rw [ha.bodies, (longs_cons_of_long hl _).1, List.flatten_cons, List.append_assoc]
  exact ⟨_, ha.toCalm.poll_of_timeout hread ha.announced hshorter,
    ⟨ha.healthy, ha.present, ha.opened, ha.idle, ha.steady⟩, ha.announced, ha.patient,
    congrArg (· - retries.toNat) ha.misses, rfl, hbodies, ha.full,
    fun m hm => ha.fit m (List.mem_cons_of_mem _ hm)⟩

/-- A read takes what is announced next, or gives it up. -/
theorem poll_cons (ha : b.Announcing retries backlog (message :: rest)) (max : Nat) :
    ∃ b', b.poll max = some (delivery b.age (backlog.fetch retries.toNat message).1, b') ∧
      b'.Announcing retries (backlog.fetch retries.toNat message).2 rest := by
  rw [Backlog.fetch]
  by_cases hs : message.length ≤ maxEmbedded
  · rw [if_pos hs]
    exact ha.poll_short hs max
  · rw [if_neg hs]
    by_cases hm : backlog.misses < retries.toNat
    · rw [if_pos hm]
      exact ha.poll_long (Nat.not_le.mp hs) hm max
    · rw [if_neg hm]
      exact ha.poll_lost (Nat.not_le.mp hs) (Nat.not_lt.mp hm) max

end Announcing
end Bench
end FrameLink
