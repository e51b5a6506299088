import Mathlib.Algebra.GroupWithZero.Nat
import FrameLink.Proofs.Device.Announcement

namespace FrameLink

/-- One read of a body: the room that it was offered, and what came of it. -/
structure BodyRead where
  room : Nat
  outcome : Except TransportError Fetched

theorem Fetched.length_over (got : Fetched) (buffer : Bytes) :
    (got.over buffer).length = buffer.length := by
  rw [Fetched.over, List.length_append, List.length_take, List.length_drop]
  omega

namespace BodyRead

def claimed (r : BodyRead) : Nat :=
  match r.outcome with
  | .ok got => min got.count r.room
  | .error _ => 0

def chunk (r : BodyRead) : Bytes :=
  match r.outcome with
  | .ok got => got.stored.take r.room
  | .error _ => []

def isMiss (r : BodyRead) : Bool :=
  match r.outcome with
  | .ok got => got.count == 0
  | .error e => e == .timeout

def failure? (r : BodyRead) : Option TransportError :=
  match r.outcome with
  | .ok _ => none
  | .error .timeout => none
  | .error e => some e

/-- It has stored as many bytes as it says, as far as there is room for them. -/
def Honest (r : BodyRead) : Prop := r.chunk.length = r.claimed

variable {room : Nat} {got : Fetched}

theorem failure?_error {e : TransportError} (he : e ≠ .timeout) :
    failure? ⟨room, .error e⟩ = some e := by
  cases e with
  | timeout => exact absurd rfl he
  | _ => rfl

theorem of_isMiss {r : BodyRead} (h : r.isMiss = true) : r.claimed = 0 ∧ r.failure? = none := by
  obtain ⟨room, outcome⟩ := r
  cases outcome with
  | ok got =>
    have hcount : got.count = 0 := eq_of_beq h
    exact ⟨by simp [claimed, hcount], rfl⟩
  | error e =>
    obtain rfl : e = .timeout := eq_of_beq h
    exact ⟨rfl, rfl⟩

theorem claimed_le (r : BodyRead) : r.claimed ≤ r.room := by
  rw [claimed]
  split
  · exact Nat.min_le_right ..
  · exact Nat.zero_le _

theorem take_over (hh : Honest ⟨room, .ok got⟩) {buffer : Bytes} (hb : buffer.length = room) :
    (got.over buffer).take got.count = chunk ⟨room, .ok got⟩ := by
  subst hb
  have hstored : (got.stored.take buffer.length).length = min got.count buffer.length := hh
  have hcount : (got.over buffer).take got.count =
      (got.over buffer).take (min got.count buffer.length) := by
    rw [List.take_eq_take_iff, got.length_over, Nat.min_assoc, Nat.min_self]
  rw [hcount, ← hstored, Fetched.over, List.take_left]
  rfl

end BodyRead

open BodyRead

/-- How much all these reads say they have filled. -/
def filledBy (reads : List BodyRead) : Nat := (reads.map claimed).sum

/-- How many of these reads came to nothing. -/
def missedBy (reads : List BodyRead) : Nat := reads.countP isMiss

def storedBy (reads : List BodyRead) : Bytes := reads.flatMap chunk

def partly (filled : Bytes) : Except TransportError Bytes :=
  if filled.isEmpty then .error .timeout else .ok filled

/-- These reads fill what is `left` of a message behind what is `filled` already, and end in this
result. -/
structure Collected (left retries : Nat) (filled : Bytes) (reads : List BodyRead)
    (result : Except TransportError Bytes) : Prop where
  few : reads.length ≤ left + retries
  offered : ∀ before r after, reads = before ++ r :: after →
    0 < r.room ∧ filledBy before + r.room = left ∧ missedBy before < retries ∧
      ∀ q ∈ before, q.failure? = none
  within : ∀ message, result = .ok message → message.length = filled.length + filledBy reads ∧
    filledBy reads ≤ left
  ends : (∃ before r e, reads = before ++ [r] ∧ r.failure? = some e ∧ result = .error e) ∨
    (∀ r ∈ reads, r.failure? = none) ∧ ((∀ r ∈ reads, Honest r) →
      ((storedBy reads).length = left ∧ result = .ok (filled ++ storedBy reads)) ∨
      ((storedBy reads).length < left ∧ missedBy reads = retries ∧
        result = partly (filled ++ storedBy reads)))

namespace Collected

variable {left retries room : Nat} {filled piece : Bytes} {reads : List BodyRead}
  {result : Except TransportError Bytes} {r : BodyRead}

theorem full (retries : Nat) (filled : Bytes) : Collected 0 retries filled [] (.ok filled) where
  few := Nat.zero_le _
  offered before r after h := by simp at h
  within message h := by cases h; simp [filledBy]
  ends := .inr ⟨by simp, fun _ => .inl ⟨rfl, by simp [storedBy]⟩⟩

theorem exhausted (hl : 0 < left) (filled : Bytes) :
    Collected left 0 filled [] (partly filled) where
  few := Nat.zero_le _
  offered before r after h := by simp at h
  within message h := by
    rw [partly] at h
    split at h
    · cases h
    · cases h; simp [filledBy]
  ends := .inr ⟨by simp, fun _ => .inr ⟨hl, rfl, by simp [storedBy]⟩⟩

theorem failed (hl : 0 < left) {e : TransportError} (he : e ≠ .timeout) (filled : Bytes) :
    Collected left (retries + 1) filled [⟨left, .error e⟩] (.error e) where
  few := by simp only [List.length_singleton]; omega
  offered before r after h := by
    obtain ⟨rfl, rfl, rfl⟩ : before = [] ∧ r = ⟨left, .error e⟩ ∧ after = [] := by
      simpa [List.singleton_eq_append_iff] using h
    exact ⟨hl, Nat.zero_add _, Nat.succ_pos _, by simp⟩
  within message h := by cases h
  ends := .inl ⟨[], _, e, rfl, failure?_error he, rfl⟩

/-- A read that does not fail brings the end closer: by what it has filled, or by being a miss. -/
theorem cons (hroom : r.room = left) (hl : 0 < left) (hr : 0 < retries)
    (hsound : r.failure? = none)
    (hpiece : piece.length = r.claimed) (hstored : r.Honest → piece = r.chunk)
    (hcloser : 0 < r.claimed + missedBy [r])
    (hc : Collected (left - r.claimed) (retries - missedBy [r]) (filled ++ piece) reads result) :
    Collected left retries filled (r :: reads) result := by
  have hclaimed : r.claimed ≤ left := hroom ▸ r.claimed_le
  have hone : missedBy [r] ≤ 1 := List.countP_le_length
  have hfilled (reads : List BodyRead) : filledBy (r :: reads) = r.claimed + filledBy reads := by
    simp [filledBy]
  have hmissed (reads : List BodyRead) : missedBy (r :: reads) = missedBy reads + missedBy [r] := by
    rw [missedBy, List.countP_cons, missedBy, missedBy, List.countP_singleton]
  have hstore (reads : List BodyRead) : storedBy (r :: reads) = r.chunk ++ storedBy reads := rfl
  constructor
  case few =>
    have := hc.few
    rw [List.length_cons]
    omega
  case offered =>
    intro before q after h
    cases before with
    | nil =>
      obtain ⟨rfl, rfl⟩ := List.cons.inj h
      exact ⟨hroom ▸ hl, (Nat.zero_add _).trans hroom, hr, by simp⟩
    | cons p before =>
      obtain ⟨rfl, hreads⟩ := List.cons.inj h
      -- The rest of the fetch counts from after `r`: what `r` has claimed or missed is added.
      obtain ⟨hpos, hoffer, hmiss, hno⟩ := hc.offered before q after hreads
      refine ⟨hpos, ?_, ?_, List.forall_mem_cons.mpr ⟨hsound, hno⟩⟩
      · rw [hfilled]
        omega
      · rw [hmissed]
        omega
  case within =>
    intro message hresult
    obtain ⟨hlength, hle⟩ := hc.within message hresult
    rw [List.length_append, hpiece] at hlength
    rw [hfilled]
    omega
  case ends =>
    obtain ⟨before, q, e, rfl, hfail, hresult⟩ | ⟨hno, hhonest⟩ := hc.ends
    · exact .inl ⟨r :: before, q, e, rfl, hfail, hresult⟩
    · refine .inr ⟨List.forall_mem_cons.mpr ⟨hsound, hno⟩, fun hall => ?_⟩
      obtain ⟨hr, hall⟩ := List.forall_mem_cons.mp hall
      have hchunk : r.chunk.length = r.claimed := hr
      rw [hstored hr, List.append_assoc] at hhonest
      rw [hstore, List.length_append, hmissed]
      obtain ⟨hfull, hresult⟩ | ⟨hshort, hmiss, hresult⟩ := hhonest hall
      · exact .inl ⟨by omega, hresult⟩
      · exact .inr ⟨by omega, by omega, hresult⟩

theorem miss (hroom : r.room = left) (hl : 0 < left) (hm : r.isMiss = true)
    (hc : Collected left retries filled reads result) :
    Collected left (retries + 1) filled (r :: reads) result := by
  obtain ⟨hclaimed, hsound⟩ := of_isMiss hm
  have hmissed : missedBy [r] = 1 := by simp [missedBy, hm]
  have hpiece : ([] : Bytes).length = r.claimed := hclaimed.symm
  have hchunk (hh : r.Honest) : [] = r.chunk :=
    (List.length_eq_zero_iff.mp (Eq.trans hh hclaimed)).symm
  refine cons hroom hl (Nat.succ_pos _) hsound hpiece hchunk (by omega) ?_
  rwa [hclaimed, hmissed, List.append_nil]

theorem fill {buffer : Bytes} {got : Fetched} (hb : buffer.length = left) (hl : 0 < left)
    (hg : got.count ≠ 0)
    (hc : Collected (left - got.count) (retries + 1) (filled ++ (got.over buffer).take got.count)
      reads result) :
    Collected left (retries + 1) filled (⟨left, .ok got⟩ :: reads) result := by
  have hclaimed : claimed ⟨left, .ok got⟩ = min got.count left := rfl
  have hmissed : missedBy [⟨left, .ok got⟩] = 0 := by simp [missedBy, isMiss, hg]
  have hpiece : ((got.over buffer).take got.count).length = claimed ⟨left, .ok got⟩ := by
    rw [List.length_take, got.length_over, hb, hclaimed]
  refine cons rfl hl (Nat.succ_pos _) rfl hpiece (fun hh => take_over hh hb) (by omega) ?_
  rwa [hclaimed, hmissed, show left - min got.count left = left - got.count by omega]

end Collected

variable {σ : Type}

def noting (read : Nat → σ → Except TransportError Fetched × σ) (room : Nat)
    (s : σ × List BodyRead) : Except TransportError Fetched × σ × List BodyRead :=
  let (outcome, next) := read room s.1
  (outcome, next, s.2 ++ [⟨room, outcome⟩])

section

variable (read : Nat → σ → Except TransportError Fetched × σ)

theorem noting_of_read {room : Nat} {s : σ × List BodyRead}
    {x : Except TransportError Fetched × σ × List BodyRead} (h : noting read room s = x) :
    read room s.1 = (x.1, x.2.1) ∧ x.2.2 = s.2 ++ [⟨room, x.1⟩] := by
  subst h
  exact ⟨rfl, rfl⟩

/-- Writing the reads down changes nothing, and they collect the message. -/
theorem fetchInto_noting (buffer : Bytes) (retries : Nat) (filled : Bytes)
    (s : σ × List BodyRead) :
    let noted := fetchInto (noting read) buffer retries filled s
    fetchInto read buffer retries filled s.1 = (noted.1, noted.2.1) ∧
      ∃ reads, noted.2.2 = s.2 ++ reads ∧
        Collected buffer.length retries filled reads noted.1 := by
  -- One case for each turn that a fetch can take. `noting` hands on the answer that it writes down, so
  -- that the fetch without a log takes the same turn.
  fun_induction fetchInto (noting read) buffer retries filled s with
  | case1 retries filled s =>
    exact ⟨by rw [fetchInto], [], (List.append_nil _).symm, .full retries filled⟩
  | case2 b bs filled s =>
    exact ⟨by rw [fetchInto], [], (List.append_nil _).symm, .exhausted (Nat.succ_pos _) filled⟩
  | case3 b bs retries filled s s' hr ih =>
    obtain ⟨hread, hlog⟩ := noting_of_read read hr
    obtain ⟨hsame, reads, hreads, hc⟩ := ih
    refine ⟨by rw [fetchInto, hread]; exact hsame, ⟨bs.length + 1, .error .timeout⟩ :: reads, ?_,
      hc.miss rfl (Nat.succ_pos _) rfl⟩
    rw [hreads, hlog, List.append_assoc, List.singleton_append]
  | case4 b bs retries filled s e s' he hr =>
    obtain ⟨hread, hlog⟩ := noting_of_read read hr
    exact ⟨by simp [fetchInto, hread], [⟨bs.length + 1, .error e⟩], hlog,
      .failed (Nat.succ_pos _) he filled⟩
  | case5 b bs retries filled s got s' hr buffer hg ih =>
    obtain ⟨hread, hlog⟩ := noting_of_read read hr
    obtain ⟨hsame, reads, hreads, hc⟩ := ih
    have hlength : buffer.length = bs.length + 1 := got.length_over (b :: bs)
    rw [hlength] at hc
    refine ⟨?_, ⟨bs.length + 1, .ok got⟩ :: reads, ?_,
      hc.miss rfl (Nat.succ_pos _) (beq_iff_eq.mpr hg)⟩
    · rw [fetchInto, hread]
      exact (if_pos hg).trans hsame
    · rw [hreads, hlog, List.append_assoc, List.singleton_append]
  | case6 b bs retries filled s got s' hr buffer hg ih =>
    obtain ⟨hread, hlog⟩ := noting_of_read read hr
    obtain ⟨hsame, reads, hreads, hc⟩ := ih
    have hlength : buffer.length = bs.length + 1 := got.length_over (b :: bs)
    rw [List.length_drop, hlength] at hc
    refine ⟨?_, ⟨bs.length + 1, .ok got⟩ :: reads, ?_, hc.fill rfl (Nat.succ_pos _) hg⟩
    · rw [fetchInto, hread]
      exact (if_neg hg).trans hsame
    · rw [hreads, hlog, List.append_assoc, List.singleton_append]

end

/-- Whatever the reads of a fetch come to, they are no more than the message has bytes and the fetch
has retries, each is offered all that is missing, and no more is handed on than was announced. If
the reads have stored what they say, then the first failure of a read is the failure of the fetch;
without one, what they have stored is handed on once it is all of the message, or when the retries
are used up, unless it is nothing at all. -/
theorem fetchMessage_collects (read : Nat → σ → Except TransportError Fetched × σ)
    (size retries : Nat) (s : σ) :
    let noted := fetchMessage (noting read) size retries (s, [])
    let reads := noted.2.2
    fetchMessage read size retries s = (noted.1, noted.2.1) ∧
      reads.length ≤ size + retries ∧
      (∀ before r after, reads = before ++ r :: after →
        0 < r.room ∧ filledBy before + r.room = size ∧ missedBy before < retries ∧
          ∀ q ∈ before, q.failure? = none) ∧
      (∀ message, noted.1 = .ok message → message.length = filledBy reads ∧
        message.length ≤ size) ∧
      ((∃ before r e, reads = before ++ [r] ∧ r.failure? = some e ∧ noted.1 = .error e) ∨
        (∀ r ∈ reads, r.failure? = none) ∧ ((∀ r ∈ reads, Honest r) →
          ((storedBy reads).length = size ∧ noted.1 = .ok (storedBy reads)) ∨
          ((storedBy reads).length < size ∧ missedBy reads = retries ∧
            noted.1 = if storedBy reads = [] then .error .timeout else .ok (storedBy reads)))) := by
  intro noted reads
  obtain ⟨hsame, reads', hreads, hc⟩ :=
    fetchInto_noting read (List.replicate size 0) retries [] (s, [])
  obtain rfl : reads = reads' := hreads
  rw [List.length_replicate] at hc
  refine ⟨hsame, hc.few, hc.offered, fun message hm => ?_, ?_⟩
  · obtain ⟨hlength, hle⟩ := hc.within message hm
    rw [List.length_nil, Nat.zero_add] at hlength
    exact ⟨hlength, hlength ▸ hle⟩
  · have hends := hc.ends
    simp only [List.nil_append, partly, List.isEmpty_iff] at hends
    exact hends

end FrameLink
