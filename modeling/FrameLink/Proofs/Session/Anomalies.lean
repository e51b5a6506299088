import FrameLink.Proofs.Session.Moves

namespace FrameLink
namespace Session

variable {σ : Type} {T : Transport σ} {s : Session σ} {limit : UInt32}
  {results rest : List (Except ProtocolError Frame)}

/-- More anomalies in a row than there may be, as they are counted; those before the first result
count as well. -/
def Overrun (limit strikes : UInt32) (results : List (Except ProtocolError Frame)) : Prop :=
  ∃ front anomalies rest, results = front ++ anomalies.map .error ++ rest ∧ anomalies ≠ [] ∧
    limit < (if front = [] then strikes else 0) + UInt32.ofNat anomalies.length

def abandoned (s : Session σ) : List (Except ProtocolError Frame) :=
  if s.receiver.decoder.buffer.isEmpty then []
  else if s.receiver.silence s.clock < s.settings.partialTimeout then []
  else [.error (.malformedFrame (.incomplete s.receiver.decoder.reset.1))]

/-- The frames and anomalies that the outcome of a read amounts to. -/
def findings (s : Session σ) : Except TransportError Packet → List (Except ProtocolError Frame)
  | .ok p =>
    if p.data.isEmpty then s.abandoned else (s.receiver.decoder.extend p.data).drain.1
  | .error .timeout => s.abandoned
  | .error _ => []

def anomaliesInRow (n : UInt32) : SessionError :=
  .transportIo (toString n ++ " consecutive framing errors")

theorem settings_route (s : Session σ) (f : Frame) : (s.route f).settings = s.settings := by
  obtain ⟨_, _, _, _, _, h⟩ := route_eq s f
  rw [h]

theorem settings_receive (s : Session σ) (f : Frame) : (s.receive f).settings = s.settings :=
  settings_route _ f

theorem strikes_receive (s : Session σ) (f : Frame) : (s.receive f).receiver.strikes = 0 := by
  obtain ⟨_, _, _, _, _, h⟩ := route_eq (σ := σ) _ f
  rw [receive, h]
  rfl

theorem journal_route (s : Session σ) (f : Frame) :
    (s.route f).journal = .routed f :: s.journal := by
  obtain ⟨_, _, _, _, _, h⟩ := route_eq s f
  rw [h]

theorem stats_publish (s : Session σ) (f : Frame) : (s.publish f).stats = s.stats := by
  rw [publish]
  split <;> rfl

theorem stats_route (s : Session σ) (f : Frame) :
    ∃ n, (s.route f).stats = { s.stats with duplicateResponses := n } := by
  obtain ⟨_, _, _, _, n, h⟩ := route_eq s f
  exact ⟨n, by rw [h]⟩

theorem strike_of_overrun (hs : s.settings.errorLimit = limit) (hl : 0 < limit)
    (hover : limit < s.receiver.strikes + 1) (e : ProtocolError) :
    ∃ s', s.strike e = (some (anomaliesInRow (s.receiver.strikes + 1)), s') := by
  subst hs
  exact ⟨_, if_pos ⟨hl, hover⟩⟩

theorem strike_of_le (hs : s.settings.errorLimit = limit) (hle : ¬ limit < s.receiver.strikes + 1)
    (e : ProtocolError) :
    ∃ s', s.strike e = (none, s') ∧ s'.settings.errorLimit = limit ∧
      s'.receiver.strikes = s.receiver.strikes + 1 := by
  subst hs
  exact ⟨_, if_neg fun h => hle h.2, rfl, rfl⟩

theorem ofNat_length_cons {α : Type} (n : UInt32) (a : α) (l : List α) :
    n + UInt32.ofNat (a :: l).length = n + 1 + UInt32.ofNat l.length := by
  rw [List.length_cons, UInt32.ofNat_add, UInt32.add_comm (UInt32.ofNat l.length), UInt32.add_assoc]
  rfl

theorem digest_of_anomalies (hs : s.settings.errorLimit = limit) (hl : 0 < limit)
    {anomalies : List ProtocolError} (hne : anomalies ≠ [])
    (hover : limit < s.receiver.strikes + UInt32.ofNat anomalies.length) :
    ∃ n, limit < n ∧ (digest (anomalies.map .error ++ rest) s).1 = some (anomaliesInRow n) := by
  induction anomalies generalizing s with
  | nil => exact absurd rfl hne
  | cons e anomalies ih =>
    rw [List.map_cons, List.cons_append, digest]
    by_cases hlast : limit < s.receiver.strikes + 1
    · obtain ⟨s', he⟩ := strike_of_overrun hs hl hlast e
      rw [he]
      exact ⟨_, hlast, rfl⟩
    · obtain ⟨s', he, hs', hstrikes⟩ := strike_of_le hs hlast e
      rw [he]
      have hmore : anomalies ≠ [] := by
        rintro rfl
        exact hlast hover
      refine ih hs' hmore ?_
      rwa [hstrikes, ← ofNat_length_cons]

/-- If the count is not over the limit yet, it does not go around before it is. -/
theorem digest_of_many (hs : s.settings.errorLimit = limit) (hl : 0 < limit)
    {anomalies : List ProtocolError} (hfew : ¬ limit < s.receiver.strikes)
    (hmany : limit < UInt32.ofNat anomalies.length) :
    ∃ n, limit < n ∧ (digest (anomalies.map .error ++ rest) s).1 = some (anomaliesInRow n) := by
  rw [UInt32.lt_iff_toNat_lt] at hfew
  rw [UInt32.lt_iff_toNat_lt, UInt32.toNat_ofNat'] at hmany
  have hmod := Nat.mod_le anomalies.length (2 ^ 32)
  have hlength : (anomalies.take (limit.toNat + 1 - s.receiver.strikes.toNat)).length =
      limit.toNat + 1 - s.receiver.strikes.toNat :=
    List.length_take_of_le (by omega)
  rw [← List.take_append_drop (limit.toNat + 1 - s.receiver.strikes.toNat) anomalies,
    List.map_append, List.append_assoc]
  refine digest_of_anomalies hs hl ?_ ?_
  · rw [ne_eq, ← List.length_eq_zero_iff, hlength]
    omega
  · rw [hlength, UInt32.lt_iff_toNat_lt, UInt32.toNat_add, UInt32.toNat_ofNat']
    omega

/-- A result is a failure, or the count is not over the limit after it. -/
theorem digest_cons_cases (hs : s.settings.errorLimit = limit) (hl : 0 < limit)
    (r : Except ProtocolError Frame) (results : List (Except ProtocolError Frame)) :
    (∃ n, limit < n ∧ (digest (r :: results) s).1 = some (anomaliesInRow n)) ∨
      ∃ s' : Session σ, digest (r :: results) s = digest results s' ∧
        s'.settings.errorLimit = limit ∧ ¬ limit < s'.receiver.strikes := by
  cases r with
  | ok f =>
    refine .inr ⟨s.receive f, rfl, (settings_receive s f).symm ▸ hs, ?_⟩
    rw [strikes_receive]
    exact UInt32.not_lt_zero
  | error e =>
    rw [digest]
    by_cases hlast : limit < s.receiver.strikes + 1
    · obtain ⟨s', he⟩ := strike_of_overrun hs hl hlast e
      rw [he]
      exact .inl ⟨_, hlast, rfl⟩
    · obtain ⟨s', he, hs', hstrikes⟩ := strike_of_le hs hlast e
      rw [he]
      exact .inr ⟨s', rfl, hs', hstrikes ▸ hlast⟩

theorem digest_of_later (hs : s.settings.errorLimit = limit) (hl : 0 < limit)
    {anomalies : List ProtocolError} (hfew : ¬ limit < s.receiver.strikes)
    (hmany : limit < UInt32.ofNat anomalies.length) (front : List (Except ProtocolError Frame)) :
    ∃ n, limit < n ∧
      (digest (front ++ (anomalies.map .error ++ rest)) s).1 = some (anomaliesInRow n) := by
  induction front generalizing s with
  | nil => exact digest_of_many hs hl hfew hmany
  | cons r front ih =>
    obtain hnow | ⟨s', hnext, hs', hfew'⟩ := digest_cons_cases hs hl r (front ++ _)
    · exact hnow
    · rw [List.cons_append, hnext]
      exact ih hs' hfew'

theorem digest_of_overrun (hs : s.settings.errorLimit = limit) (hl : 0 < limit)
    (hover : Overrun limit s.receiver.strikes results) :
    ∃ n, limit < n ∧ (digest results s).1 = some (anomaliesInRow n) := by
  obtain ⟨front, anomalies, rest, rfl, hne, hover⟩ := hover
  rw [List.append_assoc]
  cases front with
  | nil => exact digest_of_anomalies hs hl hne hover
  | cons r front =>
    rw [if_neg (List.cons_ne_nil r front), UInt32.zero_add] at hover
    obtain hnow | ⟨s', hnext, hs', hfew⟩ := digest_cons_cases hs hl r (front ++ _)
    · exact hnow
    · rw [List.cons_append, hnext]
      exact digest_of_later hs' hl hfew hover front

theorem ingest_fst (s : Session σ) (p : Packet) :
    (s.ingest p).1 =
      (digest (s.receiver.decoder.extend p.data).drain.1 { s with
        receiver := { s.receiver with
          decoder := (s.receiver.decoder.extend p.data).drain.2
          heardAt := s.clock
          heardAge := p.age } }).1 := by
  rw [ingest]
  dsimp only
  split <;> next he => rw [he]

theorem strike_fst (s : Session σ) (e : ProtocolError) :
    (s.strike e).1 =
      if 0 < s.settings.errorLimit ∧ s.settings.errorLimit < s.receiver.strikes + 1 then
        some (anomaliesInRow (s.receiver.strikes + 1))
      else none :=
  apply_ite Prod.fst _ _ _

theorem digest_singleton (s : Session σ) (e : ProtocolError) :
    (digest [.error e] s).1 = (s.strike e).1 := by
  rw [digest]
  split
  · next he => rw [he]
  · next he => rw [he, digest]

theorem expire_fst (s : Session σ) : s.expire.1 = (digest s.abandoned s).1 := by
  rw [expire, abandoned]
  split
  · rfl
  · split
    · rfl
    · rw [digest_singleton]
      exact (strike_fst _ _).trans (strike_fst s _).symm

theorem findings_of_error {e : TransportError} (he : e ≠ .timeout) :
    s.findings (.error e) = [] := by
  cases e with
  | timeout => exact absurd rfl he
  | _ => rfl

theorem takeIn_of_overrun {outcome : Except TransportError Packet}
    (hs : s.settings.errorLimit = limit) (hl : 0 < limit)
    (hover : Overrun limit s.receiver.strikes (s.findings outcome)) :
    ∃ n, limit < n ∧ (s.takeIn T outcome).1 = some (anomaliesInRow n) := by
  cases outcome with
  | ok p =>
    rw [findings] at hover
    rw [takeIn]
    by_cases hp : p.data.isEmpty = true
    · rw [if_pos hp] at hover ⊢
      rw [expire_fst]
      exact digest_of_overrun hs hl hover
    · rw [if_neg hp] at hover ⊢
      rw [ingest_fst]
      exact digest_of_overrun hs hl hover
  | error e =>
    by_cases he : e = .timeout
    · subst he
      rw [takeIn, expire_fst]
      exact digest_of_overrun hs hl hover
    · rw [findings_of_error he] at hover
      obtain ⟨front, anomalies, rest, hresults, hne, -⟩ := hover
      simp [hne] at hresults

theorem takeIn_of_error {e : TransportError} (he : e ≠ .timeout) :
    s.takeIn T (.error e) = (some (s.readFailure T e), s) := by
  cases e with
  | timeout => exact absurd rfl he
  | _ => rfl

end Session
end FrameLink
