import FrameLink.Codec

namespace FrameLink

/-- What the bytes behind a start marker turn out to be. -/
inductive Verdict where
  | incomplete
  | reject (e : ProtocolError)
  | accept (f : Frame) (rest : Bytes)
deriving DecidableEq, Repr

/-- Judges the bytes behind a start marker: first the length by its check and its range, then, once
body and checksum are complete, the body. -/
def Codec.judge (c : Codec) (bs : Bytes) : Verdict :=
  let length := bs.take c.lengthWidth.bytes
  match bs.drop c.lengthWidth.bytes with
  | [] => .incomplete
  | check :: tail =>
    if check ≠ headerCheck length then
      .reject (.checksumMismatch check.toNat (headerCheck length).toNat)
    else if c.maxBody < beNat length then
      .reject (.malformedFrame (.lengthExceedsMax (beNat length) c.maxBody))
    else if beNat length < Frame.minBody then
      .reject (.malformedFrame (.lengthBelowMinimum (beNat length) Frame.minBody))
    else
      let body := tail.take (beNat length)
      let behind := tail.drop (beNat length)
      let carried := behind.take c.checksum.width
      if carried.length < c.checksum.width then .incomplete
      else if beNat carried ≠ c.checksum.value (c.covered body) then
        .reject (.checksumMismatch (beNat carried) (c.checksum.value (c.covered body)))
      else match Frame.ofBody body with
        | some f => .accept f (behind.drop c.checksum.width)
        | none => .incomplete

theorem Codec.length_le_of_judge {c : Codec} {bs rest : Bytes} {f : Frame}
    (h : c.judge bs = .accept f rest) : rest.length ≤ bs.length := by
  simp only [judge] at h
  split at h
  · cases h
  · next check tail htail =>
    have hlen : tail.length < bs.length := by
      have := congrArg List.length htail
      simp only [List.length_drop, List.length_cons] at this
      omega
    split at h
    · cases h
    split at h
    · cases h
    split at h
    · cases h
    split at h
    · cases h
    split at h
    · cases h
    split at h
    · cases h
      simp only [List.length_drop]
      omega
    · cases h

/-- The state of a receiver: the bytes it holds, and how many it has thrown away since last
asked. -/
structure Decoder where
  codec : Codec
  buffer : Bytes
  skipped : Nat

inductive Decoded where
  | frame (f : Frame)
  | anomaly (e : ProtocolError)
  | waiting
deriving DecidableEq, Repr

namespace Decoder

def new (codec : Codec) : Decoder := ⟨codec, [], 0⟩

instance : Inhabited Decoder := ⟨new .standard⟩

def extend (d : Decoder) (bs : Bytes) : Decoder := { d with buffer := d.buffer ++ bs }

/-- Tries to take one frame from the front, behind any noise. -/
def next (d : Decoder) : Decoded × Decoder :=
  let noise := d.buffer.takeWhile (· != startMarker)
  match d.buffer.dropWhile (· != startMarker) with
  | [] => (.waiting, { d with buffer := [], skipped := d.skipped + noise.length })
  | marker :: behind =>
    match d.codec.judge behind with
    | .incomplete =>
      (.waiting, { d with buffer := marker :: behind, skipped := d.skipped + noise.length })
    | .reject e => (.anomaly e, { d with buffer := behind, skipped := d.skipped + noise.length + 1 })
    | .accept f rest => (.frame f, { d with buffer := rest, skipped := d.skipped + noise.length })

theorem length_dropWhile_le (p : UInt8 → Bool) (bs : Bytes) :
    (bs.dropWhile p).length ≤ bs.length := by
  induction bs with
  | nil => simp
  | cons b bs ih =>
    simp only [List.dropWhile_cons]
    split
    · simp only [List.length_cons]; omega
    · simp

/-- Each frame and each anomaly uses up at least one byte. -/
theorem length_next_lt {d : Decoder} (h : d.next.1 ≠ .waiting) :
    d.next.2.buffer.length < d.buffer.length := by
  have hle := length_dropWhile_le (· != startMarker) d.buffer
  unfold next at h ⊢
  split at h
  · exact absurd rfl h
  · next marker behind hd =>
    rw [hd, List.length_cons] at hle
    dsimp only at h ⊢
    cases hj : d.codec.judge behind with
    | incomplete => rw [hj] at h; exact absurd rfl h
    | reject e => dsimp only; omega
    | accept f rest =>
      have hr := Codec.length_le_of_judge hj
      dsimp only
      omega

def drain (d : Decoder) : List (Except ProtocolError Frame) × Decoder :=
  match h : d.next with
  | (.waiting, d') => ([], d')
  | (.frame f, d') =>
    have : d'.buffer.length < d.buffer.length := by
      have := length_next_lt (d := d) (by rw [h]; simp)
      rwa [h] at this
    let (rest, last) := d'.drain
    (.ok f :: rest, last)
  | (.anomaly e, d') =>
    have : d'.buffer.length < d.buffer.length := by
      have := length_next_lt (d := d) (by rw [h]; simp)
      rwa [h] at this
    let (rest, last) := d'.drain
    (.error e :: rest, last)
termination_by d.buffer.length

def feed (d : Decoder) : List Bytes → List (Except ProtocolError Frame) × Decoder
  | [] => ([], d)
  | bs :: transfers =>
    let (now, d) := (d.extend bs).drain
    let (later, d) := d.feed transfers
    (now ++ later, d)

def reset (d : Decoder) : Nat × Decoder :=
  (d.buffer.length, { d with buffer := [], skipped := d.skipped + d.buffer.length })

def takeSkipped (d : Decoder) : Nat × Decoder := (d.skipped, { d with skipped := 0 })

end Decoder

def Codec.decode (c : Codec) (bs : Bytes) : Decoded := ((Decoder.new c).extend bs).next.1

end FrameLink
