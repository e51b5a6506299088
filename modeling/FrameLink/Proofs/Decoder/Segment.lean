import FrameLink.Decoder

namespace FrameLink

/-- What became of a piece of the bytes that a decoder was fed: a frame was handed out for it; it
was the start marker of a candidate, skipped with an anomaly; it was a byte skipped on the way to a
start marker; or it was a byte thrown away by a reset. -/
inductive Segment where
  | frame (f : Frame)
  | rejected (e : ProtocolError)
  | noise (b : UInt8)
  | dropped (b : UInt8)

def Decoded.segments : Decoded → List Segment
  | .frame f => [.frame f]
  | .anomaly e => [.rejected e]
  | .waiting => []

def Decoded.result : Decoded → Option (Except ProtocolError Frame)
  | .frame f => some (.ok f)
  | .anomaly e => some (.error e)
  | .waiting => none

namespace Segment

def bytes (c : Codec) : Segment → Bytes
  | frame f => c.enclose f.body
  | rejected _ => [startMarker]
  | noise b => [b]
  | dropped b => [b]

def result : Segment → Option (Except ProtocolError Frame)
  | frame f => some (.ok f)
  | rejected e => some (.error e)
  | noise _ => none
  | dropped _ => none

def isSkipped : Segment → Bool
  | frame _ => false
  | rejected _ => true
  | noise _ => true
  | dropped _ => true

def isDropped : Segment → Bool
  | dropped _ => true
  | _ => false

/-- The bytes of a frame are its encoding, and no start marker passes for noise. -/
def Genuine (c : Codec) : Segment → Prop
  | frame f => c.encode f = .ok (c.enclose f.body)
  | noise b => b ≠ startMarker
  | rejected _ => True
  | dropped _ => True

@[simp] theorem flatMap_noise (c : Codec) (bs : Bytes) : (bs.map noise).flatMap (bytes c) = bs := by
  simp [List.flatMap_map, bytes]

@[simp] theorem flatMap_dropped (c : Codec) (bs : Bytes) :
    (bs.map dropped).flatMap (bytes c) = bs := by
  simp [List.flatMap_map, bytes]

theorem length_bytes_pos (c : Codec) (s : Segment) : 0 < (s.bytes c).length := by
  cases s with
  | frame f =>
    rw [bytes, Codec.length_enclose, Codec.headerLength]
    omega
  | rejected | noise | dropped => exact Nat.zero_lt_one

end Segment

variable {c : Codec} {segments before : List Segment} {s t : Segment} {o p : Nat}

/-- Among segments laid out one after another, `s` begins at the offset `o`. -/
inductive StartsAt (c : Codec) : List Segment → Nat → Segment → Prop
  | head {s : Segment} {segments : List Segment} : StartsAt c (s :: segments) 0 s
  | tail {s t : Segment} {segments : List Segment} {o : Nat} (h : StartsAt c segments o t) :
      StartsAt c (s :: segments) ((s.bytes c).length + o) t

namespace StartsAt

theorem append_left (h : StartsAt c segments o s) :
    StartsAt c (before ++ segments) ((before.flatMap (Segment.bytes c)).length + o) s := by
  induction before with
  | nil => simpa using h
  | cons t before ih =>
    rw [List.flatMap_cons, List.length_append, Nat.add_assoc]
    exact .tail ih

theorem append_right (h : StartsAt c segments o s) (after : List Segment) :
    StartsAt c (segments ++ after) o s := by
  induction h with
  | head => exact .head
  | tail _ ih => exact .tail ih

theorem end_le (h : StartsAt c segments o s) :
    o + (s.bytes c).length ≤ (segments.flatMap (Segment.bytes c)).length := by
  induction h with
  | head =>
    rw [List.flatMap_cons, List.length_append]
    omega
  | tail _ ih =>
    rw [List.flatMap_cons, List.length_append]
    omega

theorem end_le_of_lt (hs : StartsAt c segments o s) (ht : StartsAt c segments p t) (h : o < p) :
    o + (s.bytes c).length ≤ p := by
  induction hs generalizing p with
  | head =>
    cases ht with
    | head => omega
    | tail => omega
  | tail _ ih =>
    cases ht with
    | head => omega
    | tail ht =>
      have := ih ht (by omega)
      omega

theorem eq_of_eq (hs : StartsAt c segments o s) (ht : StartsAt c segments p t) (h : o = p) :
    s = t := by
  induction hs generalizing p with
  | @head s =>
    have hpos := s.length_bytes_pos c
    cases ht with
    | head => rfl
    | tail => omega
  | @tail s _ _ _ _ ih =>
    have hpos := s.length_bytes_pos c
    cases ht with
    | head => omega
    | tail ht => exact ih ht (by omega)

end StartsAt
end FrameLink
