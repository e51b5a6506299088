import FrameLink.Bytes
import FrameLink.Text.Numeral

namespace FrameLink

abbrev SequenceId := UInt16

structure Frame where
  seq : SequenceId
  opcode : UInt8
  payload : Bytes
deriving DecidableEq, Repr, Inhabited

namespace Opcode

def handshake : UInt8 := 0x00

def handshakeAck : UInt8 := 0x01

def request : UInt8 := 0x02

end Opcode

namespace Frame

def minBody : Nat := 3

def bodyLength (f : Frame) : Nat := minBody + f.payload.length

def body (f : Frame) : Bytes := beBytes 2 f.seq.toNat ++ f.opcode :: f.payload

def isHandshakeAck (f : Frame) : Bool := f.opcode == Opcode.handshakeAck

def text (f : Frame) : String :=
  "seq=" ++ toString f.seq.toNat ++ " opcode=" ++ Text.hexMarked 2 f.opcode.toNat ++ " len=" ++
    toString f.payload.length

def ofBody : Bytes → Option Frame
  | hi :: lo :: opcode :: payload => some ⟨UInt16.ofNat (beNat [hi, lo]), opcode, payload⟩
  | _ => none

@[simp] theorem length_body (f : Frame) : f.body.length = f.bodyLength := by
  simp [body, bodyLength, minBody]; omega

theorem ofBody_body (f : Frame) : ofBody f.body = some f := by
  obtain ⟨seq, opcode, payload⟩ := f
  have hlt := seq.toNat_lt
  simp only [body, beBytes, List.nil_append, List.cons_append, ofBody]
  have h := beNat_beBytes 2 seq.toNat (by simpa [wordCount] using hlt)
  simp only [beBytes, List.nil_append, List.cons_append] at h
  rw [h]
  simp

theorem body_of_ofBody {bs : Bytes} {f : Frame} (h : ofBody bs = some f) : f.body = bs := by
  unfold ofBody at h
  split at h
  · next hi lo opcode payload =>
    cases h
    have hlt : beNat [hi, lo] < 2 ^ 16 := by simpa [wordCount] using beNat_lt [hi, lo]
    have hseq : (UInt16.ofNat (beNat [hi, lo])).toNat = beNat [hi, lo] := by
      rw [UInt16.toNat_ofNat', Nat.mod_eq_of_lt hlt]
    simp only [body, hseq, beBytes_beNat 2 [hi, lo] rfl]
    rfl
  · cases h

theorem exists_body_eq {bs : Bytes} (h : minBody ≤ bs.length) : ∃ f : Frame, f.body = bs := by
  match bs, h with
  | hi :: lo :: opcode :: payload, _ => exact ⟨_, body_of_ofBody rfl⟩

end Frame
end FrameLink
