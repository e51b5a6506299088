import FrameLink.Session.EventStream
import Mathlib.Data.List.Basic

namespace FrameLink

theorem powerOfTwoAbove_pos (n : Nat) : 0 < powerOfTwoAbove n := by
  induction n using powerOfTwoAbove.induct with
  | case1 n h =>
    rw [powerOfTwoAbove, if_pos h]
    exact Nat.zero_lt_one
  | case2 n h ih =>
    rw [powerOfTwoAbove, if_neg h]
    omega

/-- What a reader finds who has been given so many of the published events, returned or missed: the
next one, or nothing yet, or nothing any more. -/
def NextEvent.behind (published : List Frame) (consumed : Nat) (spent : Bool) : NextEvent :=
  match published[consumed]? with
  | some f => .event f
  | none => if spent then .ended else .empty

def NextEvent.frame? : NextEvent → Option Frame
  | .event f => some f
  | _ => none

theorem NextEvent.behind_eq_ended_iff {published : List Frame} {consumed : Nat} {spent : Bool} :
    behind published consumed spent = .ended ↔ spent = true ∧ published.length ≤ consumed := by
  rw [behind]
  split
  · next f h =>
    have hlt := (List.getElem?_eq_some_iff.mp h).1
    exact iff_of_false nofun fun hover => Nat.not_lt.mpr hover.2 hlt
  · next h =>
    rw [and_iff_left (List.getElem?_eq_none_iff.mp h)]
    cases spent <;> simp

def NextEvent.count (found : NextEvent) : Nat := found.frame?.toList.length

theorem NextEvent.frame?_behind (published : List Frame) (consumed : Nat) (spent : Bool) :
    (behind published consumed spent).frame? = published[consumed]? := by
  rw [behind]
  split
  · next f h => rw [h, frame?]
  · next h => rw [h]; split <;> rfl

namespace EventStream

variable {capacity taken : Nat} {published : List Frame} {stream : EventStream}

theorem publish_of_not_live (hs : stream.source ≠ .live) (f : Frame) :
    stream.publish capacity f = stream := by
  rw [publish]
  split
  · next h => exact absurd h hs
  · rfl

theorem source_publish (capacity : Nat) (f : Frame) (stream : EventStream) :
    (stream.publish capacity f).source = stream.source := by
  rw [publish]
  split
  · dsimp only
    split <;> rfl
  · rfl

theorem source_detach (stream : EventStream) : stream.detach.source ≠ .live := by
  obtain ⟨source, unread, missed⟩ := stream
  cases source <;> exact nofun

theorem source_next (h : stream.source ≠ .live) :
    stream.next.2.2.source ≠ .live := by
  obtain ⟨source, unread, missed⟩ := stream
  cases source with
  | live => exact absurd rfl h
  | «over» => cases unread <;> exact nofun
  | ended => exact nofun

theorem ended_next (hs : stream.source = .ended) : stream.next.2.2.source = .ended := by
  rw [next, hs]
  exact hs

theorem ended_of_next (hf : stream.next.2.1 = .ended) : stream.next.2.2.source = .ended := by
  obtain ⟨source, unread, missed⟩ := stream
  cases source with
  | ended => rfl
  | live | «over» =>
    cases unread with
    | nil => first | rfl | cases hf
    | cons => cases hf

/-- The reader of this stream has been given the first `taken` of the published events, returned or
missed. The stream holds the latest of the others. -/
structure Follows (capacity : Nat) (published : List Frame) (taken : Nat) (stream : EventStream) :
    Prop where
  le : taken ≤ published.length
  missed : stream.source ≠ .ended → stream.missed = published.length - taken - capacity
  unread : stream.source ≠ .ended → stream.unread = published.drop (taken + stream.missed)
  ended : stream.source = .ended → taken = published.length

namespace Follows

theorem fresh (source : EventSource) : Follows capacity [] 0 { source := source } where
  le := Nat.le_refl 0
  missed := fun _ => (Nat.zero_sub _).symm
  unread := fun _ => rfl
  ended := fun _ => rfl

theorem detach (hf : Follows capacity published taken stream) :
    Follows capacity published taken stream.detach := by
  rw [EventStream.detach]
  split
  · next hs =>
    have hne : stream.source ≠ .ended := by rw [hs]; exact nofun
    exact ⟨hf.le, fun _ => hf.missed hne, fun _ => hf.unread hne, nofun⟩
  · exact hf

theorem publish (hf : Follows capacity published taken stream) (hc : 0 < capacity)
    (hs : stream.source = .live) (f : Frame) :
    Follows capacity (published ++ [f]) taken (stream.publish capacity f) := by
  have hne : stream.source ≠ .ended := by rw [hs]; exact nofun
  have hle := hf.le
  have hmissed := hf.missed hne
  have hunread := hf.unread hne
  have hlen : (stream.unread ++ [f]).length = published.length - (taken + stream.missed) + 1 := by
    rw [List.length_append, hunread, List.length_drop]
    rfl
  have hdrop : stream.unread ++ [f] = (published ++ [f]).drop (taken + stream.missed) := by
    rw [hunread, List.drop_append_of_le_length (by omega)]
  rw [EventStream.publish, hs]
  dsimp only
  split
  · next hfits =>
    refine ⟨?_, fun _ => ?_, fun _ => hdrop, nofun⟩
    · rw [List.length_append]
      omega
    · rw [hlen] at hfits
      rw [List.length_append, List.length_singleton]
      dsimp only
      omega
  · next hfull =>
    rw [hlen] at hfull
    refine ⟨?_, fun _ => ?_, fun _ => ?_, nofun⟩
    · rw [List.length_append]
      omega
    · rw [List.length_append, List.length_singleton]
      dsimp only
      omega
    · dsimp only
      rw [hdrop, List.tail_drop, Nat.add_assoc]

/-- When nothing is unread, nothing is missed either. -/
theorem all_taken (hf : Follows capacity published taken stream) (hc : 0 < capacity)
    (hne : stream.source ≠ .ended) (hu : stream.unread = []) :
    stream.missed = 0 ∧ taken = published.length := by
  have hle := hf.le
  have hmissed := hf.missed hne
  have hdrop := hf.unread hne
  rw [hu] at hdrop
  have hlen := List.drop_eq_nil_iff.mp hdrop.symm
  omega

theorem next_unread (hf : Follows capacity published taken stream) (hne : stream.source ≠ .ended)
    {f : Frame} {rest : List Frame} (hu : stream.unread = f :: rest) :
    published[taken + stream.missed]? = some f ∧
      Follows capacity published (taken + stream.missed + 1)
        { stream with unread := rest, missed := 0 } := by
  have hdrop := hf.unread hne
  have hmissed := hf.missed hne
  rw [hu] at hdrop
  have hhead := congrArg List.head? hdrop
  have hrest := congrArg List.tail hdrop
  have hlen := congrArg List.length hdrop
  rw [List.head?_drop] at hhead
  rw [List.tail_drop] at hrest
  rw [List.length_drop, List.length_cons] at hlen
  refine ⟨hhead.symm, by omega, fun _ => ?_, fun _ => hrest, fun he => absurd he hne⟩
  dsimp only
  omega

/-- What a stream tells its reader is what the published events say, and the reader has then been
given that much more of them. -/
theorem next (hf : Follows capacity published taken stream) (hc : 0 < capacity) :
    stream.next.1 = published.length - taken - capacity ∧
    stream.next.2.1 =
      .behind published (taken + stream.next.1) (stream.source != .live) ∧
    Follows capacity published (taken + stream.next.1 + stream.next.2.1.count) stream.next.2.2 ∧
    (stream.next.2.2.source = .live ↔ stream.source = .live) := by
  have hle := hf.le
  by_cases hended : stream.source = .ended
  · have hall := hf.ended hended
    have hnone : published[taken + 0]? = none := List.getElem?_eq_none (by omega)
    have hnext : stream.next = (0, .ended, stream) := by rw [EventStream.next, hended]
    rw [hnext, NextEvent.behind, hnone, hended]
    exact ⟨by omega, rfl, hf, Iff.rfl⟩
  have hmissed := hf.missed hended
  cases hu : stream.unread with
  | nil =>
    obtain ⟨hzero, hall⟩ := hf.all_taken hc hended hu
    have hnone : published[taken + 0]? = none := List.getElem?_eq_none (by omega)
    obtain ⟨source, unread, missed⟩ := stream
    obtain rfl : unread = [] := hu
    obtain rfl : missed = 0 := hzero
    rw [EventStream.next.eq_def, NextEvent.behind]
    cases source with
    | live =>
      dsimp only
      rw [hnone]
      exact ⟨hmissed, rfl, hf, Iff.rfl⟩
    | «over» =>
      dsimp only
      rw [hnone]
      exact ⟨hmissed, rfl, ⟨hle, fun hne => absurd rfl hne, fun hne => absurd rfl hne, fun _ => hall⟩,
        by simp⟩
    | ended => exact absurd rfl hended
  | cons f rest =>
    obtain ⟨hfound, hrest⟩ := hf.next_unread hended hu
    have hnext : stream.next = (stream.missed, .event f, { stream with unread := rest, missed := 0 }) := by
      obtain ⟨source, unread, missed⟩ := stream
      obtain rfl : unread = f :: rest := hu
      cases source with
      | ended => exact absurd rfl hended
      | live | «over» => rfl
    rw [hnext, NextEvent.behind, hfound]
    exact ⟨hmissed, rfl, hrest, Iff.rfl⟩

end Follows
end EventStream
end FrameLink
