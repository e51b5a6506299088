import FrameLink.Proofs.Session.EventStream
import FrameLink.Session.State
import Mathlib.Algebra.GroupWithZero.Nat

namespace FrameLink

/-- What happens to the event streams of a session. -/
inductive Happening where
  | began
  | event (f : Frame)
  | ceased
  | opened (id : StreamId) (live : Bool)
  | read (id : StreamId) (missed : Nat) (found : NextEvent)
  | left (id : StreamId)
deriving DecidableEq

namespace Happening

def reader? : Happening → Option StreamId
  | opened id _ => some id
  | read id _ _ => some id
  | left id => some id
  | _ => none

def event? : Happening → Option Frame
  | event f => some f
  | _ => none

def returned? (id : StreamId) : Happening → Option Frame
  | read id' _ found => if id' = id then found.frame? else none
  | _ => none

def missed (id : StreamId) : Happening → Nat
  | read id' n _ => if id' = id then n else 0
  | _ => 0

def deliveries : Happening → Nat
  | read _ _ found => found.count
  | _ => 0

def drops : Happening → Nat
  | read _ n _ => n
  | _ => 0

variable {id : StreamId} {x : Happening}

theorem ne_opened (hx : x.reader? ≠ some id) (live : Bool) : x ≠ .opened id live := by
  rintro rfl
  exact hx rfl

theorem ne_read (hx : x.reader? ≠ some id) (n : Nat) (found : NextEvent) : x ≠ .read id n found := by
  rintro rfl
  exact hx rfl

theorem returned?_of_other (hx : x.reader? ≠ some id) : x.returned? id = none := by
  cases x with
  | read id' => exact if_neg fun he => hx (congrArg some he)
  | began | event | ceased | opened | left => rfl

theorem missed_of_other (hx : x.reader? ≠ some id) : x.missed id = 0 := by
  cases x with
  | read id' => exact if_neg fun he => hx (congrArg some he)
  | began | event | ceased | opened | left => rfl

end Happening

namespace History

variable {id : StreamId} {hist now : List Happening} {x : Happening} {f : Frame}

/-- What has happened since a stream of a live connection was made. -/
def since (id : StreamId) : List Happening → List Happening
  | [] => []
  | x :: later => if x = .opened id true then later else since id later

def events : List Happening → List Frame
  | [] => []
  | .ceased :: _ => []
  | .event f :: later => f :: events later
  | _ :: later => events later

/-- The events published to a stream: from the time when it was made to the end of its
connection. -/
def published (id : StreamId) (hist : List Happening) : List Frame := events (since id hist)

def IsOver (id : StreamId) (hist : List Happening) : Prop :=
  .opened id false ∈ hist ∨ .ceased ∈ since id hist

instance (id : StreamId) (hist : List Happening) : Decidable (IsOver id hist) :=
  inferInstanceAs (Decidable (_ ∨ _))

def returned (id : StreamId) (hist : List Happening) : List Frame :=
  hist.filterMap (Happening.returned? id)

def missed (id : StreamId) (hist : List Happening) : Nat := (hist.map (Happening.missed id)).sum

/-- How many of the events published to a stream its reader has been given, returned or missed. -/
def taken (id : StreamId) (hist : List Happening) : Nat :=
  (returned id hist).length + missed id hist

theorem since_append (ho : .opened id true ∈ hist) (now : List Happening) :
    since id (hist ++ now) = since id hist ++ now := by
  induction hist with
  | nil => cases ho
  | cons x hist ih =>
    rw [List.cons_append, since, since]
    split
    · rfl
    · next hne => exact ih ((List.mem_cons.mp ho).resolve_left (Ne.symm hne))

theorem since_append_of_not_mem (hn : .opened id true ∉ hist) (now : List Happening) :
    since id (hist ++ now) = since id now := by
  induction hist with
  | nil => rfl
  | cons x hist ih =>
    obtain ⟨hx, hrest⟩ := not_or.mp (mt List.mem_cons.mpr hn)
    rw [List.cons_append, since, if_neg (Ne.symm hx), ih hrest]

theorem since_of_not_mem (hn : .opened id true ∉ hist) : since id hist = [] := by
  have h := since_append_of_not_mem hn []
  rwa [List.append_nil] at h

theorem since_opened (hn : .opened id true ∉ hist) (live : Bool) :
    since id (hist ++ [.opened id live]) = [] := by
  rw [since_append_of_not_mem hn, since]
  split <;> rfl

theorem events_append_of_ceased (hover : .ceased ∈ hist) (now : List Happening) :
    events (hist ++ now) = events hist := by
  induction hist with
  | nil => cases hover
  | cons x hist ih =>
    rw [List.cons_append]
    cases x with
    | ceased => rfl
    | event f => rw [events, events, ih ((List.mem_cons.mp hover).resolve_left nofun)]
    | began | opened | read | left => exact ih ((List.mem_cons.mp hover).resolve_left nofun)

theorem events_append (hn : .ceased ∉ hist) (now : List Happening) :
    events (hist ++ now) = events hist ++ events now := by
  induction hist with
  | nil => rfl
  | cons x hist ih =>
    obtain ⟨hx, hrest⟩ := not_or.mp (mt List.mem_cons.mpr hn)
    rw [List.cons_append]
    cases x with
    | ceased => exact absurd rfl hx
    | event f => rw [events, events, ih hrest, List.cons_append]
    | began | opened | read | left => exact ih hrest

theorem returned_append (id : StreamId) (hist : List Happening) (x : Happening) :
    returned id (hist ++ [x]) = returned id hist ++ (x.returned? id).toList := by
  rw [returned, List.filterMap_append]
  cases h : x.returned? id with
  | none => rw [List.filterMap_cons_none h]; rfl
  | some f => rw [List.filterMap_cons_some h]; rfl

theorem taken_append (id : StreamId) (hist : List Happening) (x : Happening) :
    taken id (hist ++ [x]) =
      taken id hist + ((x.returned? id).toList.length + x.missed id) := by
  rw [taken, taken, returned_append, missed, missed, List.map_append, List.sum_append,
    List.map_singleton, List.sum_singleton, List.length_append]
  omega

theorem returned_of_none (hn : ∀ x ∈ hist, x.reader? ≠ some id) : returned id hist = [] :=
  List.filterMap_eq_nil_iff.mpr fun x hx => Happening.returned?_of_other (hn x hx)

theorem taken_of_none (hn : ∀ x ∈ hist, x.reader? ≠ some id) : taken id hist = 0 := by
  rw [taken, returned_of_none hn, missed]
  induction hist with
  | nil => rfl
  | cons x hist ih =>
    rw [List.map_cons, List.sum_cons, Happening.missed_of_other (hn x List.mem_cons_self), Nat.zero_add]
    exact ih fun y hy => hn y (List.mem_cons_of_mem _ hy)

end History

open History

variable {capacity : Nat} {id : StreamId} {hist : List Happening} {x : Happening}
  {stream : EventStream} {f : Frame}

/-- The state of a stream is what the history says. -/
structure Recorded (capacity : Nat) (hist : List Happening) (id : StreamId) (stream : EventStream) :
    Prop where
  opened : .opened id true ∈ hist ↔ .opened id false ∉ hist
  live : stream.source = .live ↔ ¬ IsOver id hist
  own : stream.source = .live → .began ∉ since id hist
  told : ∀ n, .read id n .ended ∈ hist → stream.source = .ended
  follows : stream.Follows capacity (published id hist) (taken id hist)
  inOrder : (returned id hist).Sublist ((published id hist).take (taken id hist))

namespace Recorded

theorem opened_append (hr : Recorded capacity hist id stream) (hx : ∀ live, x ≠ .opened id live) :
    .opened id true ∈ hist ++ [x] ↔ .opened id false ∉ hist ++ [x] := by
  have hx' (live : Bool) : Happening.opened id live ∉ [x] :=
    fun hm => hx live (List.mem_singleton.mp hm).symm
  rw [List.mem_append, List.mem_append, or_iff_left (hx' true), or_iff_left (hx' false), hr.opened]

theorem mode (hr : Recorded capacity hist id stream) (hx : ∀ live, x ≠ .opened id live) :
    (.opened id true ∈ hist ∧ .opened id false ∉ hist ++ [x]) ∨
      (.opened id false ∈ hist ∧ since id hist = [] ∧ since id (hist ++ [x]) = []) := by
  have ho := hr.opened
  have hox := hr.opened_append hx
  by_cases hm : .opened id true ∈ hist
  · exact .inl ⟨hm, hox.mp (List.mem_append_left _ hm)⟩
  · have hf : .opened id false ∈ hist := not_not.mp (mt ho.mpr hm)
    have hmx : .opened id true ∉ hist ++ [x] :=
      mt hox.mp (not_not.mpr (List.mem_append_left _ hf))
    exact .inr ⟨hf, since_of_not_mem hm, since_of_not_mem hmx⟩

theorem isOver_append (hr : Recorded capacity hist id stream) (hx : ∀ live, x ≠ .opened id live) :
    IsOver id (hist ++ [x]) ↔ IsOver id hist ∨ x = .ceased := by
  obtain ⟨hm, hf⟩ | ⟨hf, -, -⟩ := hr.mode hx
  · have hf' : .opened id false ∉ hist := fun h => hf (List.mem_append_left _ h)
    rw [IsOver, IsOver, or_iff_right hf, or_iff_right hf', since_append hm, List.mem_append,
      List.mem_singleton, eq_comm (a := Happening.ceased)]
  · exact iff_of_true (.inl (List.mem_append_left _ hf)) (.inl (.inl hf))

theorem published_append (hr : Recorded capacity hist id stream)
    (hx : ∀ live, x ≠ .opened id live) :
    published id (hist ++ [x]) =
      published id hist ++ if IsOver id hist then [] else events [x] := by
  obtain ⟨hm, hf⟩ | ⟨hf, hnil, hnil'⟩ := hr.mode hx
  · have hf' : .opened id false ∉ hist := fun h => hf (List.mem_append_left _ h)
    have hover : IsOver id hist ↔ .ceased ∈ since id hist := or_iff_right hf'
    rw [published, published, since_append hm]
    split
    · next h => rw [events_append_of_ceased (hover.mp h), List.append_nil]
    · next h => rw [events_append (mt hover.mpr h)]
  · rw [if_pos (.inl hf), List.append_nil, published, published, hnil, hnil']

theorem own_append (hr : Recorded capacity hist id stream) (hx : ∀ live, x ≠ .opened id live)
    (hs : stream.source = .live) (hb : x ≠ .began) : .began ∉ since id (hist ++ [x]) := by
  obtain ⟨hm, -⟩ | ⟨-, -, hnil⟩ := hr.mode hx
  · rw [since_append hm, List.mem_append, List.mem_singleton]
    exact not_or.mpr ⟨hr.own hs, Ne.symm hb⟩
  · rw [hnil]
    exact List.not_mem_nil

theorem unread (hr : Recorded capacity hist id stream) (hx : x.reader? ≠ some id)
    {stream' : EventStream}
    (hlive : stream'.source = .live ↔ ¬ (IsOver id hist ∨ x = .ceased))
    (hown : x = .began → stream'.source ≠ .live)
    (htold : stream.source = .ended → stream'.source = .ended)
    (hfollows : stream'.Follows capacity
      (published id hist ++ if IsOver id hist then [] else events [x]) (taken id hist)) :
    Recorded capacity (hist ++ [x]) id stream' := by
  have hnew := Happening.ne_opened hx
  have hret : returned id (hist ++ [x]) = returned id hist := by
    rw [returned_append, Happening.returned?_of_other hx]
    exact List.append_nil _
  have htaken : taken id (hist ++ [x]) = taken id hist := by
    rw [taken_append, Happening.returned?_of_other hx, Happening.missed_of_other hx]
    rfl
  constructor
  · exact hr.opened_append hnew
  · rw [hr.isOver_append hnew]
    exact hlive
  · intro hs
    have hbefore : stream.source = .live := hr.live.mpr fun h => hlive.mp hs (.inl h)
    exact hr.own_append hnew hbefore fun hb => hown hb hs
  · intro n hm
    cases List.mem_append.mp hm with
    | inl hm => exact htold (hr.told n hm)
    | inr hm => exact absurd (List.mem_singleton.mp hm).symm (Happening.ne_read hx n .ended)
  · rw [hr.published_append hnew, htaken]
    exact hfollows
  · rw [hr.published_append hnew, htaken, hret, List.take_append_of_le_length hr.follows.le]
    exact hr.inOrder

theorem other (hr : Recorded capacity hist id stream) (hx : x.reader? ≠ some id)
    (hover : x ≠ .ceased) (hbegan : x = .began → stream.source ≠ .live) (hevent : events [x] = []) :
    Recorded capacity (hist ++ [x]) id stream := by
  refine hr.unread hx ?_ hbegan (fun h => h) ?_
  · rw [or_iff_left hover]
    exact hr.live
  · rw [hevent, ite_self, List.append_nil]
    exact hr.follows

theorem event (hr : Recorded capacity hist id stream) (hc : 0 < capacity) (f : Frame) :
    Recorded capacity (hist ++ [.event f]) id (stream.publish capacity f) := by
  refine hr.unread (x := .event f) nofun ?_ nofun ?_ ?_
  · rw [or_iff_left nofun, ← hr.live, EventStream.source_publish]
  · rw [EventStream.source_publish]
    exact fun h => h
  · by_cases hs : stream.source = .live
    · rw [if_neg (hr.live.mp hs)]
      exact hr.follows.publish hc hs f
    · rw [if_pos (not_not.mp (mt hr.live.mpr hs)), List.append_nil, EventStream.publish_of_not_live hs]
      exact hr.follows

theorem ceased (hr : Recorded capacity hist id stream) :
    Recorded capacity (hist ++ [.ceased]) id stream.detach := by
  refine hr.unread (x := .ceased) nofun ?_ nofun ?_ ?_
  · exact iff_of_false stream.source_detach (not_not.mpr (.inr rfl))
  · intro hs
    rw [EventStream.detach, hs]
    exact hs
  · have hnone : events [.ceased] = [] := rfl
    rw [hnone, ite_self, List.append_nil]
    exact hr.follows.detach

/-- A stream that was made without a connection gets nothing. -/
theorem published_of_dead (hr : Recorded capacity hist id stream) (hf : .opened id false ∈ hist) :
    published id hist = [] := by
  rw [published, since_of_not_mem fun hm => hr.opened.mp hm hf]
  rfl

/-- The reader reads the stream: whatever it is told, it has then been given that much more. -/
theorem read (hr : Recorded capacity hist id stream) (hc : 0 < capacity) :
    Recorded capacity (hist ++ [.read id stream.next.1 stream.next.2.1]) id stream.next.2.2 := by
  have hx : ∀ live, Happening.read id stream.next.1 stream.next.2.1 ≠ .opened id live := nofun
  obtain ⟨-, hfound, hnext, hlive⟩ := hr.follows.next hc
  have hreturned : (Happening.read id stream.next.1 stream.next.2.1).returned? id =
      stream.next.2.1.frame? := if_pos rfl
  have hmissed : (Happening.read id stream.next.1 stream.next.2.1).missed id = stream.next.1 :=
    if_pos rfl
  have hpublished := hr.published_append hx
  rw [show events [.read id stream.next.1 stream.next.2.1] = [] from rfl, ite_self,
    List.append_nil] at hpublished
  have htaken := taken_append id hist (.read id stream.next.1 stream.next.2.1)
  rw [hreturned, hmissed, Nat.add_comm _ stream.next.1, ← Nat.add_assoc] at htaken
  constructor
  · exact hr.opened_append hx
  · rw [hr.isOver_append hx, or_iff_left nofun, hlive]
    exact hr.live
  · exact fun hs => hr.own_append hx (hlive.mp hs) nofun
  · intro n hm
    cases List.mem_append.mp hm with
    | inl hm => exact EventStream.ended_next (hr.told n hm)
    | inr hm =>
      have he := List.mem_singleton.mp hm
      rw [Happening.read.injEq] at he
      exact EventStream.ended_of_next he.2.2.symm
  · rw [hpublished, htaken]
    exact hnext
  · rw [hpublished, htaken, returned_append, hreturned, hfound, NextEvent.frame?_behind]
    have hbefore : (returned id hist).Sublist ((published id hist).take
        (taken id hist + stream.next.1)) :=
      hr.inOrder.trans (List.take_sublist_take_left (Nat.le_add_right _ _))
    cases hget : (published id hist)[taken id hist + stream.next.1]? with
    | none =>
      rw [Option.toList_none, List.append_nil]
      exact hbefore
    | some f =>
      rw [Option.toList_some, List.length_singleton, List.take_add_one, hget]
      exact hbefore.append_right _

/-- What the reader will be told next: of every event that the stream could not hold, and then the
first one that it does hold, or of the end. -/
theorem next (hr : Recorded capacity hist id stream) (hc : 0 < capacity) :
    stream.next.1 = (published id hist).length - taken id hist - capacity ∧
    stream.next.2.1 = .behind (published id hist) (taken id hist + stream.next.1)
      (decide (IsOver id hist)) ∧
    (stream.next.2.1 = .ended ↔ IsOver id hist ∧ taken id hist = (published id hist).length) := by
  obtain ⟨hmissed, hfound, -⟩ := hr.follows.next hc
  have hle := hr.follows.le
  have hover : (stream.source != .live) = decide (IsOver id hist) := by
    rw [Bool.eq_iff_iff, bne_iff_ne, decide_eq_true_iff, ne_eq, hr.live, not_not]
  rw [hover] at hfound
  refine ⟨hmissed, hfound, ?_⟩
  rw [hfound, NextEvent.behind_eq_ended_iff, decide_eq_true_iff]
  constructor
  · rintro ⟨ho, hn⟩
    exact ⟨ho, by omega⟩
  · rintro ⟨ho, hn⟩
    exact ⟨ho, by omega⟩

theorem next_of_told (hr : Recorded capacity hist id stream) {n : Nat}
    (hm : .read id n .ended ∈ hist) : stream.next = (0, .ended, stream) := by
  rw [EventStream.next, hr.told n hm]

theorem made (hn : ∀ x ∈ hist, x.reader? ≠ some id) (live : Bool) :
    Recorded capacity (hist ++ [.opened id live]) id
      { source := if live then .live else .ended } := by
  have hunopened (live : Bool) : .opened id live ∉ hist := fun hm => hn _ hm rfl
  have hsince := since_opened (hunopened true) live
  have hpublished : published id (hist ++ [.opened id live]) = [] := by rw [published, hsince]; rfl
  have hreturned : returned id (hist ++ [.opened id live]) = [] := by
    rw [returned_append, returned_of_none hn]
    rfl
  have htaken : taken id (hist ++ [.opened id live]) = 0 := by
    rw [taken_append, taken_of_none hn]
    rfl
  constructor
  · rw [List.mem_append, List.mem_append, or_iff_right (hunopened true),
      or_iff_right (hunopened false)]
    cases live <;> simp
  · rw [IsOver, hsince, List.mem_append, or_iff_right (hunopened false)]
    cases live <;> simp
  · rw [hsince]
    exact fun _ => List.not_mem_nil
  · intro n hm
    cases List.mem_append.mp hm with
    | inl hm => exact absurd rfl (hn _ hm)
    | inr hm => cases List.mem_singleton.mp hm
  · rw [hpublished, htaken]
    exact .fresh _
  · rw [hreturned]
    exact List.nil_sublist _

end Recorded
end FrameLink
