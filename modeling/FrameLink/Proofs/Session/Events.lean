import FrameLink.Proofs.Session.Connection
import FrameLink.Proofs.Session.Turns

namespace FrameLink

open History

variable {hist : List Happening} {x : Happening} {f : Frame}

namespace Session

variable {σ : Type} {T : Transport σ} {s s' : Session σ} {now : List Happening}

def streamCapacity (s : Session σ) : Nat := powerOfTwoAbove s.settings.eventCapacity

theorem streamCapacity_pos (s : Session σ) : 0 < s.streamCapacity := powerOfTwoAbove_pos _

/-- The state of all the streams is what the history says, and so are the counters of events. -/
structure Recounted (hist : List Happening) (s : Session σ) : Prop where
  shut : s.phase.isLive = false → s.publishing = false
  silent : s.publishing = false → s.Silent
  unmade : ∀ id, s.streams.length ≤ id → ∀ x ∈ hist, x.reader? ≠ some id
  recorded : ∀ id stream, s.streams[id]? = some stream → .left id ∉ hist →
    Recorded s.streamCapacity hist id stream
  delivered : s.stats.eventsDelivered = (hist.map Happening.deliveries).sum
  dropped : s.stats.eventsDropped = (hist.map Happening.drops).sum

namespace Recounted

theorem new (settings : SessionSettings) (selector : Selector) (pace : Pace) (link : σ) :
    Recounted [] (Session.new settings selector pace link) where
  shut := fun _ => rfl
  silent := fun _ => nofun
  unmade := fun _ _ => nofun
  recorded := nofun
  delivered := rfl
  dropped := rfl

theorem aside (hr : Recounted hist s) (hs : SameStreams s s') : Recounted hist s' := by
  have hc : s'.streamCapacity = s.streamCapacity := by rw [streamCapacity, hs.settings, streamCapacity]
  constructor
  · intro hp
    rw [hs.publishing]
    exact hr.shut (Bool.eq_false_iff.mpr fun h => Bool.eq_false_iff.mp hp (hs.live h))
  · rw [hs.publishing, Silent, hs.streams]
    exact hr.silent
  · rw [hs.streams]
    exact hr.unmade
  · rw [hs.streams, hc]
    exact hr.recorded
  · rw [hs.delivered]
    exact hr.delivered
  · rw [hs.dropped]
    exact hr.dropped

theorem sum_append_singleton (g : Happening → Nat) (hist : List Happening) (x : Happening) :
    ((hist ++ [x]).map g).sum = (hist.map g).sum + g x := by
  rw [List.map_append, List.sum_append, List.map_singleton, List.sum_singleton]

theorem extend (hr : Recounted hist s)
    (hreader : ∀ id, s.streams.length ≤ id → x.reader? ≠ some id)
    (hshut : s'.phase.isLive = false → s'.publishing = false)
    (hsilent : s'.publishing = false → s'.Silent)
    (hlength : s'.streams.length = s.streams.length)
    (hrecorded : ∀ id stream', s'.streams[id]? = some stream' → .left id ∉ hist ++ [x] →
      ∃ stream, s.streams[id]? = some stream ∧ (Recorded s.streamCapacity hist id stream →
        Recorded s'.streamCapacity (hist ++ [x]) id stream'))
    (hdelivered : s'.stats.eventsDelivered = s.stats.eventsDelivered + x.deliveries)
    (hdropped : s'.stats.eventsDropped = s.stats.eventsDropped + x.drops) :
    Recounted (hist ++ [x]) s' := by
  refine ⟨hshut, hsilent, fun id hid y hy => ?_, fun id stream' hstream hleft => ?_, ?_, ?_⟩
  · rw [hlength] at hid
    cases List.mem_append.mp hy with
    | inl hy => exact hr.unmade id hid y hy
    | inr hy =>
      rw [List.mem_singleton.mp hy]
      exact hreader id hid
  · obtain ⟨stream, hs, hnext⟩ := hrecorded id stream' hstream hleft
    exact hnext (hr.recorded id stream hs fun hm => hleft (List.mem_append_left _ hm))
  · rw [hdelivered, hr.delivered, sum_append_singleton]
  · rw [hdropped, hr.dropped, sum_append_singleton]

theorem map (hr : Recounted hist s) (hx : x.reader? = none)
    (hcounts : x.deliveries = 0 ∧ x.drops = 0) {g : EventStream → EventStream} {publishing : Bool}
    {phase : Phase} (hshut : phase.isLive = false → publishing = false)
    (hsilent : publishing = false → ∀ stream ∈ s.streams.map g, stream.source ≠ .live)
    (hg : ∀ id stream, s.streams[id]? = some stream → Recorded s.streamCapacity hist id stream →
      Recorded s.streamCapacity (hist ++ [x]) id (g stream)) :
    Recounted (hist ++ [x])
      { s with streams := s.streams.map g, publishing := publishing, phase := phase } := by
  refine hr.extend (fun id _ => by rw [hx]; nofun) hshut hsilent (List.length_map _) ?_ ?_ ?_
  · intro id stream' hstream _
    rw [List.getElem?_map, Option.map_eq_some_iff] at hstream
    obtain ⟨stream, hs, rfl⟩ := hstream
    exact ⟨stream, hs, hg id stream hs⟩
  · rw [hcounts.1]
    rfl
  · rw [hcounts.2]
    rfl

theorem event (hr : Recounted hist s) (hp : s.publishing = true) (f : Frame) :
    Recounted (hist ++ [.event f]) (s.publish f) := by
  rw [publish, if_pos hp]
  refine hr.map rfl ⟨rfl, rfl⟩ hr.shut ?_ fun id stream _ hs => hs.event s.streamCapacity_pos f
  rw [hp]
  exact Bool.noConfusion

theorem routed (hr : Recounted hist s) (f : Frame) :
    Recounted (hist ++ s.handsOut f) (s.route f) := by
  rw [handsOut]
  by_cases hu : s.Unmatched f
  · have hroute := route_of_unmatched hu
    by_cases hp : s.publishing = true
    · rw [if_pos ⟨hu, hp⟩]
      exact (hr.event hp f).aside hroute
    · rw [if_neg fun h => hp h.2, List.append_nil]
      rw [publish, if_neg hp] at hroute
      exact hr.aside hroute
  · rw [if_neg fun h => hu h.1, List.append_nil]
    exact hr.aside (route_of_matched hu)

theorem ceased (hr : Recounted hist s) (phase : Phase) :
    Recounted (hist ++ [.ceased]) { s.endEvents with phase := phase } := by
  refine hr.map rfl ⟨rfl, rfl⟩ (fun _ => rfl) ?_ fun id stream _ hs => hs.ceased
  intro _ stream hm
  obtain ⟨stream, -, rfl⟩ := List.mem_map.mp hm
  exact stream.source_detach

theorem began (hr : Recounted hist s) (hd : s.phase.isLive = false) :
    Recounted (hist ++ [.began]) { s with publishing := true, phase := .handshaking } := by
  have hsilent := hr.silent (hr.shut hd)
  have hmap : Recounted (hist ++ [.began])
      { s with streams := s.streams.map id, publishing := true, phase := .handshaking } :=
    hr.map rfl ⟨rfl, rfl⟩ nofun nofun fun id stream hstream hs =>
      hs.other nofun nofun (fun _ => hsilent stream (List.mem_of_getElem? hstream)) rfl
  rwa [List.map_id] at hmap

theorem opened (hr : Recounted hist s) :
    Recounted (hist ++ [.opened s.streams.length s.publishing]) s.subscribe.2 := by
  have hlength : s.subscribe.2.streams.length = s.streams.length + 1 := List.length_append
  refine ⟨hr.shut, fun hp stream hm => ?_, fun id hid x hx => ?_, fun id stream hstream hleft => ?_,
    ?_, ?_⟩
  · cases List.mem_append.mp hm with
    | inl hm => exact hr.silent hp stream hm
    | inr hm =>
      rw [List.mem_singleton.mp hm, show s.publishing = false from hp]
      exact nofun
  · rw [hlength] at hid
    cases List.mem_append.mp hx with
    | inl hx => exact hr.unmade id (Nat.le_of_succ_le hid) x hx
    | inr hx =>
      rw [List.mem_singleton.mp hx]
      exact fun he => Nat.ne_of_lt hid (Option.some.inj he)
  · have hleft' : .left id ∉ hist := fun hm => hleft (List.mem_append_left _ hm)
    rw [show s.subscribe.2.streams = s.streams ++ [_] from rfl] at hstream
    by_cases hid : id < s.streams.length
    · rw [List.getElem?_append_left hid] at hstream
      have hx : Happening.reader? (.opened s.streams.length s.publishing) ≠ some id :=
        fun he => Nat.ne_of_gt hid (Option.some.inj he)
      exact (hr.recorded id stream hstream hleft').other hx nofun nofun rfl
    · rw [List.getElem?_append_right (Nat.not_lt.mp hid), List.getElem?_singleton] at hstream
      split at hstream
      · next hz =>
        cases hstream
        obtain rfl : id = s.streams.length :=
          Nat.le_antisymm (Nat.sub_eq_zero_iff_le.mp hz) (Nat.not_lt.mp hid)
        exact .made (hr.unmade _ (Nat.le_refl _)) s.publishing
      · cases hstream
  · rw [sum_append_singleton, ← hr.delivered]
    rfl
  · rw [sum_append_singleton, ← hr.dropped]
    rfl

theorem set (hr : Recounted hist s) {id : StreamId} {stream stream' : EventStream} {stats : Stats}
    (hstream : s.streams[id]? = some stream) (hx : x.reader? = some id) (hevents : events [x] = [])
    (hlive : stream.source ≠ .live → stream'.source ≠ .live)
    (hrecorded : .left id ∉ hist ++ [x] → Recorded s.streamCapacity hist id stream →
      Recorded s.streamCapacity (hist ++ [x]) id stream')
    (hdelivered : stats.eventsDelivered = s.stats.eventsDelivered + x.deliveries)
    (hdropped : stats.eventsDropped = s.stats.eventsDropped + x.drops) :
    Recounted (hist ++ [x]) { s with streams := s.streams.set id stream', stats := stats } := by
  refine hr.extend (fun id' hid' => ?_) hr.shut (fun hp => ?_) (List.length_set ..) ?_
    hdelivered hdropped
  · rw [hx]
    rintro ⟨⟩
    rw [List.getElem?_eq_none hid'] at hstream
    cases hstream
  · exact silent_set (hr.silent hp) id
      (hlive (hr.silent hp stream (List.mem_of_getElem? hstream)))
  · intro id' stream₂ hset hleft
    by_cases he : id = id'
    · subst he
      rw [List.getElem?_set_self', hstream] at hset
      cases hset
      exact ⟨stream, hstream, hrecorded hleft⟩
    · rw [List.getElem?_set_ne he] at hset
      have hother : x.reader? ≠ some id' := by
        rw [hx]
        exact fun h => he (Option.some.inj h)
      have hconnection (y : Happening) (hy : y.reader? = none) : x ≠ y := by
        rintro rfl
        rw [hy] at hx
        cases hx
      refine ⟨stream₂, hset, fun hrec => hrec.other hother (hconnection _ rfl) ?_ hevents⟩
      exact fun hb => absurd hb (hconnection _ rfl)

theorem read (hr : Recounted hist s) (id : StreamId) :
    Recounted (hist ++ s.readsOut id) (s.nextEvent id).2 := by
  rw [nextEvent, readsOut]
  cases hs : s.streams[id]? with
  | none =>
    dsimp only
    rwa [List.append_nil]
  | some stream =>
    refine hr.set hs rfl rfl EventStream.source_next (fun _ h => h.read s.streamCapacity_pos) ?_ rfl
    cases hf : stream.next.2.1 <;> rfl

theorem left (hr : Recounted hist s) (id : StreamId) :
    Recounted (hist ++ s.parts id) (s.unsubscribe id) := by
  rw [unsubscribe, parts]
  by_cases hid : id < s.streams.length
  · rw [if_pos hid]
    refine hr.set (List.getElem?_eq_getElem hid) rfl rfl (fun _ => EventSource.noConfusion) (fun hleft => ?_)
      rfl rfl
    exact absurd (List.mem_append_right _ (List.mem_singleton.mpr rfl)) hleft
  · rw [if_neg hid, List.append_nil, List.set_eq_of_length_le (Nat.not_lt.mp hid)]
    exact hr

theorem turn (hr : Recounted hist s) (ht : Turn T s now s') : Recounted (hist ++ now) s' := by
  cases ht with
  | aside hs =>
    rw [List.append_nil]
    exact hr.aside hs.sameStreams
  | routed f => exact hr.routed f
  | ceased hs => exact (hr.ceased _).aside hs.sameStreams
  | began link hd => exact (hr.began hd).aside ⟨rfl, rfl, rfl, rfl, rfl, id⟩
  | opened => exact hr.opened
  | read id => exact hr.read id
  | left id => exact hr.left id

theorem turns (hr : Recounted hist s) (ht : Turns T s now s') : Recounted (hist ++ now) s' := by
  induction ht with
  | refl => rwa [List.append_nil]
  | tail _ ht ih =>
    rw [← List.append_assoc]
    exact ih.turn ht

end Recounted
end Session

namespace Client

open Session

variable {σ : Type}

/-- Whatever is done with a new session, there is a history of it that tells what happens to the
event streams. Its events are frames that were routed, in that order, each at a time when it
answered no request. The reader of a stream has been given events that were published on the
stream's own connection after the stream was made: in order, none of them twice. If it is told that
it missed some, these are the oldest it had not been given, as many as the stream could not hold. It
is told of the end when the connection is over and every event has been returned or missed, or at
once if there was no connection, and from then on it is told nothing else. What all readers together
were given is what the counters say. -/
theorem run_new_recounted (T : Transport σ) (settings : SessionSettings) (selector : Selector)
    (pace : Pace) (link : σ) (calls : List (Call σ)) :
    let c : Client σ := { session := Session.new settings selector pace link }
    let s := (run T c calls).session
    (s.phase.isLive = false → s.publishing = false) ∧
    (∃ hist, Chronicle T c calls hist) ∧
    ∀ hist, Chronicle T c calls hist →
      (∀ before f after, hist = before ++ .event f :: after →
        ∃ s₁, Turns T c.session before s₁ ∧ s₁.Unmatched f ∧ s₁.publishing = true ∧
          Turns T (s₁.route f) after s) ∧
      (hist.filterMap Happening.event?).Sublist s.arrived ∧
      (∀ id live, .opened id live ∈ hist → .left id ∉ hist →
        let all := published id hist
        let given := taken id hist
        let missed := all.length - given - powerOfTwoAbove settings.eventCapacity
        let found := NextEvent.behind all (given + missed) (decide (IsOver id hist))
        given = (returned id hist).length + History.missed id hist ∧ given ≤ all.length ∧
        (returned id hist).Sublist (all.take given) ∧
        (¬ IsOver id hist → .began ∉ since id hist) ∧
        s.readsOut id = [.read id missed found] ∧ (s.nextEvent id).1 = found ∧
        (found = .ended ↔ IsOver id hist ∧ given = all.length) ∧
        (live = false → all = [] ∧ found = .ended) ∧
        ∀ n, .read id n .ended ∈ hist → found = .ended ∧ (s.nextEvent id).2.streams = s.streams) ∧
      s.stats.eventsDelivered = (hist.map Happening.deliveries).sum ∧
      s.stats.eventsDropped = (hist.map Happening.drops).sum := by
  intro c s
  have hrecounted {hist : List Happening} (h : Chronicle T c calls hist) : Recounted hist s :=
    (Recounted.new settings selector pace link).turns h.turns
  have hcapacity : s.streamCapacity = powerOfTwoAbove settings.eventCapacity :=
    congrArg (fun t : SessionSettings => powerOfTwoAbove t.eventCapacity) (settings_run T c calls)
  obtain ⟨hist₀, hc₀⟩ := exists_chronicle T c calls
  refine ⟨(hrecounted hc₀).shut, ⟨hist₀, hc₀⟩, fun hist hc => ?_⟩
  have hr := hrecounted hc
  refine ⟨?_, ?_, ?_, hr.delivered, hr.dropped⟩
  · rintro before f after rfl
    exact hc.turns.event
  · obtain ⟨frames, harrived, hsub⟩ := hc.turns.arrived
    have hall : s.arrived = frames := harrived
    rwa [hall]
  · intro id live hopened hleft all given missed found
    have hid : id < s.streams.length := by
      by_contra hid
      exact hr.unmade id (Nat.not_lt.mp hid) _ hopened rfl
    obtain ⟨stream, hs⟩ : ∃ stream, s.streams[id]? = some stream := ⟨_, List.getElem?_eq_getElem hid⟩
    have hrec := hr.recorded id stream hs hleft
    obtain ⟨hmissed, hfound, hended⟩ := hrec.next s.streamCapacity_pos
    rw [hmissed] at hfound
    rw [hcapacity] at hmissed hfound
    have hnext : (s.nextEvent id).1 = stream.next.2.1 := by rw [nextEvent, hs]
    refine ⟨rfl, hrec.follows.le, hrec.inOrder, fun ho => hrec.own (hrec.live.mpr ho), ?_, ?_, ?_, ?_,
      ?_⟩
    · rw [readsOut, hs]
      dsimp only
      rw [hmissed, hfound]
    · rw [hnext, hfound]
    · rw [← hended, hfound]
    · rintro rfl
      have hnil : published id hist = [] := hrec.published_of_dead hopened
      have hall : taken id hist = (published id hist).length :=
        Nat.le_antisymm hrec.follows.le (by rw [hnil]; exact Nat.zero_le _)
      exact ⟨hnil, hfound.symm.trans (hended.mpr ⟨.inl hopened, hall⟩)⟩
    · intro n hm
      have htold := hrec.next_of_told hm
      refine ⟨?_, ?_⟩
      · rw [htold] at hfound
        exact hfound.symm
      · rw [nextEvent, hs]
        dsimp only
        rw [htold]
        obtain ⟨_, rfl⟩ := List.getElem?_eq_some_iff.mp hs
        exact List.set_getElem_self _

end Client
end FrameLink
