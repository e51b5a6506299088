import FrameLink.Proofs.Usb.Calls

namespace FrameLink
namespace Usb

def Call.user? : Call → Option Nat
  | .readString d _ => some d
  | .driverActive d _ => some d
  | .detach d _ => some d
  | .attach d _ => some d
  | .claim d _ => some d
  | .release d _ => some d
  | .bulkOut d _ _ _ => some d
  | .bulkIn d _ _ _ => some d
  | .interruptIn d _ _ _ => some d
  | _ => none

def Attempt.isPlain : Attempt → Bool
  | ⟨.openDevice _, ok⟩ => !ok
  | ⟨.closeDevice _, _⟩ => false
  | ⟨.detach _ _, ok⟩ => !ok
  | ⟨.attach _ _, _⟩ => false
  | ⟨.claim _ _, ok⟩ => !ok
  | ⟨.release _ _, _⟩ => false
  | _ => true

/-- An open device is used, and nothing has to be undone for it. -/
def Plain (d : Nat) (made : List Attempt) : Prop :=
  ∀ x ∈ made, x.call.user? = some d ∧ x.isPlain = true

/-- What is done with a device from its opening to its closing, and all that is done meanwhile. The
release of an interface is attempted once it was claimed. A kernel driver is attached again as often
as it was detached, be it with success or not, and not before the claim has failed or the release
has been attempted. -/
structure Orderly (d : Nat) (body : List Attempt) : Prop where
  own : ∀ x ∈ body, x.call.user? = some d
  released : ∀ i before after, body = before ++ ⟨.claim d i, true⟩ :: after →
    ∃ ok, ⟨.release d i, ok⟩ ∈ after
  reattached : ∀ i, (body.map Attempt.call).count (.attach d i) = body.count ⟨.detach d i, true⟩
  inTurn : ∀ i ok before after, body = before ++ ⟨.attach d i, ok⟩ :: after →
    ⟨.detach d i, true⟩ ∈ before ∧
      (⟨.claim d i, false⟩ ∈ before ∨ ∃ ok, ⟨.release d i, ok⟩ ∈ before)

/-- A history in which all devices that were opened have been closed again, after orderly lives. -/
inductive Balanced : List Attempt → Prop
  | nil : Balanced []
  | idle {history : List Attempt} {x : Attempt} :
    Balanced history → x.call.user? = none → x.isPlain = true → Balanced (history ++ [x])
  | life {history body : List Attempt} {d : Nat} : Balanced history → Orderly d body →
    Balanced (history ++ ⟨.openDevice d, true⟩ :: (body ++ [⟨.closeDevice d, true⟩]))

/-- What is done with an open device while it is in use: whether its interface `i` has been taken
from a kernel driver, which happens once, and whether it has been claimed. Nothing has been given
back. -/
structure InUse (d : Nat) (i : UInt8) (detached claimed : Bool) (body : List Attempt) : Prop where
  own : ∀ x ∈ body, x.call.user? = some d
  detaches : ∀ j, body.count ⟨.detach d j, true⟩ = if j = i ∧ detached = true then 1 else 0
  claims : ∀ j, ⟨.claim d j, true⟩ ∈ body ↔ j = i ∧ claimed = true
  kept : ∀ x ∈ body, ∀ j, x.call ≠ .attach d j ∧ x.call ≠ .release d j

variable {d : Nat} {i : UInt8} {detached claimed : Bool} {body more : List Attempt}

namespace Plain

theorem nil (d : Nat) : Plain d [] := nofun

theorem singleton {x : Attempt} (hu : x.call.user? = some d) (hp : x.isPlain = true) :
    Plain d [x] :=
  List.forall_mem_singleton.mpr ⟨hu, hp⟩

theorem append (hp : Plain d body) (hm : Plain d more) : Plain d (body ++ more) :=
  List.forall_mem_append.mpr ⟨hp, hm⟩

end Plain

section Split

variable {α : Type} {x : α} {xs ys before after : List α}

/-- Where something is found that is not in the first part of a list, that part lies before it. -/
theorem subset_before (hx : x ∉ xs) (h : xs ++ ys = before ++ x :: after) : xs ⊆ before := by
  obtain ⟨more, rfl, -⟩ | ⟨more, rfl, hmore⟩ := List.append_eq_append_iff.mp h
  · exact List.subset_append_left _ _
  · cases more with
    | nil => simp
    | cons y more =>
      rw [List.cons_append, List.cons.injEq] at hmore
      exact absurd (by simp [hmore.1]) hx

theorem subset_after (hx : x ∉ ys) (h : xs ++ ys = before ++ x :: after) : ys ⊆ after := by
  obtain ⟨more, rfl, hmore⟩ | ⟨more, rfl, hmore⟩ := List.append_eq_append_iff.mp h
  · exact absurd (by simp [hmore]) hx
  · cases more with
    | nil =>
      rw [List.nil_append] at hmore
      exact absurd (by simp [← hmore]) hx
    | cons y more =>
      rw [List.cons_append, List.cons.injEq] at hmore
      simp [hmore.2]

end Split

namespace InUse

theorem nil (d : Nat) (i : UInt8) : InUse d i false false [] where
  own := nofun
  detaches := by simp
  claims := by simp
  kept := nofun

theorem append (hu : InUse d i detached claimed body)
    (hp : Plain d more) : InUse d i detached claimed (body ++ more) where
  own := List.forall_mem_append.mpr ⟨hu.own, fun x hx => (hp x hx).1⟩
  detaches := by
    intro j
    have hn : more.count ⟨.detach d j, true⟩ = 0 := by
      rw [List.count_eq_zero]
      intro hx
      cases (hp _ hx).2
    rw [List.count_append, hn, hu.detaches, Nat.add_zero]
  claims := by
    intro j
    rw [List.mem_append, hu.claims, or_iff_left]
    intro hx
    cases (hp _ hx).2
  kept := by
    refine List.forall_mem_append.mpr ⟨hu.kept, fun ⟨c, ok⟩ hx j => ⟨?_, ?_⟩⟩
    · rintro rfl
      cases (hp _ hx).2
    · rintro rfl
      cases (hp _ hx).2

theorem detach (hu : InUse d i false claimed body) (ok : Bool) :
    InUse d i ok claimed (body ++ [⟨.detach d i, ok⟩]) where
  own := List.forall_mem_append.mpr ⟨hu.own, List.forall_mem_singleton.mpr rfl⟩
  detaches := by
    intro j
    rw [List.count_append, hu.detaches]
    by_cases hj : j = i
    · subst hj
      cases ok <;> simp
    · simp [hj, Ne.symm hj]
  claims := by simp [hu.claims]
  kept := List.forall_mem_append.mpr
    ⟨hu.kept, List.forall_mem_singleton.mpr fun _ => ⟨nofun, nofun⟩⟩

theorem claim (hu : InUse d i detached false body) (ok : Bool) :
    InUse d i detached ok (body ++ [⟨.claim d i, ok⟩]) where
  own := List.forall_mem_append.mpr ⟨hu.own, List.forall_mem_singleton.mpr rfl⟩
  detaches := by simp [List.count_append, hu.detaches]
  claims := by simp [hu.claims, eq_comm]
  kept := List.forall_mem_append.mpr
    ⟨hu.kept, List.forall_mem_singleton.mpr fun _ => ⟨nofun, nofun⟩⟩

end InUse

section GivenBack

variable {first back rest : List Attempt}

structure GivenBack (d : Nat) (i : UInt8) (detached claimed : Bool)
    (first back rest : List Attempt) : Prop where
  first : first.map Attempt.call = if claimed then [.release d i] else []
  back : back.map Attempt.call = if detached then [.attach d i] else []
  rest : ∃ interfaces : List UInt8, rest.map Attempt.call = interfaces.map (.release d)

namespace GivenBack

theorem call_first (hg : GivenBack d i detached claimed first back rest) :
    ∀ x ∈ first, x.call = .release d i := by
  intro x hx
  have hx := hg.first ▸ List.mem_map_of_mem hx
  split at hx <;> simp_all

theorem call_back (hg : GivenBack d i detached claimed first back rest) :
    ∀ x ∈ back, x.call = .attach d i ∧ detached = true := by
  intro x hx
  have hx := hg.back ▸ List.mem_map_of_mem hx
  split at hx <;> simp_all

theorem call_rest (hg : GivenBack d i detached claimed first back rest) :
    ∀ x ∈ rest, ∃ j, x.call = .release d j := by
  intro x hx
  obtain ⟨interfaces, hrest⟩ := hg.rest
  have hx := hrest ▸ List.mem_map_of_mem hx
  obtain ⟨j, -, hj⟩ := List.mem_map.mp hx
  exact ⟨j, hj.symm⟩

theorem cases_call (hg : GivenBack d i detached claimed first back rest) :
    ∀ x ∈ first ++ (back ++ rest),
      (∃ j, x.call = .release d j) ∨ x.call = .attach d i ∧ detached = true := by
  simp only [List.forall_mem_append]
  exact ⟨fun x hx => .inl ⟨i, hg.call_first x hx⟩, fun x hx => .inr (hg.call_back x hx),
    fun x hx => .inl (hg.call_rest x hx)⟩

theorem count_attach (hg : GivenBack d i detached claimed first back rest) (j : UInt8) :
    ((first ++ (back ++ rest)).map Attempt.call).count (.attach d j) =
      if j = i ∧ detached = true then 1 else 0 := by
  obtain ⟨interfaces, hrest⟩ := hg.rest
  have hr : (interfaces.map (Call.release d)).count (.attach d j) = 0 := by
    simp [List.count_eq_zero]
  simp only [List.map_append, List.count_append, hg.first, hg.back, hrest, hr]
  by_cases hj : j = i
  · subst hj
    cases claimed <;> cases detached <;> simp
  · cases claimed <;> cases detached <;> simp [hj, Ne.symm hj]

end GivenBack

/-- A device that was in use has led an orderly life, once everything is given back. -/
theorem InUse.orderly (hu : InUse d i detached claimed body)
    (hg : GivenBack d i detached claimed first back rest)
    (hturn : detached = true → claimed = false → ⟨.claim d i, false⟩ ∈ body) :
    Orderly d (body ++ (first ++ (back ++ rest))) where
  own := by
    refine List.forall_mem_append.mpr ⟨hu.own, fun x hx => ?_⟩
    obtain ⟨j, hx⟩ | ⟨hx, -⟩ := hg.cases_call x hx <;> rw [hx] <;> rfl
  released := by
    intro j before after h
    have hafter : ⟨.claim d j, true⟩ ∉ first ++ (back ++ rest) := by
      intro hx
      obtain ⟨_, hx⟩ | ⟨hx, -⟩ := hg.cases_call _ hx <;> cases hx
    have hm : (⟨.claim d j, true⟩ : Attempt) ∈ body ++ (first ++ (back ++ rest)) := by simp [h]
    obtain ⟨rfl, rfl⟩ := (hu.claims j).mp ((List.mem_append.mp hm).resolve_right hafter)
    obtain ⟨⟨c, ok⟩, rfl, rfl⟩ := List.map_eq_singleton_iff.mp hg.first
    exact ⟨ok, subset_after hafter h (by simp)⟩
  reattached := by
    intro j
    have hn : (body.map Attempt.call).count (.attach d j) = 0 := by
      rw [List.count_eq_zero, List.mem_map]
      rintro ⟨x, hx, hc⟩
      exact (hu.kept x hx j).1 hc
    have hd : (first ++ (back ++ rest)).count ⟨.detach d j, true⟩ = 0 := by
      rw [List.count_eq_zero]
      intro hx
      obtain ⟨_, hx⟩ | ⟨hx, -⟩ := hg.cases_call _ hx <;> cases hx
    rw [List.map_append, List.count_append, List.count_append, hn, hg.count_attach, hd, hu.detaches,
      Nat.zero_add, Nat.add_zero]
  inTurn := by
    intro j ok before after h
    rw [← List.append_assoc] at h
    have hattach : ⟨.attach d j, ok⟩ ∉ body ++ first := by
      rw [List.mem_append, not_or]
      refine ⟨fun hx => (hu.kept _ hx j).1 rfl, fun hx => ?_⟩
      cases hg.call_first _ hx
    have hm : (⟨.attach d j, ok⟩ : Attempt) ∈ body ++ first ++ (back ++ rest) := by simp [h]
    have hbefore : body ++ first ⊆ before := subset_before hattach h
    obtain ⟨_, hx⟩ | ⟨hx, rfl⟩ :=
      hg.cases_call _ (List.mem_append_right _ ((List.mem_append.mp hm).resolve_left hattach))
    · cases hx
    · cases hx
      have hdetached : ⟨.detach d i, true⟩ ∈ body := by
        rw [← List.count_pos_iff, hu.detaches, if_pos ⟨rfl, rfl⟩]
        exact Nat.one_pos
      refine ⟨hbefore (List.mem_append_left _ hdetached), ?_⟩
      cases claimed with
      | false => exact .inl (hbefore (List.mem_append_left _ (hturn rfl rfl)))
      | true =>
        obtain ⟨⟨c, ok⟩, rfl, rfl⟩ := List.map_eq_singleton_iff.mp hg.first
        exact .inr ⟨ok, hbefore (by simp)⟩

end GivenBack

namespace Balanced

variable {history later after : List Attempt}

theorem append (hb : Balanced history) (hl : Balanced later) : Balanced (history ++ later) := by
  induction hl with
  | nil => rwa [List.append_nil]
  | idle _ hu hp ih =>
    rw [← List.append_assoc]
    exact .idle ih hu hp
  | life _ ho ih =>
    rw [← List.append_assoc]
    exact .life ih ho

theorem of_inUse {first back rest : List Attempt} (hu : InUse d i detached claimed body)
    (hg : GivenBack d i detached claimed first back rest)
    (hturn : detached = true → claimed = false → ⟨.claim d i, false⟩ ∈ body)
    (ha : after = [] ∨ after = [⟨.exit, true⟩]) :
    Balanced (⟨.openDevice d, true⟩ :: body ++
      (first ++ (back ++ (rest ++ ⟨.closeDevice d, true⟩ :: after)))) := by
  have hafter : Balanced after := by
    obtain rfl | rfl := ha
    · exact .nil
    · exact .idle .nil rfl rfl
  have hlife : Balanced _ := .life .nil (hu.orderly hg hturn)
  simpa using hlife.append hafter

/-- Each device is closed as often as it has been opened. -/
theorem count_closeDevice (hb : Balanced history) (d : Nat) :
    (history.map Attempt.call).count (.closeDevice d) = history.count ⟨.openDevice d, true⟩ := by
  induction hb with
  | nil => rfl
  | @idle history x _ _ hp ih =>
    have hc : x.call ≠ .closeDevice d := by
      obtain ⟨c, ok⟩ := x
      rintro rfl
      cases hp
    have ho : x ≠ ⟨.openDevice d, true⟩ := by
      rintro rfl
      cases hp
    simp [List.count_append, ih, hc, ho]
  | @life history body e _ ho ih =>
    have hc : (body.map Attempt.call).count (.closeDevice d) = 0 := by
      rw [List.count_eq_zero, List.mem_map]
      rintro ⟨x, hx, he⟩
      cases he ▸ ho.own x hx
    have hn : body.count ⟨.openDevice d, true⟩ = 0 := by
      rw [List.count_eq_zero]
      intro hx
      cases ho.own _ hx
    simp [List.count_append, List.count_cons, ih, hc, hn]

end Balanced
end Usb
end FrameLink
