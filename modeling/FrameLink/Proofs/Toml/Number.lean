import FrameLink.Proofs.Text.Numeral
import FrameLink.Toml.Number
import Mathlib.Tactic.ByContra

namespace FrameLink.Toml

open Text (digit? readDigits readBounded readDigits_toDigits)

variable {n : Nat} {ds more rest : List Char}

theorem ne_of_test {p : Char → Bool} {c d : Char} (hc : p c = true) (hd : p d = false) : c ≠ d := by
  rintro rfl
  rw [hc] at hd
  cases hd

theorem isDigit_of_readDigits {radix m : Nat} (h : readDigits radix n ds = some m) :
    ∀ c ∈ ds, isDigit radix c = true := by
  induction ds generalizing n with
  | nil => simp
  | cons c cs ih =>
    obtain ⟨d, hd, h⟩ := Option.bind_eq_some_iff.mp h
    exact List.forall_mem_cons.mpr ⟨by simp [isDigit, hd], ih h⟩

/-- Digits as they are written for a number: the first is a zero only if there are no more. -/
structure Plain (ds : List Char) : Prop where
  digits : ∀ c ∈ ds, isDigit 10 c = true
  front : ∃ c rest, ds = c :: rest ∧ (c = '0' → rest = [])

theorem head_toDigits (hn : 0 < n) : ∃ c rest, Nat.toDigits 10 n = c :: rest ∧ c ≠ '0' := by
  induction n using Nat.strongRecOn with
  | ind n ih =>
    rw [Nat.toDigits_eq_if (by decide)]
    split
    · refine ⟨_, [], rfl, fun h => ?_⟩
      rw [Nat.digitChar_eq_zero] at h
      omega
    · obtain ⟨c, rest, hdigits, hc⟩ := ih (n / 10) (by omega) (by omega)
      exact ⟨c, rest ++ [_], by rw [hdigits]; rfl, hc⟩

theorem plain_toDigits (n : Nat) : Plain (Nat.toDigits 10 n) where
  digits := isDigit_of_readDigits (readDigits_toDigits (by decide) (by decide) n)
  front := by
    cases Nat.eq_zero_or_pos n with
    | inl hn => exact ⟨'0', [], by rw [hn, Nat.toDigits_zero], fun _ => rfl⟩
    | inr hn =>
      obtain ⟨c, rest, hdigits, hc⟩ := head_toDigits hn
      exact ⟨c, rest, hdigits, fun h => absurd h hc⟩

theorem moreDigits_eq (h : ∀ c ∈ ds, isDigit 10 c = true) :
    moreDigits 10 (ds ++ '\n' :: more) = (ds, '\n' :: more) := by
  induction ds with
  | nil => cases more <;> simp [moreDigits, show isDigit 10 '\n' = false from rfl]
  | cons c ds ih =>
    obtain ⟨hc, hds⟩ := List.forall_mem_cons.mp h
    have hne : c ≠ '_' := ne_of_test hc rfl
    simp [moreDigits, hne, hc, ih hds]

def signed (negative : Bool) (ds : List Char) : List Char := if negative then '-' :: ds else ds

theorem sign_signed (negative : Bool) (h : Plain ds) (rest : List Char) :
    sign (signed negative ds ++ rest) = (negative, ds ++ rest) := by
  obtain ⟨c, tail, rfl, -⟩ := h.front
  have hc : isDigit 10 c = true := h.digits c List.mem_cons_self
  cases negative with
  | true => rfl
  | false =>
    unfold sign
    split
    · next he => exact absurd (List.head_eq_of_cons_eq he) (ne_of_test hc rfl)
    · next he => exact absurd (List.head_eq_of_cons_eq he) (ne_of_test hc rfl)
    · rfl

theorem whole_signed (negative : Bool) (h : Plain ds) (more : List Char) :
    whole (signed negative ds ++ '\n' :: more) = some ((negative, ds), '\n' :: more) := by
  obtain ⟨c, rest, rfl, hzero⟩ := h.front
  obtain ⟨hc, hrest⟩ := List.forall_mem_cons.mp h.digits
  rw [whole, sign_signed negative h]
  dsimp only
  split
  · next hhead =>
    obtain ⟨rfl, rfl⟩ := List.cons.inj hhead
    rw [hzero rfl]
    rfl
  · simp [digits, hc, moreDigits_eq hrest]

theorem fractional_signed (negative : Bool) (h : Plain ds) (more : List Char) :
    fractional (signed negative ds ++ '\n' :: more) = none := by
  simp [fractional, whole_signed negative h, fraction, exponent]

theorem special_signed (negative : Bool) (h : Plain ds) (more : List Char) :
    special (signed negative ds ++ '\n' :: more) = none := by
  rw [special, sign_signed negative h]
  obtain ⟨c, rest, rfl, -⟩ := h.front
  have hc : isDigit 10 c = true := h.digits c List.mem_cons_self
  have hi : 'i' ≠ c := (ne_of_test hc rfl).symm
  have hn : 'n' ≠ c := (ne_of_test hc rfl).symm
  simp [word, hi, hn]

theorem drop_of_field {cs : List Char} {width least most x : Nat}
    (h : field width least most cs = some (x, rest)) :
    rest = cs.drop width ∧ ∀ c ∈ cs.take width, isDigit 10 c = true := by
  simp only [field] at h
  split at h
  · cases h
  · obtain ⟨m, hm, h⟩ := Option.bind_eq_some_iff.mp h
    split at h
    · cases h
      exact ⟨rfl, isDigit_of_readDigits hm⟩
    · cases h

/-- Behind a field of digits comes another digit or the end of the line, and no field begins with a
minus. -/
theorem word_of_field {c : Char} {width least most x : Nat} {negative : Bool}
    (h : ∀ c ∈ ds, isDigit 10 c = true) (hc : isDigit 10 c = false) (hline : c ≠ '\n')
    (hfield : field (width + 1) least most (signed negative ds ++ '\n' :: more) = some (x, rest)) :
    word [c] rest = none := by
  obtain ⟨rfl, htake⟩ := drop_of_field hfield
  cases negative with
  | true => cases htake '-' (by simp [signed])
  | false =>
    change word [c] ((ds ++ '\n' :: more).drop (width + 1)) = none
    change ∀ c ∈ (ds ++ '\n' :: more).take (width + 1), isDigit 10 c = true at htake
    have hwidth : width + 1 ≤ ds.length := by
      by_contra hlt
      obtain ⟨k, hk⟩ : ∃ k, width + 1 - ds.length = k + 1 := ⟨width - ds.length, by omega⟩
      have hmem : '\n' ∈ (ds ++ '\n' :: more).take (width + 1) := by
        rw [List.take_append, hk, List.take_succ_cons]
        simp
      cases htake _ hmem
    rw [List.drop_append_of_le_length hwidth]
    cases hdrop : ds.drop (width + 1) with
    | nil => simp [word, hline]
    | cons d rest =>
      have hd : isDigit 10 d = true := h d (List.mem_of_mem_drop (hdrop ▸ List.mem_cons_self))
      have hne : c ≠ d := (ne_of_test hd hc).symm
      simp [word, hne]

theorem date_signed (negative : Bool) (h : ∀ c ∈ ds, isDigit 10 c = true) (more : List Char) :
    date (signed negative ds ++ '\n' :: more) = none := by
  rw [date]
  cases hfield : field 4 0 9999 (signed negative ds ++ '\n' :: more) with
  | none => rfl
  | some found => simp [word_of_field h (c := '-') rfl (by decide) hfield]

theorem time_signed (negative : Bool) (h : ∀ c ∈ ds, isDigit 10 c = true) (more : List Char) :
    time (signed negative ds ++ '\n' :: more) = none := by
  rw [time]
  cases hfield : field 2 0 23 (signed negative ds ++ '\n' :: more) with
  | none => rfl
  | some found => simp [word_of_field h (c := ':') rfl (by decide) hfield]

theorem integer_signed (negative : Bool) (h : Plain ds) (more : List Char) :
    integer (signed negative ds ++ '\n' :: more) =
      (integerOf 10 negative ds).map fun n => (n, '\n' :: more) := by
  have hmark : ∀ m tail, signed negative ds ++ '\n' :: more = '0' :: m :: tail → m = '\n' := by
    obtain ⟨c, rest, rfl, hzero⟩ := h.front
    intro m tail he
    cases negative with
    | true => cases List.head_eq_of_cons_eq he
    | false =>
      obtain ⟨hc, htail⟩ := List.cons.inj he
      rw [hzero hc] at htail
      exact (List.head_eq_of_cons_eq htail).symm
  unfold integer
  split
  · next he => exact absurd (hmark _ _ he) (by decide)
  · next he => exact absurd (hmark _ _ he) (by decide)
  · next he => exact absurd (hmark _ _ he) (by decide)
  · rw [whole_signed negative h]
    exact Option.map_eq_bind.symm

theorem toList_toString (n : Int) :
    (toString n).toList = signed (decide (n < 0)) (Nat.toDigits 10 n.natAbs) := by
  cases n with
  | ofNat n => simp [toString, Int.repr, signed]
  | negSucc n => simp [toString, Int.repr, signed]

theorem integerOf_toDigits {n : Int} (hlow : -(maxInteger + 1 : Int) ≤ n) (hhigh : n ≤ maxInteger) :
    integerOf 10 (decide (n < 0)) (Nat.toDigits 10 n.natAbs) = some n := by
  rw [integerOf, Text.readBounded_eq (by decide) (Nat.zero_le _),
    Text.readBounded_eq (by decide) (Nat.zero_le _), readDigits_toDigits (by decide) (by decide)]
  by_cases hn : n < 0
  · have hle : n.natAbs ≤ maxInteger + 1 := by omega
    have habs : -(n.natAbs : Int) = n := by omega
    rw [decide_eq_true hn, if_pos rfl, Option.filter_some, if_pos (decide_eq_true hle)]
    exact congrArg some habs
  · have hle : n.natAbs ≤ maxInteger := by omega
    have habs : (n.natAbs : Int) = n := by omega
    rw [decide_eq_false hn, if_neg Bool.false_ne_true, Option.filter_some,
      if_pos (decide_eq_true hle)]
    exact congrArg some habs

/-- An integer that has been written is read again up to the end of its line. -/
theorem number_toString {n : Int} (hlow : -(maxInteger + 1 : Int) ≤ n) (hhigh : n ≤ maxInteger)
    (more : List Char) :
    number ((toString n).toList ++ '\n' :: more) = some (.int n, '\n' :: more) := by
  have h := plain_toDigits n.natAbs
  rw [toList_toString, number, stamp, date_signed _ h.digits, time_signed _ h.digits,
    fractional_signed _ h, special_signed _ h, integer_signed _ h, integerOf_toDigits hlow hhigh]
  rfl

theorem head_toString (n : Int) :
    ∃ c rest, (toString n).toList = c :: rest ∧ (isDigit 10 c = true ∨ c = '-') := by
  rw [toList_toString]
  obtain ⟨c, rest, hdigits, -⟩ := (plain_toDigits n.natAbs).front
  cases decide (n < 0) with
  | true => exact ⟨'-', _, rfl, .inr rfl⟩
  | false =>
    have hc := (plain_toDigits n.natAbs).digits c (hdigits ▸ List.mem_cons_self)
    exact ⟨c, rest, hdigits, .inl hc⟩

end FrameLink.Toml
