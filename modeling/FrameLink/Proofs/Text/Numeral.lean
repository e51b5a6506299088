import FrameLink.Text.Numeral
import Mathlib.Data.List.Forall2
import Mathlib.Data.Nat.Digits.Lemmas

namespace FrameLink.Text

variable {c : Char} {cs ds : List Char} {radix limit n m d : Nat}

theorem readDigits_append (radix n : Nat) (cs ds : List Char) :
    readDigits radix n (cs ++ ds) = (readDigits radix n cs).bind (readDigits radix · ds) := by
  induction cs generalizing n with
  | nil => rfl
  | cons c cs ih =>
    simp only [List.cons_append, readDigits]
    cases digit? radix c with
    | none => rfl
    | some d => exact ih _

theorem digit?_digitChar (hr : radix ≤ 16) (hd : d < radix) :
    digit? radix (Nat.digitChar d) = some d := by
  have hvalue : ∀ d < 16, digitValue (Nat.digitChar d) = some d := by decide
  rw [digit?, hvalue d (Nat.lt_of_lt_of_le hd hr), Option.filter_some, if_pos (decide_eq_true hd)]

/-- Induction on the number, as its last digit is written last. -/
theorem readDigits_toDigits (hlow : 1 < radix) (hhigh : radix ≤ 16) (n : Nat) :
    readDigits radix 0 (Nat.toDigits radix n) = some n := by
  induction n using Nat.strongRecOn with
  | ind n ih =>
    rw [Nat.toDigits_eq_if hlow]
    split
    · next hn => simp [readDigits, digit?_digitChar hhigh hn]
    · next hn =>
      have hpos : 0 < n := by omega
      have hd : n % radix < radix := Nat.mod_lt _ (by omega)
      rw [readDigits_append, ih (n / radix) (Nat.div_lt_self hpos hlow)]
      simp only [Option.bind_some, readDigits, digit?_digitChar hhigh hd, Option.some.injEq]
      rw [Nat.mul_comm]
      exact Nat.div_add_mod n radix

def IsHexDigit (c : Char) (d : Nat) : Prop :=
  d < 16 ∧ (c = Nat.digitChar d ∨ c = (Nat.digitChar d).toUpper)

instance (c : Char) (d : Nat) : Decidable (IsHexDigit c d) := inferInstanceAs (Decidable (_ ∧ _))

def hexDigits : List Char :=
  ['0', '1', '2', '3', '4', '5', '6', '7', '8', '9', 'a', 'b', 'c', 'd', 'e', 'f',
    'A', 'B', 'C', 'D', 'E', 'F']

theorem toNat_lt_of_digitValue (h : digitValue c = some d) : c.toNat < 0x80 := by
  have hle : ∀ last : Char, c ≤ last → c.toNat ≤ last.toNat := fun _ h => h
  simp only [digitValue] at h
  split at h
  · next hc => exact Nat.lt_of_le_of_lt (hle _ hc.2) (by decide)
  · split at h
    · next hc => exact Nat.lt_of_le_of_lt (hle _ hc.2) (by decide)
    · split at h
      · next hc => exact Nat.lt_of_le_of_lt (hle _ hc.2) (by decide)
      · cases h

theorem digit?_eq_some_iff : digit? 16 c = some d ↔ IsHexDigit c d := by
  constructor
  · have h : ∀ n < 0x80, ∀ d ∈ digit? 16 (Char.ofNat n), IsHexDigit (Char.ofNat n) d := by decide
    intro hd
    have hc := toNat_lt_of_digitValue (Option.filter_eq_some_iff.mp hd).1
    have hchar := h c.toNat hc d
    rw [Char.ofNat_toNat] at hchar
    exact hchar hd
  · have h : ∀ d < 16, digit? 16 (Nat.digitChar d).toUpper = some d := by decide
    rintro ⟨hd, rfl | rfl⟩
    · exact digit?_digitChar (Nat.le_refl 16) hd
    · exact h d hd

theorem mem_hexDigits_iff : c ∈ hexDigits ↔ ∃ d, IsHexDigit c d := by
  constructor
  · have h : (hexDigits.all fun c => (digit? 16 c).isSome) = true := by decide
    intro hc
    obtain ⟨d, hd⟩ := Option.isSome_iff_exists.mp (List.all_eq_true.mp h c hc)
    exact ⟨d, digit?_eq_some_iff.mp hd⟩
  · have h : ∀ d < 16, Nat.digitChar d ∈ hexDigits ∧ (Nat.digitChar d).toUpper ∈ hexDigits := by
      decide
    rintro ⟨d, hd, rfl | rfl⟩
    · exact (h d hd).1
    · exact (h d hd).2

theorem all_of_hexDigits {p : Char → Bool} (h : ∀ c ∈ ds, c ∈ hexDigits)
    (hp : hexDigits.all p = true) : ∀ c ∈ ds, p c = true :=
  fun c hc => List.all_eq_true.mp hp c (h c hc)

theorem not_mem_of_hexDigits (h : ∀ c ∈ ds, c ∈ hexDigits) (hc : c ∉ hexDigits) : c ∉ ds :=
  fun hmem => hc (h c hmem)

/-- All of `ds` are hexadecimal digits, and `n` is the number with these digits, the most
significant first. -/
def Denotes (ds : List Char) (n : Nat) : Prop :=
  ∃ values, List.Forall₂ IsHexDigit ds values ∧ n = Nat.ofDigits 16 values.reverse

theorem readDigits_eq_some_iff :
    readDigits 16 n ds = some m ↔ ∃ values, List.Forall₂ IsHexDigit ds values ∧
      m = n * 16 ^ ds.length + Nat.ofDigits 16 values.reverse := by
  induction ds generalizing n with
  | nil => simp [readDigits, eq_comm]
  | cons c ds ih =>
    have hnext (d : Nat) (values : List Nat) (h : ds.length = values.length) :
        (n * 16 + d) * 16 ^ ds.length + Nat.ofDigits 16 values.reverse =
          n * 16 ^ (c :: ds).length + Nat.ofDigits 16 (d :: values).reverse := by
      rw [Nat.ofDigits_reverse_cons, List.length_cons, h]
      ring
    simp only [readDigits, Option.bind_eq_some_iff, digit?_eq_some_iff, ih,
      List.forall₂_cons_left_iff]
    constructor
    · rintro ⟨d, hd, values, hvalues, rfl⟩
      exact ⟨d :: values, ⟨d, values, hd, hvalues, rfl⟩, hnext d values hvalues.length_eq⟩
    · rintro ⟨_, ⟨d, values, hd, hvalues, rfl⟩, rfl⟩
      exact ⟨d, hd, values, hvalues, (hnext d values hvalues.length_eq).symm⟩

theorem denotes_iff : Denotes ds n ↔ readDigits 16 0 ds = some n := by
  rw [readDigits_eq_some_iff, Nat.zero_mul]
  simp only [Nat.zero_add, Denotes]

namespace Denotes

theorem mem_hexDigits (h : Denotes ds n) : ∀ c ∈ ds, c ∈ hexDigits := by
  obtain ⟨values, hvalues, -⟩ := h
  induction hvalues with
  | nil => simp
  | cons hd _ ih => exact List.forall_mem_cons.mpr ⟨mem_hexDigits_iff.mpr ⟨_, hd⟩, ih⟩

theorem lt (h : Denotes ds n) : n < 16 ^ ds.length := by
  obtain ⟨values, hvalues, rfl⟩ := h
  have hsmall : ∀ d ∈ values, d < 16 := by
    induction hvalues with
    | nil => simp
    | cons hd _ ih => exact List.forall_mem_cons.mpr ⟨hd.1, ih⟩
  have hlt := Nat.ofDigits_lt_base_pow_length (by decide) fun d hd =>
    hsmall d (List.mem_reverse.mp hd)
  rwa [List.length_reverse, ← hvalues.length_eq] at hlt

end Denotes

theorem exists_denotes_iff : (∃ n, Denotes ds n) ↔ ∀ c ∈ ds, c ∈ hexDigits := by
  refine ⟨fun ⟨n, h⟩ => h.mem_hexDigits, fun h => ?_⟩
  suffices hvalues : ∃ values, List.Forall₂ IsHexDigit ds values by
    obtain ⟨values, hvalues⟩ := hvalues
    exact ⟨_, values, hvalues, rfl⟩
  induction ds with
  | nil => exact ⟨[], .nil⟩
  | cons c ds ih =>
    obtain ⟨hc, hds⟩ := List.forall_mem_cons.mp h
    obtain ⟨d, hd⟩ := mem_hexDigits_iff.mp hc
    obtain ⟨values, hvalues⟩ := ih hds
    exact ⟨d :: values, .cons hd hvalues⟩

def marks : List (List Char) := [[], ['0', 'x'], ['0', 'X']]

def signs : List (List Char) := [[], ['+']]

theorem readBounded_eq_some_iff :
    (if ds.isEmpty then none else readBounded 16 limit 0 ds) = some n ↔
      ds ≠ [] ∧ Denotes ds n ∧ n ≤ limit := by
  cases ds with
  | nil => simp
  | cons c ds =>
    rw [readBounded_eq (by decide) (Nat.zero_le limit), denotes_iff]
    simp [Option.filter_eq_some_iff]

/-- A numeral is read if it has digits and nothing else, apart from a plus sign in front. -/
theorem readNumeral_eq_some_iff :
    readNumeral 16 limit cs = some n ↔
      ∃ sign ∈ signs, ∃ ds, cs = sign ++ ds ∧ ds ≠ [] ∧ Denotes ds n ∧ n ≤ limit := by
  have hplus : ∀ ds, ¬ Denotes ('+' :: ds) n := fun ds h =>
    absurd (h.mem_hexDigits '+' List.mem_cons_self) (by decide)
  unfold readNumeral
  split
  · next rest =>
    rw [readBounded_eq_some_iff]
    constructor
    · exact fun h => ⟨['+'], by simp [signs], rest, rfl, h⟩
    · rintro ⟨sign, hsign, ds, hcs, h⟩
      simp only [signs, List.mem_cons, List.not_mem_nil, or_false] at hsign
      obtain rfl | rfl := hsign
      · exact absurd (hcs ▸ h.2.1) (hplus rest)
      · rw [List.cons.inj hcs |>.2]
        exact h
  · next hcs =>
    rw [readBounded_eq_some_iff]
    constructor
    · exact fun h => ⟨[], by simp [signs], cs, rfl, h⟩
    · rintro ⟨sign, hsign, ds, rfl, h⟩
      simp only [signs, List.mem_cons, List.not_mem_nil, or_false] at hsign
      obtain rfl | rfl := hsign
      · exact h
      · exact absurd rfl (hcs ds)

theorem readNumeral_of_unsigned (h : '+' ∉ cs) :
    readNumeral 16 limit cs = some n ↔ cs ≠ [] ∧ Denotes cs n ∧ n ≤ limit := by
  rw [readNumeral_eq_some_iff]
  constructor
  · rintro ⟨sign, hsign, ds, rfl, hds⟩
    simp only [signs, List.mem_cons, List.not_mem_nil, or_false] at hsign
    obtain rfl | rfl := hsign
    · exact hds
    · exact absurd List.mem_cons_self h
  · exact fun hds => ⟨[], by simp [signs], cs, rfl, hds⟩

theorem denotes_hex (width n : Nat) : Denotes (hex width n).toList n := by
  have hzeros (k : Nat) : readDigits 16 0 (List.replicate k '0') = some 0 := by
    induction k with
    | zero => rfl
    | succ k ih => exact ih
  rw [denotes_iff, hex, String.toList_ofList, padLeft, readDigits_append, hzeros]
  exact readDigits_toDigits (by decide) (by decide) n

theorem length_hex {width : Nat} (hwidth : 0 < width) (hn : n < 16 ^ width) :
    (hex width n).toList.length = width := by
  have hle := (Nat.length_toDigits_le_iff (by decide) hwidth).mpr hn
  rw [hex, String.toList_ofList, padLeft, List.length_append, List.length_replicate]
  omega

end FrameLink.Text
