import FrameLink.Cli.Payload
import FrameLink.Proofs.Text.Numeral
import FrameLink.Proofs.Text.Parts
import Mathlib.Algebra.Group.Nat.Even
import Mathlib.Data.List.Induction

namespace FrameLink.Payload

open Text (Denotes all_of_hexDigits exists_denotes_iff hexDigits marks not_mem_of_hexDigits readNumeral
  readNumeral_eq_some_iff readNumeral_of_unsigned signs)

variable {a b letter : Char} {bs : Bytes} {cs ds rest token : List Char} {s : String}

inductive HexPairs : List Char → Bytes → Prop where
  | nil : HexPairs [] []
  | cons {high low : Char} {ds : List Char} {b : UInt8} {bs : Bytes} :
    Denotes [high, low] b.toNat → HexPairs ds bs → HexPairs (high :: low :: ds) (b :: bs)

namespace HexPairs

theorem append {ds' : List Char} {bs' : Bytes} (h : HexPairs ds bs) (h' : HexPairs ds' bs') :
    HexPairs (ds ++ ds') (bs ++ bs') := by
  induction h with
  | nil => exact h'
  | cons hb _ ih => exact .cons hb ih

theorem mem_hexDigits (h : HexPairs ds bs) : ∀ c ∈ ds, c ∈ hexDigits := by
  induction h with
  | nil => simp
  | cons hb _ ih =>
    obtain ⟨hhigh, hlow⟩ := List.forall_mem_cons.mp hb.mem_hexDigits
    exact List.forall_mem_cons.mpr
      ⟨hhigh, List.forall_mem_cons.mpr ⟨hlow _ List.mem_cons_self, ih⟩⟩

theorem even_length (h : HexPairs ds bs) : Even ds.length := by
  induction h with
  | nil => exact ⟨0, rfl⟩
  | cons _ _ ih => exact ih.add_one.add_one

end HexPairs

theorem readPairs_cons_eq_ok_iff :
    readPairs (a :: b :: ds) = .ok bs ↔
      ∃ n tail, readNumeral 16 0xFF [a, b] = some n ∧ readPairs ds = .ok tail ∧
        bs = UInt8.ofNat n :: tail := by
  rw [readPairs]
  cases readNumeral 16 0xFF [a, b] with
  | none => simp
  | some n =>
    cases readPairs ds with
    | error e => simp [Except.map]
    | ok tail => simp [Except.map, eq_comm]

theorem readPairs_of_hexPairs (h : HexPairs ds bs) : readPairs ds = .ok bs := by
  induction h with
  | nil => rfl
  | @cons high low ds b bs hb _ ih =>
    have hn := (readNumeral_of_unsigned (not_mem_of_hexDigits hb.mem_hexDigits (by decide))).mpr
      ⟨List.cons_ne_nil high [low], hb, Nat.le_of_lt_succ b.toNat_lt⟩
    exact readPairs_cons_eq_ok_iff.mpr ⟨_, _, hn, ih, by rw [UInt8.ofNat_toNat]⟩

/-- Two characters for each byte: two digits, or a plus sign and a digit. -/
inductive Paired : List Char → Prop where
  | nil : Paired []
  | cons {a b : Char} {ds : List Char} :
    a ∈ '+' :: hexDigits → b ∈ hexDigits → Paired ds → Paired (a :: b :: ds)

/-- No two characters that are read together begin with a plus sign. -/
def Unsigned (ds : List Char) : Prop :=
  ∀ front c back, ds = front ++ '+' :: c :: back → ¬ Even front.length

theorem Unsigned.tail (h : Unsigned (a :: b :: ds)) : Unsigned ds := by
  rintro front c back rfl hfront
  exact h (a :: b :: front) c back rfl hfront.add_one.add_one

theorem unsigned_of_not_mem (h : '+' ∉ ds) : Unsigned ds := by
  rintro front c back rfl
  simp at h

theorem exists_readNumeral_pair_iff :
    (∃ n, readNumeral 16 0xFF [a, b] = some n) ↔ a ∈ '+' :: hexDigits ∧ b ∈ hexDigits := by
  simp only [readNumeral_eq_some_iff]
  constructor
  · rintro ⟨n, sign, hsign, ds, hds, -, hdenotes, -⟩
    simp only [signs, List.mem_cons, List.not_mem_nil, or_false] at hsign
    have hmem := hdenotes.mem_hexDigits
    obtain rfl | rfl := hsign <;> cases hds
    · exact ⟨List.mem_cons_of_mem _ (hmem a (by simp)), hmem b (by simp)⟩
    · exact ⟨List.mem_cons_self, hmem b (by simp)⟩
  · rintro ⟨ha, hb⟩
    have hpair (sign ds : List Char) (hsign : sign ∈ signs) (hcs : [a, b] = sign ++ ds)
        (hne : ds ≠ []) (hlength : ds.length ≤ 2) (hds : ∀ c ∈ ds, c ∈ hexDigits) :
        ∃ n, ∃ sign ∈ signs, ∃ ds, [a, b] = sign ++ ds ∧ ds ≠ [] ∧ Denotes ds n ∧ n ≤ 0xFF := by
      obtain ⟨n, hn⟩ := exists_denotes_iff.mpr hds
      have hlt : n < 16 ^ 2 := Nat.lt_of_lt_of_le hn.lt (Nat.pow_le_pow_right (by decide) hlength)
      exact ⟨n, sign, hsign, ds, hcs, hne, hn, Nat.le_of_lt_succ hlt⟩
    cases List.mem_cons.mp ha with
    | inl he =>
      subst he
      exact hpair ['+'] [b] (by simp [signs]) rfl (by simp) (by simp) (by simp [hb])
    | inr ha => exact hpair [] [a, b] (by simp [signs]) rfl (by simp) (by simp) (by simp [ha, hb])

theorem exists_readPairs_iff (heven : Even ds.length) :
    (∃ bs, readPairs ds = .ok bs) ↔ Paired ds := by
  induction ds using List.twoStepInduction with
  | nil => exact iff_of_true ⟨[], rfl⟩ .nil
  | singleton c => exact absurd heven Nat.not_even_one
  | cons_cons a b ds ih =>
    have ih := ih (by simpa [Nat.even_add_one] using heven)
    simp only [readPairs_cons_eq_ok_iff]
    constructor
    · rintro ⟨_, n, tail, hn, htail, -⟩
      obtain ⟨ha, hb⟩ := exists_readNumeral_pair_iff.mp ⟨n, hn⟩
      exact .cons ha hb (ih.mp ⟨tail, htail⟩)
    · rintro (_ | ⟨ha, hb, hds⟩)
      obtain ⟨n, hn⟩ := exists_readNumeral_pair_iff.mpr ⟨ha, hb⟩
      obtain ⟨tail, htail⟩ := ih.mpr hds
      exact ⟨_, n, tail, hn, htail, rfl⟩

theorem Paired.even_length (h : Paired ds) : Even ds.length := by
  induction h with
  | nil => exact ⟨0, rfl⟩
  | cons _ _ _ ih => exact ih.add_one.add_one

theorem Paired.mem (h : Paired ds) : ∀ c ∈ ds, c ∈ '+' :: hexDigits := by
  induction h with
  | nil => exact List.forall_mem_nil _
  | cons ha hb _ ih =>
    exact List.forall_mem_cons.mpr ⟨ha, List.forall_mem_cons.mpr ⟨List.mem_cons_of_mem _ hb, ih⟩⟩

/-- Only a plus sign can stand where a digit should. -/
theorem paired_iff (h : Unsigned ds) :
    Paired ds ↔ Even ds.length ∧ ∀ c ∈ ds, c ∈ hexDigits := by
  constructor
  · intro hp
    refine ⟨hp.even_length, ?_⟩
    induction hp with
    | nil => exact List.forall_mem_nil _
    | @cons a b ds ha hb _ ih =>
      have hne : a ≠ '+' := by
        rintro rfl
        exact h [] b ds rfl Even.zero
      exact List.forall_mem_cons.mpr ⟨(List.mem_cons.mp ha).resolve_left hne,
        List.forall_mem_cons.mpr ⟨hb, ih h.tail⟩⟩
  · rintro ⟨heven, hall⟩
    induction ds using List.twoStepInduction with
    | nil => exact .nil
    | singleton c => exact absurd heven Nat.not_even_one
    | cons_cons a b ds ih =>
      obtain ⟨ha, hb, hall⟩ : a ∈ hexDigits ∧ b ∈ hexDigits ∧ ∀ c ∈ ds, c ∈ hexDigits := by
        simpa using hall
      exact .cons (List.mem_cons_of_mem _ ha) hb
        (ih h.tail (by simpa [Nat.even_add_one] using heven) hall)

theorem readPairs_append_eq_ok_iff {ds' : List Char} (heven : Even ds.length) :
    readPairs (ds ++ ds') = .ok bs ↔
      ∃ x y, readPairs ds = .ok x ∧ readPairs ds' = .ok y ∧ bs = x ++ y := by
  induction ds using List.twoStepInduction generalizing bs with
  | nil => simp [readPairs, eq_comm]
  | singleton c => exact absurd heven Nat.not_even_one
  | cons_cons a b ds ih =>
    have heven : Even ds.length := by simpa [Nat.even_add_one] using heven
    simp only [List.cons_append, readPairs_cons_eq_ok_iff, ih heven]
    constructor
    · rintro ⟨n, _, hn, ⟨x, y, hx, hy, rfl⟩, rfl⟩
      exact ⟨_, y, ⟨n, x, hn, hx, rfl⟩, hy, rfl⟩
    · rintro ⟨_, y, ⟨n, x, hn, hx, rfl⟩, hy, rfl⟩
      exact ⟨n, _, hn, ⟨x, y, hx, hy, rfl⟩, rfl⟩

/-- A token is `rest` behind marks with the given letter. -/
inductive Marked (letter : Char) : List Char → List Char → Prop where
  | none {rest : List Char} : Marked letter rest rest
  | mark {token rest : List Char} :
    Marked letter token rest → Marked letter ('0' :: letter :: token) rest

theorem marked_dropMarks (letter : Char) (token : List Char) :
    Marked letter token (dropMarks letter token) := by
  fun_induction dropMarks letter token with
  | case1 rest ih => exact .mark ih
  | case2 => exact .none
  | case3 => exact .none

namespace Marked

theorem subset (h : Marked letter token rest) : rest ⊆ token := by
  induction h with
  | none => exact List.Subset.refl _
  | mark _ ih => exact fun c hc => List.mem_cons_of_mem _ (List.mem_cons_of_mem _ (ih hc))

theorem not_mem {c : Char} (h : Marked letter token rest) (hc : c ∉ rest) (hzero : c ≠ '0')
    (hletter : c ≠ letter) : c ∉ token := by
  induction h with
  | none => exact hc
  | mark _ ih => simp [hzero, hletter, ih hc]

theorem dropMarks_eq (h : Marked letter token rest) (hletter : letter ∉ rest) :
    dropMarks letter token = rest := by
  induction h with
  | none =>
    unfold dropMarks
    split
    · next c more =>
      have hc : c ≠ letter := fun he => hletter (by simp [he])
      exact if_neg hc
    · rfl
  | mark _ ih => rw [dropMarks, if_pos rfl, ih hletter]

end Marked

def Strips (token rest : List Char) : Prop := ∃ more, Marked 'x' token more ∧ Marked 'X' more rest

theorem strips_unmarked (token : List Char) : Strips token (unmarked token) :=
  ⟨_, marked_dropMarks 'x' token, marked_dropMarks 'X' _⟩

namespace Strips

theorem subset (h : Strips token rest) : rest ⊆ token := by
  obtain ⟨more, hlower, hupper⟩ := h
  exact List.Subset.trans hupper.subset hlower.subset

theorem unmarked_eq (h : Strips token ds) (hds : ∀ c ∈ ds, c ∈ hexDigits) : unmarked token = ds := by
  obtain ⟨more, hlower, hupper⟩ := h
  -- no digit is taken for a mark, and no mark `0X` for a mark `0x`
  have hx : 'x' ∉ more :=
    hupper.not_mem (not_mem_of_hexDigits hds (by decide)) (by decide) (by decide)
  rw [unmarked, hlower.dropMarks_eq hx, hupper.dropMarks_eq (not_mem_of_hexDigits hds (by decide))]

end Strips

theorem strips_append {mark : List Char} (hmark : mark ∈ marks) (rest : List Char) :
    Strips (mark ++ rest) rest := by
  simp only [marks, List.mem_cons, List.not_mem_nil, or_false] at hmark
  obtain rfl | rfl | rfl := hmark
  · exact ⟨rest, .none, .none⟩
  · exact ⟨rest, .mark .none, .none⟩
  · exact ⟨_, .none, .mark .none⟩

theorem digits_eq (cs : List Char) : digits cs = ((cs.splitOnP separates).map unmarked).flatten := by
  rw [digits, Text.splitWhere_eq_splitOnP]

theorem digits_append {c : Char} (hc : separates c = true) (cs cs' : List Char) :
    digits (cs ++ c :: cs') = digits cs ++ digits cs' := by
  simp only [digits_eq, List.splitOnP_append_cons _ _ hc, List.map_append, List.flatten_append]

theorem digits_token (h : ∀ c ∈ token, separates c = false) : digits token = unmarked token := by
  rw [digits_eq, List.splitOnP_eq_singleton h]
  simp

theorem ofString_eq_ok_iff :
    ofString s = .ok bs ↔ (∀ c ∈ digits s.toList, c.toNat < 0x80) ∧
      Even (digits s.toList).length ∧ readPairs (digits s.toList) = .ok bs := by
  have hascii : ((digits s.toList).any fun c => 0x80 ≤ c.toNat) = false ↔
      ∀ c ∈ digits s.toList, c.toNat < 0x80 := by
    simp
  rw [← hascii, Nat.even_iff, ofString]
  cases (digits s.toList).any fun c => 0x80 ≤ c.toNat with
  | true => simp
  | false =>
    by_cases heven : (digits s.toList).length % 2 = 0
    · simp [heven]
    · simp [heven]

theorem ofString_of_odd (hascii : ∀ c ∈ digits s.toList, c.toNat < 0x80)
    (hodd : ¬ Even (digits s.toList).length) : ofString s = .error (.oddLength s) := by
  have hany : ((digits s.toList).any fun c => 0x80 ≤ c.toNat) = false := by simpa using hascii
  rw [Nat.even_iff] at hodd
  simp [ofString, hany, hodd]

theorem ofString_of_hexPairs (h : HexPairs (digits s.toList) bs) : ofString s = .ok bs := by
  have hascii : (hexDigits.all fun c => c.toNat < 0x80) = true := by decide
  exact ofString_eq_ok_iff.mpr
    ⟨fun c hc => of_decide_eq_true (all_of_hexDigits h.mem_hexDigits hascii c hc), h.even_length,
      readPairs_of_hexPairs h⟩

/-- Which texts are payloads, those with plus signs included. -/
theorem exists_ofString_iff_paired : (∃ bs, ofString s = .ok bs) ↔ Paired (digits s.toList) := by
  simp only [ofString_eq_ok_iff]
  constructor
  · rintro ⟨bs, -, heven, hpairs⟩
    exact (exists_readPairs_iff heven).mp ⟨bs, hpairs⟩
  · intro h
    obtain ⟨bs, hbs⟩ := (exists_readPairs_iff h.even_length).mpr h
    have hascii : (('+' :: hexDigits).all fun c => c.toNat < 0x80) = true := by decide
    exact ⟨bs, fun c hc => of_decide_eq_true (List.all_eq_true.mp hascii c (h.mem c hc)),
      h.even_length, hbs⟩

theorem digits_of_strips {dss : List (List Char)}
    (h : List.Forall₂ Strips (s.toList.splitOnP separates) dss)
    (hdss : ∀ c ∈ dss.flatten, c ∈ hexDigits) : digits s.toList = dss.flatten := by
  rw [digits_eq]
  generalize s.toList.splitOnP separates = tokens at h
  induction h with
  | nil => rfl
  | @cons token ds tokens dss htoken _ ih =>
    obtain ⟨hds, hrest⟩ := List.forall_mem_append.mp hdss
    rw [List.map_cons, List.flatten_cons, htoken.unmarked_eq hds, ih hrest, List.flatten_cons]

theorem exists_ofString_iff (h : Unsigned (digits s.toList)) :
    (∃ bs, ofString s = .ok bs) ↔
      ∃ dss, List.Forall₂ Strips (s.toList.splitOnP separates) dss ∧
        Even dss.flatten.length ∧ ∀ c ∈ dss.flatten, c ∈ hexDigits := by
  rw [exists_ofString_iff_paired, paired_iff h]
  constructor
  · intro hdigits
    rw [digits_eq] at hdigits
    exact ⟨_, List.forall₂_map_right_iff.mpr
      (List.forall₂_same.mpr fun token _ => strips_unmarked token), hdigits⟩
  · rintro ⟨dss, htokens, hdss⟩
    rwa [digits_of_strips htokens hdss.2]

theorem digits_comma (s s' : String) :
    digits (s ++ "," ++ s').toList = digits s.toList ++ digits s'.toList := by
  rw [String.toList_append, String.toList_append, List.append_assoc]
  exact digits_append (by decide) _ _

/-- Two texts are joined as their payloads are, unless each has half of a byte to spare. -/
theorem ofString_comma_eq_ok_iff {s' : String}
    (hspare : ¬ (ofString s = .error (.oddLength s) ∧ ofString s' = .error (.oddLength s'))) :
    ofString (s ++ "," ++ s') = .ok bs ↔
      ∃ x y, ofString s = .ok x ∧ ofString s' = .ok y ∧ bs = x ++ y := by
  simp only [ofString_eq_ok_iff, digits_comma, List.forall_mem_append, List.length_append]
  constructor
  · rintro ⟨⟨hs, hs'⟩, hboth, hpairs⟩
    have heven : Even (digits s.toList).length := by
      by_contra hodd
      have hodd' : ¬ Even (digits s'.toList).length :=
        fun h => hodd ((Nat.even_add.mp hboth).mpr h)
      exact hspare ⟨ofString_of_odd hs hodd, ofString_of_odd hs' hodd'⟩
    obtain ⟨x, y, hx, hy, rfl⟩ := (readPairs_append_eq_ok_iff heven).mp hpairs
    exact ⟨x, y, ⟨hs, heven, hx⟩, ⟨hs', (Nat.even_add.mp hboth).mp heven, hy⟩, rfl⟩
  · rintro ⟨x, y, ⟨hs, heven, hx⟩, ⟨hs', heven', hy⟩, rfl⟩
    exact ⟨⟨hs, hs'⟩, heven.add heven',
      (readPairs_append_eq_ok_iff heven).mpr ⟨x, y, hx, hy, rfl⟩⟩

/-- Whether a text is a payload is a matter of all its digits together, and so a payload may be cut
wherever no byte is cut. A plus sign in front of a digit is a case of its own. -/
theorem ofString_accepts_iff (s a b : String) :
    (Unsigned (digits s.toList) → ((∃ bs, ofString s = .ok bs) ↔
      ∃ dss, List.Forall₂ Strips (s.toList.splitOnP separates) dss ∧
        Even dss.flatten.length ∧ ∀ c ∈ dss.flatten, c ∈ hexDigits)) ∧
    (¬ (ofString a = .error (.oddLength a) ∧ ofString b = .error (.oddLength b)) →
      ∀ bs, ofString (a ++ "," ++ b) = .ok bs ↔
        ∃ x y, ofString a = .ok x ∧ ofString b = .ok y ∧ bs = x ++ y) :=
  ⟨exists_ofString_iff, fun hspare _ => ofString_comma_eq_ok_iff hspare⟩

theorem ofString_accepts_iff_cut :
    Unsigned (digits "0x0x0 0XaB\tc".toList) ∧
    (∃ bs, ofString "0x0x0 0XaB\tc" = .ok bs) ∧
    ¬ (ofString "0x01" = .error (.oddLength "0x01") ∧ ofString "Ff" = .error (.oddLength "Ff")) ∧
    ofString ("0x01" ++ "," ++ "Ff") = .ok [0x01, 0xFF] := by
  have hplus : Unsigned (digits "0x0x0 0XaB\tc".toList) := unsigned_of_not_mem (by decide)
  have hspare : ¬ (ofString "0x01" = .error (.oddLength "0x01") ∧
      ofString "Ff" = .error (.oddLength "Ff")) := by decide
  have h := ofString_accepts_iff "0x0x0 0XaB\tc" "0x01" "Ff"
  have htokens : "0x0x0 0XaB\tc".toList.splitOnP separates =
      [['0', 'x', '0', 'x', '0'], ['0', 'X', 'a', 'B'], ['c']] := by decide
  have hstrips : List.Forall₂ Strips ("0x0x0 0XaB\tc".toList.splitOnP separates)
      [['0'], ['a', 'B'], ['c']] := by
    rw [htokens]
    exact .cons ⟨_, .mark (.mark .none), .none⟩
      (.cons ⟨_, .none, .mark .none⟩ (.cons ⟨_, .none, .none⟩ .nil))
  exact ⟨hplus, (h.1 hplus).mpr ⟨_, hstrips, by decide, by simp [hexDigits]⟩, hspare,
    (h.2 hspare [0x01, 0xFF]).mpr ⟨[0x01], [0xFF], by decide, by decide, rfl⟩⟩

/-- A token of whole bytes: an even number of hexadecimal digits behind its marks. -/
def IsWhole (token : List Char) : Prop :=
  ∃ ds, Strips token ds ∧ Even ds.length ∧ ∀ c ∈ ds, c ∈ hexDigits

theorem isWhole_iff :
    IsWhole token ↔ Even (unmarked token).length ∧ ∀ c ∈ unmarked token, c ∈ hexDigits := by
  constructor
  · rintro ⟨ds, htoken, heven, hds⟩
    rw [htoken.unmarked_eq hds]
    exact ⟨heven, hds⟩
  · exact fun h => ⟨_, strips_unmarked token, h⟩

instance (token : List Char) : Decidable (IsWhole token) :=
  decidable_of_iff (Even (unmarked token).length ∧ ((unmarked token).all hexDigits.contains) = true)
    (by simp [isWhole_iff])

/-- A byte may have its digits in two tokens, and a plus sign in place of the first digit. -/
theorem ofString_accepts_halves :
    (ofString "1 2" = .ok [0x12] ∧ ¬ ∀ token ∈ "1 2".toList.splitOnP separates, IsWhole token) ∧
    (ofString ("1" ++ "," ++ "2") = .ok [0x12] ∧ ofString "1" = .error (.oddLength "1")) ∧
    ofString "+f" = .ok [0x0F] ∧ ¬ ∀ token ∈ "+f".toList.splitOnP separates, IsWhole token := by
  decide

end FrameLink.Payload
