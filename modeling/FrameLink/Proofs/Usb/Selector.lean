import FrameLink.Proofs.Text.Numeral
import FrameLink.Proofs.Text.Parts
import FrameLink.Usb.Selector

namespace FrameLink.Selector

open Text (Denotes all_of_hexDigits hexDigits isBlank marks not_mem_of_hexDigits readNumeral
  readNumeral_eq_some_iff signs)

variable {id : UInt16} {sel : Selector} {s : String} {cs digits mark : List Char}

/-- `cs` writes `id`: at most one mark, one of the allowed signs, and hexadecimal digits, together
with the sign at most four characters. -/
def WritesId (allowed : List (List Char)) (cs : List Char) (id : UInt16) : Prop :=
  ∃ mark ∈ marks, ∃ sign ∈ allowed, ∃ ds, cs = mark ++ (sign ++ ds) ∧ ds ≠ [] ∧
    (sign ++ ds).length ≤ 4 ∧ Denotes ds id.toNat

def number? (digits : List Char) : Option UInt16 :=
  if 4 < digits.length then none else (readNumeral 16 0xFFFF digits).map UInt16.ofNat

theorem number?_eq_some_iff :
    number? digits = some id ↔
      digits.length ≤ 4 ∧ ∃ sign ∈ signs, ∃ ds, digits = sign ++ ds ∧ ds ≠ [] ∧
        Denotes ds id.toNat := by
  unfold number?
  by_cases hlong : 4 < digits.length
  · simp [hlong]
  · simp only [hlong, if_false, Option.map_eq_some_iff, readNumeral_eq_some_iff]
    constructor
    · rintro ⟨n, ⟨sign, hsign, ds, hdigits, hds, hn, hle⟩, rfl⟩
      refine ⟨Nat.le_of_not_lt hlong, sign, hsign, ds, hdigits, hds, ?_⟩
      rwa [UInt16.toNat_ofNat', Nat.mod_eq_of_lt (Nat.lt_succ_of_le hle)]
    · rintro ⟨-, sign, hsign, ds, hdigits, hds, hn⟩
      exact ⟨_, ⟨sign, hsign, ds, hdigits, hds, hn, Nat.le_of_lt_succ id.toNat_lt⟩,
        UInt16.ofNat_toNat⟩

theorem id?_bare (hlower : ∀ rest, cs ≠ '0' :: 'x' :: rest)
    (hupper : ∀ rest, cs ≠ '0' :: 'X' :: rest) : id? cs = number? cs := by
  unfold id? number?
  dsimp only
  split
  · exact absurd rfl (hlower _)
  · exact absurd rfl (hupper _)
  · rfl

theorem id?_mark (hmark : mark ∈ marks) (hlower : 'x' ∉ digits) (hupper : 'X' ∉ digits) :
    id? (mark ++ digits) = number? digits := by
  simp only [marks, List.mem_cons, List.not_mem_nil, or_false] at hmark
  obtain rfl | rfl | rfl := hmark
  · -- without a mark, the digits have no letter that could make one of them
    rw [List.nil_append]
    exact id?_bare (fun rest he => hlower (by simp [he])) (fun rest he => hupper (by simp [he]))
  · rfl
  · rfl

theorem exists_mark (cs : List Char) :
    ∃ mark ∈ marks, ∃ digits, cs = mark ++ digits ∧ id? cs = number? digits := by
  by_cases hlower : ∃ rest, cs = '0' :: 'x' :: rest
  · obtain ⟨rest, rfl⟩ := hlower
    exact ⟨['0', 'x'], by decide, rest, rfl, rfl⟩
  · by_cases hupper : ∃ rest, cs = '0' :: 'X' :: rest
    · obtain ⟨rest, rfl⟩ := hupper
      exact ⟨['0', 'X'], by decide, rest, rfl, rfl⟩
    · exact ⟨[], by decide, cs, rfl,
        id?_bare (not_exists.mp hlower) (not_exists.mp hupper)⟩

theorem id?_eq_some_iff : id? cs = some id ↔ WritesId signs cs id := by
  constructor
  · intro h
    obtain ⟨mark, hmark, digits, rfl, hid⟩ := exists_mark cs
    rw [hid] at h
    obtain ⟨hlength, sign, hsign, ds, rfl, hds, hdenotes⟩ := number?_eq_some_iff.mp h
    exact ⟨mark, hmark, sign, hsign, ds, rfl, hds, hlength, hdenotes⟩
  · rintro ⟨mark, hmark, sign, hsign, ds, rfl, hds, hlength, hdenotes⟩
    have hnone {c : Char} (hsigns : ∀ sign ∈ signs, c ∉ sign) (hc : c ∉ hexDigits) :
        c ∉ sign ++ ds := by
      rw [List.mem_append]
      exact not_or.mpr ⟨hsigns sign hsign, not_mem_of_hexDigits hdenotes.mem_hexDigits hc⟩
    rw [id?_mark hmark (hnone (by decide) (by decide)) (hnone (by decide) (by decide))]
    exact number?_eq_some_iff.mpr ⟨hlength, sign, hsign, ds, rfl, hds, hdenotes⟩

namespace WritesId

theorem plain (h : WritesId signs cs id) : ∀ c ∈ cs, (!isBlank c && c != ':') = true := by
  have hmarks : ∀ mark ∈ marks, (mark.all fun c => !isBlank c && c != ':') = true := by decide
  have hsigns : ∀ sign ∈ signs, (sign.all fun c => !isBlank c && c != ':') = true := by decide
  obtain ⟨mark, hmark, sign, hsign, ds, rfl, -, -, hdenotes⟩ := h
  exact List.forall_mem_append.mpr ⟨List.all_eq_true.mp (hmarks mark hmark),
    List.forall_mem_append.mpr ⟨List.all_eq_true.mp (hsigns sign hsign),
      all_of_hexDigits hdenotes.mem_hexDigits (by decide)⟩⟩

theorem isBlank_eq_false (h : WritesId signs cs id) : ∀ c ∈ cs, isBlank c = false :=
  fun c hc => by simpa using (Bool.and_eq_true_iff.mp (h.plain c hc)).1

theorem colon_not_mem (h : WritesId signs cs id) : ':' ∉ cs :=
  fun hc => absurd (h.plain _ hc) (by decide)

theorem unsigned_iff : WritesId [[]] cs id ↔ WritesId signs cs id ∧ '+' ∉ cs := by
  have hmarks : ∀ mark ∈ marks, '+' ∉ mark := by decide
  constructor
  · rintro ⟨mark, hmark, sign, hsign, ds, rfl, hds, hlength, hdenotes⟩
    obtain rfl := List.mem_singleton.mp hsign
    refine ⟨⟨mark, hmark, [], by decide, ds, rfl, hds, hlength, hdenotes⟩, ?_⟩
    rw [List.nil_append, List.mem_append]
    exact not_or.mpr
      ⟨hmarks mark hmark, not_mem_of_hexDigits hdenotes.mem_hexDigits (by decide)⟩
  · rintro ⟨⟨mark, hmark, sign, hsign, ds, rfl, h⟩, hplus⟩
    simp only [signs, List.mem_cons, List.not_mem_nil, or_false] at hsign
    obtain rfl | rfl := hsign
    · exact ⟨mark, hmark, [], by decide, ds, rfl, h⟩
    · exact absurd (by simp) hplus

end WritesId

theorem writesId_digits {ds : List Char} (hds : ds ≠ []) (hlength : ds.length ≤ 4)
    (h : Denotes ds id.toNat) : WritesId [[]] ds id :=
  ⟨[], by decide, [], by decide, ds, rfl, hds, hlength, h⟩

theorem writesId_hex (id : UInt16) : WritesId [[]] (Text.hex 4 id.toNat).toList id := by
  have hlength : (Text.hex 4 id.toNat).toList.length = 4 :=
    Text.length_hex (by decide) id.toNat_lt
  exact writesId_digits (List.ne_nil_of_length_eq_add_one hlength) (Nat.le_of_eq hlength)
    (Text.denotes_hex 4 id.toNat)

/-- `s` spells `sel`: a vendor and a product around a colon, with nothing else but blanks around
them. -/
def Spells (allowed : List (List Char)) (s : String) (sel : Selector) : Prop :=
  ∃ before vendor product after, s.toList = before ++ (vendor ++ ':' :: product) ++ after ∧
    (∀ c ∈ before, isBlank c = true) ∧ (∀ c ∈ after, isBlank c = true) ∧
    WritesId allowed vendor sel.vendor ∧ WritesId allowed product sel.product ∧
    sel.serial = none ∧ sel.path = none

theorem ofString_eq_ok_iff : ofString s = .ok sel ↔ Spells signs s sel := by
  constructor
  · intro h
    obtain ⟨before, after, hs, hbefore, hafter⟩ := Text.exists_blanks s.toList
    unfold ofString at h
    split at h
    · next vendor product hparts =>
      rw [Text.eq_of_splitWhere hparts] at hs
      split at h
      · next v p hv hp =>
        cases h
        exact ⟨before, vendor, product, after, hs, hbefore, hafter, id?_eq_some_iff.mp hv,
          id?_eq_some_iff.mp hp, rfl, rfl⟩
      · cases h
    · cases h
  · rintro ⟨before, vendor, product, after, hs, hbefore, hafter, hvendor, hproduct, hserial, hpath⟩
    -- what is left between the blanks is all of the two ids and the colon
    have hblank : ∀ c ∈ vendor ++ ':' :: product, isBlank c = false :=
      List.forall_mem_append.mpr ⟨hvendor.isBlank_eq_false,
        List.forall_mem_cons.mpr ⟨by decide, hproduct.isBlank_eq_false⟩⟩
    have hparts : Text.splitWhere (· == ':') (Text.trim s.toList) = [vendor, product] := by
      rw [hs, Text.trim_append hbefore hblank hafter]
      exact Text.splitWhere_mark hvendor.colon_not_mem hproduct.colon_not_mem
    simp only [ofString, hparts, id?_eq_some_iff.mpr hvendor, id?_eq_some_iff.mpr hproduct]
    rw [ofIds, ← hserial, ← hpath]

/-- The forms without a sign are those of the texts that have no plus sign. -/
theorem Spells.unsigned_iff : Spells [[]] s sel ↔ Spells signs s sel ∧ '+' ∉ s.toList := by
  have hblank {cs : List Char} (h : ∀ c ∈ cs, isBlank c = true) : '+' ∉ cs :=
    fun hmem => absurd (h '+' hmem) (by decide)
  constructor
  · rintro ⟨before, vendor, product, after, hs, hbefore, hafter, hvendor, hproduct, h⟩
    obtain ⟨hvendor, hv⟩ := WritesId.unsigned_iff.mp hvendor
    obtain ⟨hproduct, hp⟩ := WritesId.unsigned_iff.mp hproduct
    refine ⟨⟨before, vendor, product, after, hs, hbefore, hafter, hvendor, hproduct, h⟩, ?_⟩
    rw [hs]
    simp [hblank hbefore, hblank hafter, hv, hp]
  · rintro ⟨⟨before, vendor, product, after, hs, hbefore, hafter, hvendor, hproduct, h⟩, hplus⟩
    rw [hs] at hplus
    simp only [List.mem_append, List.mem_cons, not_or] at hplus
    obtain ⟨⟨-, hv, -, hp⟩, -⟩ := hplus
    exact ⟨before, vendor, product, after, hs, hbefore, hafter,
      WritesId.unsigned_iff.mpr ⟨hvendor, hv⟩, WritesId.unsigned_iff.mpr ⟨hproduct, hp⟩, h⟩

theorem spells_text (hserial : sel.serial = none) (hpath : sel.path = none) :
    Spells [[]] sel.text sel := by
  refine ⟨[], _, _, [], ?_, by simp, by simp, writesId_hex sel.vendor, writesId_hex sel.product,
    hserial, hpath⟩
  simp [text, hserial, hpath]

/-- A text is a selector where it is two ids around a colon, each with its digits possibly behind a
plus sign; there is no such sign in the text of a selector, and without it the grammar is the one
that is meant. -/
theorem ofString_spelt (s : String) (sel : Selector) :
    (ofString s = .ok sel ↔ Spells signs s sel) ∧
    (Spells [[]] s sel ↔ ofString s = .ok sel ∧ '+' ∉ s.toList) ∧
    (sel.serial = none → sel.path = none → ofString sel.text = .ok sel) := by
  refine ⟨ofString_eq_ok_iff, ?_, fun hserial hpath => ?_⟩
  · rw [Spells.unsigned_iff, ofString_eq_ok_iff]
  · exact ofString_eq_ok_iff.mpr (Spells.unsigned_iff.mp (spells_text hserial hpath)).1

theorem ofString_spelt_standard :
    standard.serial = none ∧ standard.path = none ∧ ofString standard.text = .ok standard ∧
    Spells [[]] " 0X0fFC:2\t" standard := by
  have hread : ofString " 0X0fFC:2\t" = .ok standard := by decide
  have h := ofString_spelt " 0X0fFC:2\t" standard
  exact ⟨rfl, rfl, h.2.2 rfl rfl, h.2.1.mpr ⟨hread, by decide⟩⟩

/-- A plus sign is accepted in front of an id's digits. -/
theorem ofString_signed :
    ofString "+1:2" = .ok (ofIds 1 2) ∧ ∀ sel, ¬ Spells [[]] "+1:2" sel := by
  refine ⟨by decide, fun sel h => ?_⟩
  exact absurd (by decide) (Spells.unsigned_iff.mp h).2

end FrameLink.Selector
