import FrameLink.Proofs.Cli.Payload
import FrameLink.Text.HexDump

namespace FrameLink.Payload

open Text (all_of_hexDigits hexDigits marks)

variable {c : Char} {cs token : List Char} {group : Bytes} {groups : List Bytes}

/-- A token writes a group of bytes: two digits a byte, of either case, behind at most one mark. -/
def WritesGroup (token : List Char) (group : Bytes) : Prop :=
  ∃ mark ∈ marks, ∃ ds, token = mark ++ ds ∧ HexPairs ds group

/-- A text writes groups of bytes: each in a token, separators between any two tokens and anywhere
around them. -/
inductive Written : List Char → List Bytes → Prop where
  | nil : Written [] []
  | separator {c : Char} {cs : List Char} {groups : List Bytes} :
    separates c = true → Written cs groups → Written (c :: cs) groups
  | last {token : List Char} {group : Bytes} : WritesGroup token group → Written token [group]
  | token {token cs : List Char} {c : Char} {group : Bytes} {groups : List Bytes} :
    WritesGroup token group → separates c = true → Written cs groups →
      Written (token ++ c :: cs) (group :: groups)

theorem separates_token (h : WritesGroup token group) : ∀ c ∈ token, separates c = false := by
  have hmarks : ∀ mark ∈ marks, (mark.all fun c => !separates c) = true := by decide
  have hdigits : (hexDigits.all fun c => !separates c) = true := by decide
  obtain ⟨mark, hmark, ds, rfl, hds⟩ := h
  simp only [← Bool.not_eq_true']
  exact List.forall_mem_append.mpr
    ⟨List.all_eq_true.mp (hmarks mark hmark), all_of_hexDigits hds.mem_hexDigits hdigits⟩

theorem hexPairs_token (h : WritesGroup token group) : HexPairs (digits token) group := by
  rw [digits_token (separates_token h)]
  obtain ⟨mark, hmark, ds, rfl, hds⟩ := h
  rwa [(strips_append hmark ds).unmarked_eq hds.mem_hexDigits]

theorem hexPairs_digits (h : Written cs groups) : HexPairs (digits cs) groups.flatten := by
  induction h with
  | nil => exact .nil
  | @separator c cs groups hc _ ih => rwa [show c :: cs = [] ++ c :: cs from rfl, digits_append hc]
  | last htoken =>
    rw [List.flatten_singleton]
    exact hexPairs_token htoken
  | token htoken hc _ ih =>
    rw [digits_append hc, List.flatten_cons]
    exact (hexPairs_token htoken).append ih

theorem writesGroup_hex (b : UInt8) : WritesGroup (Text.hex 2 b.toNat).toList [b] := by
  have hlength : (Text.hex 2 b.toNat).toList.length = 2 :=
    Text.length_hex (by decide) b.toNat_lt
  obtain ⟨high, low, hdigits⟩ := List.length_eq_two.mp hlength
  have hb := Text.denotes_hex 2 b.toNat
  rw [hdigits] at hb ⊢
  exact ⟨[], by decide, _, rfl, .cons hb .nil⟩

theorem written_hexSpaced (bs : Bytes) :
    Written (Text.hexSpaced bs).toList (bs.map fun b => [b]) := by
  rw [Text.hexSpaced, String.toList_intercalate, List.map_map]
  induction bs with
  | nil => exact .nil
  | cons b bs ih =>
    cases bs with
    | nil =>
      rw [List.map_singleton, List.intercalate_singleton]
      exact .last (writesGroup_hex b)
    | cons b' bs =>
      rw [List.map_cons, List.map_cons, List.intercalate_cons_cons, List.append_assoc]
      exact .token (writesGroup_hex b) (by decide) ih

/-- Every text that writes groups of bytes is read as their bytes, and so are the spaced digits. -/
theorem ofString_written :
    (∀ (s : String) (groups : List Bytes), Written s.toList groups →
      ofString s = .ok groups.flatten) ∧
    ∀ bs : Bytes, ofString (Text.hexSpaced bs) = .ok bs := by
  refine ⟨fun s groups h => ofString_of_hexPairs (hexPairs_digits h), fun bs => ?_⟩
  have h := hexPairs_digits (written_hexSpaced bs)
  rw [← List.flatMap_def, List.flatMap_singleton'] at h
  exact ofString_of_hexPairs h

theorem ofString_written_tangled :
    Written ", 0x0aB0\t,0X\n0D".toList [[0x0A, 0xB0], [], [0x0D]] ∧
    ofString ", 0x0aB0\t,0X\n0D" = .ok [0x0A, 0xB0, 0x0D] := by
  have hfirst : WritesGroup ['0', 'x', '0', 'a', 'B', '0'] [0x0A, 0xB0] :=
    ⟨['0', 'x'], by decide, _, rfl, .cons (Text.denotes_iff.mpr rfl)
      (.cons (Text.denotes_iff.mpr rfl) .nil)⟩
  have hsecond : WritesGroup ['0', 'X'] [] := ⟨['0', 'X'], by decide, [], rfl, .nil⟩
  have hthird : WritesGroup ['0', 'D'] [0x0D] :=
    ⟨[], by decide, _, rfl, .cons (Text.denotes_iff.mpr rfl) .nil⟩
  have h : Written ", 0x0aB0\t,0X\n0D".toList [[0x0A, 0xB0], [], [0x0D]] :=
    .separator (by decide) (.separator (by decide) (.token hfirst (by decide)
      (.separator (by decide) (.token hsecond (by decide) (.last hthird)))))
  exact ⟨h, ofString_written.1 _ _ h⟩

end FrameLink.Payload
