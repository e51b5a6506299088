import FrameLink.Decoder

namespace FrameLink

def Verdict.followedBy (more : Bytes) : Verdict → Verdict
  | .accept f rest => .accept f (rest ++ more)
  | v => v

namespace Codec

variable {c : Codec} {n : Nat} {bs : Bytes} {v : Verdict} {f : Frame}

def header (c : Codec) (n : Nat) : Bytes :=
  beBytes c.lengthWidth.bytes n ++ [headerCheck (beBytes c.lengthWidth.bytes n)]

theorem covered_eq (c : Codec) (body : Bytes) : c.covered body = c.header body.length ++ body := by
  simp [covered, header]

theorem take_header (c : Codec) (n : Nat) (tail : Bytes) :
    (c.header n ++ tail).take c.lengthWidth.bytes = beBytes c.lengthWidth.bytes n := by
  rw [header, List.append_assoc, List.take_left' (length_beBytes _ _)]

theorem drop_header (c : Codec) (n : Nat) (tail : Bytes) :
    (c.header n ++ tail).drop c.lengthWidth.bytes =
      headerCheck (beBytes c.lengthWidth.bytes n) :: tail := by
  rw [header, List.append_assoc, List.drop_left' (length_beBytes _ _), List.singleton_append]

theorem beNat_length_field (h : n ≤ c.lengthWidth.maxBody) :
    beNat (beBytes c.lengthWidth.bytes n) = n := by
  have hpos := wordCount_pos c.lengthWidth.bytes
  apply beNat_beBytes
  unfold LengthWidth.maxBody at h
  omega

theorem encode_eq_ok_iff {bytes : Bytes} :
    c.encode f = .ok bytes ↔ f.bodyLength ≤ c.maxBody ∧ bytes = c.enclose f.body := by
  unfold encode
  split
  · next h => simp [Nat.not_le.mpr h]
  · next h => simp [Nat.not_lt.mp h, eq_comm]

theorem encode_eq_error_iff {e : ProtocolError} :
    c.encode f = .error e ↔ c.maxBody < f.bodyLength ∧ e = .frameTooLarge f.bodyLength c.maxBody := by
  unfold encode
  split
  · next h => simp [h, eq_comm]
  · next h => simp [h]

/-- The layouts of a candidate, and the verdict on each. The length field with its check may be
incomplete or damaged, or declare a length out of range; behind it the body with its checksum may be
incomplete or damaged. -/
inductive Judged (c : Codec) : Bytes → Verdict → Prop
  | headless {bs : Bytes} (h : bs.length ≤ c.lengthWidth.bytes) : Judged c bs .incomplete
  | damagedHeader {length tail : Bytes} {check : UInt8}
      (hl : length.length = c.lengthWidth.bytes) (hc : check ≠ headerCheck length) :
      Judged c (length ++ check :: tail)
        (.reject (.checksumMismatch check.toNat (headerCheck length).toNat))
  | tooLong {n : Nat} {tail : Bytes} (hn : n ≤ c.lengthWidth.maxBody) (hmax : c.maxBody < n) :
      Judged c (c.header n ++ tail) (.reject (.malformedFrame (.lengthExceedsMax n c.maxBody)))
  | tooShort {n : Nat} {tail : Bytes} (hmax : n ≤ c.maxBody) (hmin : n < Frame.minBody) :
      Judged c (c.header n ++ tail)
        (.reject (.malformedFrame (.lengthBelowMinimum n Frame.minBody)))
  | unfinished {n : Nat} {tail : Bytes} (hmax : n ≤ c.maxBody) (hmin : Frame.minBody ≤ n)
      (h : tail.length < n + c.checksum.width) : Judged c (c.header n ++ tail) .incomplete
  | damagedBody {body carried rest : Bytes} (hmax : body.length ≤ c.maxBody)
      (hmin : Frame.minBody ≤ body.length) (hw : carried.length = c.checksum.width)
      (hc : beNat carried ≠ c.checksum.value (c.covered body)) :
      Judged c (c.header body.length ++ (body ++ (carried ++ rest)))
        (.reject (.checksumMismatch (beNat carried) (c.checksum.value (c.covered body))))
  | intact {f : Frame} {bytes rest : Bytes} (h : c.encode f = .ok (startMarker :: bytes)) :
      Judged c (bytes ++ rest) (.accept f rest)

/-- The verdict behind a length field that has passed its check and its range. -/
def judgeBody (c : Codec) (body behind : Bytes) : Verdict :=
  let carried := behind.take c.checksum.width
  if carried.length < c.checksum.width then .incomplete
  else if beNat carried ≠ c.checksum.value (c.covered body) then
    .reject (.checksumMismatch (beNat carried) (c.checksum.value (c.covered body)))
  else match Frame.ofBody body with
    | some f => .accept f (behind.drop c.checksum.width)
    | none => .incomplete

theorem judge_header (hn : n ≤ c.lengthWidth.maxBody) (tail : Bytes) :
    c.judge (c.header n ++ tail) =
      if c.maxBody < n then .reject (.malformedFrame (.lengthExceedsMax n c.maxBody))
      else if n < Frame.minBody then
        .reject (.malformedFrame (.lengthBelowMinimum n Frame.minBody))
      else c.judgeBody (tail.take n) (tail.drop n) := by
  simp only [judge, take_header, drop_header, beNat_length_field hn, ne_eq, not_true_eq_false,
    if_false]
  rfl

theorem judge_header_of_range (hmax : n ≤ c.maxBody) (hmin : Frame.minBody ≤ n) (tail : Bytes) :
    c.judge (c.header n ++ tail) = c.judgeBody (tail.take n) (tail.drop n) := by
  rw [judge_header (Nat.le_trans hmax c.maxBody_le), if_neg (Nat.not_lt.mpr hmax),
    if_neg (Nat.not_lt.mpr hmin)]

theorem Judged.judge_eq (h : Judged c bs v) : c.judge bs = v := by
  cases h with
  | headless h => simp only [judge, List.drop_eq_nil_of_le h]
  | damagedHeader hl hc =>
    simp only [judge, List.take_left' hl, List.drop_left' hl, ne_eq, hc, not_false_eq_true, if_true]
  | tooLong hn hmax => rw [judge_header hn, if_pos hmax]
  | tooShort hmax hmin =>
    rw [judge_header (Nat.le_trans hmax c.maxBody_le), if_neg (Nat.not_lt.mpr hmax), if_pos hmin]
  | @unfinished n tail hmax hmin h =>
    have hs : ((tail.drop n).take c.checksum.width).length < c.checksum.width := by
      have hpos := c.checksum.width_pos
      simp only [List.length_take, List.length_drop]
      omega
    rw [judge_header_of_range hmax hmin]
    exact if_pos hs
  | damagedBody hmax hmin hw hc =>
    rw [judge_header_of_range hmax hmin, List.take_left, List.drop_left]
    simp only [judgeBody, List.take_left' hw, hw, Nat.lt_irrefl, if_false, ne_eq, hc,
      not_false_eq_true, if_true]
  | @intact f bytes rest h =>
    obtain ⟨hmax, hb⟩ := encode_eq_ok_iff.mp h
    have hw := length_beBytes c.checksum.width (c.checksum.value (c.covered f.body))
    have hv := beNat_beBytes _ _ (c.checksum.value_lt (c.covered f.body))
    have hlen : f.body.length ≤ c.maxBody := by rwa [Frame.length_body]
    have hmin : Frame.minBody ≤ f.body.length := by
      rw [Frame.length_body]
      exact Nat.le_add_right _ _
    rw [enclose, List.cons.injEq] at hb
    rw [hb.2, covered_eq, List.append_assoc, List.append_assoc, judge_header_of_range hlen hmin,
      List.take_left, List.drop_left, ← covered_eq]
    simp only [judgeBody, List.take_left' hw, List.drop_left' hw, hw, hv, Nat.lt_irrefl, if_false,
      ne_eq, not_true_eq_false, Frame.ofBody_body]

theorem exists_judged_header (hn : n ≤ c.lengthWidth.maxBody) (tail : Bytes) :
    ∃ v, Judged c (c.header n ++ tail) v := by
  by_cases hmax : c.maxBody < n
  · exact ⟨_, .tooLong hn hmax⟩
  rw [Nat.not_lt] at hmax
  by_cases hmin : n < Frame.minBody
  · exact ⟨_, .tooShort hmax hmin⟩
  rw [Nat.not_lt] at hmin
  by_cases hlen : tail.length < n + c.checksum.width
  · exact ⟨_, .unfinished hmax hmin hlen⟩
  -- body and checksum are complete, so the frame they write is fixed up to the checksum
  obtain ⟨body, carried, rest, rfl, rfl, hw⟩ : ∃ body carried rest, tail = body ++ (carried ++ rest) ∧
      body.length = n ∧ carried.length = c.checksum.width := by
    refine ⟨tail.take n, (tail.drop n).take c.checksum.width, (tail.drop n).drop c.checksum.width,
      ?_, ?_, ?_⟩
    · rw [List.take_append_drop, List.take_append_drop]
    · rw [List.length_take]
      omega
    · rw [List.length_take, List.length_drop]
      omega
  by_cases hc : beNat carried = c.checksum.value (c.covered body)
  · obtain ⟨f, rfl⟩ := Frame.exists_body_eq hmin
    have hcarried : carried = beBytes c.checksum.width (c.checksum.value (c.covered f.body)) := by
      rw [← hc, beBytes_beNat _ _ hw]
    have henc : c.encode f = .ok (startMarker :: (c.header f.body.length ++ (f.body ++ carried))) := by
      rw [encode_eq_ok_iff, enclose, hcarried, covered_eq, List.append_assoc]
      exact ⟨by rwa [Frame.length_body] at hmax, rfl⟩
    have h : Judged c (c.header f.body.length ++ (f.body ++ carried) ++ rest) (.accept f rest) :=
      .intact henc
    rw [List.append_assoc, List.append_assoc] at h
    exact ⟨_, h⟩
  · exact ⟨_, .damagedBody hmax hmin hw hc⟩

theorem exists_judged (c : Codec) (bs : Bytes) : ∃ v, Judged c bs v := by
  by_cases hshort : bs.length ≤ c.lengthWidth.bytes
  · exact ⟨_, .headless hshort⟩
  obtain ⟨length, check, tail, rfl, hl⟩ : ∃ length check tail,
      bs = length ++ check :: tail ∧ length.length = c.lengthWidth.bytes := by
    have hne : bs.drop c.lengthWidth.bytes ≠ [] := by
      rw [Ne, List.drop_eq_nil_iff]
      exact hshort
    obtain ⟨check, tail, ht⟩ := List.exists_cons_of_ne_nil hne
    refine ⟨bs.take c.lengthWidth.bytes, check, tail, ?_, ?_⟩
    · rw [← ht, List.take_append_drop]
    · rw [List.length_take]
      omega
  by_cases hc : check = headerCheck length
  · subst hc
    have hn : beNat length ≤ c.lengthWidth.maxBody := by
      have hlt := beNat_lt length
      rw [hl] at hlt
      exact Nat.le_sub_one_of_lt hlt
    have hh : length ++ headerCheck length :: tail = c.header (beNat length) ++ tail := by
      rw [header, beBytes_beNat _ _ hl, List.append_assoc, List.singleton_append]
    rw [hh]
    exact exists_judged_header hn tail
  · exact ⟨_, .damagedHeader hl hc⟩

theorem judge_eq_iff : c.judge bs = v ↔ Judged c bs v := by
  refine ⟨fun h => ?_, Judged.judge_eq⟩
  obtain ⟨w, hw⟩ := exists_judged c bs
  rwa [← h, hw.judge_eq]

/-- A verdict stands, whatever arrives later. -/
theorem Judged.followedBy (h : Judged c bs v) (hv : v ≠ .incomplete) (more : Bytes) :
    Judged c (bs ++ more) (v.followedBy more) := by
  cases h with
  | headless | unfinished => exact absurd rfl hv
  | damagedHeader hl hc =>
    rw [List.append_assoc, List.cons_append]
    exact .damagedHeader hl hc
  | tooLong hn hmax =>
    rw [List.append_assoc]
    exact .tooLong hn hmax
  | tooShort hmax hmin =>
    rw [List.append_assoc]
    exact .tooShort hmax hmin
  | damagedBody hmax hmin hw hc =>
    simp only [List.append_assoc]
    exact .damagedBody hmax hmin hw hc
  | intact h =>
    rw [List.append_assoc]
    exact .intact h

theorem judge_append (h : c.judge bs ≠ .incomplete) (more : Bytes) :
    c.judge (bs ++ more) = (c.judge bs).followedBy more :=
  ((judge_eq_iff.mp rfl).followedBy h more).judge_eq

/-- A frame is accepted on its encoding, and on nothing else. -/
theorem judge_eq_accept_iff {f : Frame} {rest : Bytes} :
    c.judge bs = .accept f rest ↔
      ∃ bytes, c.encode f = .ok (startMarker :: bytes) ∧ bs = bytes ++ rest := by
  rw [judge_eq_iff]
  constructor
  · intro h
    cases h with
    | intact h => exact ⟨_, h, rfl⟩
  · rintro ⟨bytes, h, rfl⟩
    exact .intact h

theorem exists_eq_cons_of_encode {bytes : Bytes} (h : c.encode f = .ok bytes) :
    ∃ tail, bytes = startMarker :: tail := ⟨_, (encode_eq_ok_iff.mp h).2⟩

theorem exists_judge_eq_accept {bytes : Bytes} (hf : c.encode f = .ok bytes)
    (hp : bytes <+: startMarker :: bs) : ∃ rest, c.judge bs = .accept f rest := by
  obtain ⟨rest, hr⟩ := hp
  obtain ⟨tail, rfl⟩ := exists_eq_cons_of_encode hf
  exact ⟨rest, judge_eq_accept_iff.mpr ⟨tail, hf, (List.cons.inj hr).2.symm⟩⟩

/-- A part of an encoding, from its front, is never judged before the rest arrives. -/
theorem judge_of_encode_append {more : Bytes} (h : c.encode f = .ok (startMarker :: (bs ++ more)))
    (hm : more ≠ []) : c.judge bs = .incomplete := by
  have hacc : c.judge (bs ++ more) = .accept f [] :=
    judge_eq_accept_iff.mpr ⟨_, h, (List.append_nil _).symm⟩
  cases hj : c.judge bs with
  | incomplete => rfl
  | reject e =>
    rw [judge_append (by rw [hj]; nofun), hj] at hacc
    cases hacc
  | accept g rest =>
    rw [judge_append (by rw [hj]; nofun), hj, Verdict.followedBy, Verdict.accept.injEq] at hacc
    exact absurd (List.append_eq_nil_iff.mp hacc.2).2 hm

end Codec
end FrameLink
