import FrameLink.Toml.Writer

namespace FrameLink.Toml

variable {c q : Char} {cs inner rest written : List Char}

theorem needsEscape_eq_false_iff : needsEscape c = false ↔ isPlain c = true ∨ c = '\n' := by
  cases h : isPlain c <;> simp [needsEscape, h]

theorem toNat_lt_of_needsEscape (h : needsEscape c = true) : c.toNat < 0x80 := by
  have hp : isPlain c = false := by
    cases hp : isPlain c with
    | false => rfl
    | true => simp [needsEscape, hp] at h
  simp only [isPlain, Bool.or_eq_false_iff, Bool.and_eq_false_iff, decide_eq_false_iff_not,
    bne_eq_false_iff_eq] at hp
  omega

theorem unicode?_codeDigits : ∀ n < 0x80,
    (codeDigits n).length = 4 ∧ unicode? (codeDigits n) = some (Char.ofNat n) := by
  decide +kernel

inductive Escaped (c : Char) : List Char → Prop
  | letter {e : Char} (h : escaped? e = some c) : Escaped c ['\\', e]
  | code {x y z w : Char} (h : unicode? [x, y, z, w] = some c) : Escaped c ['\\', 'u', x, y, z, w]
  | plain (hp : isPlain c = true) (hq : c ≠ '\x22') (hb : c ≠ '\\') : Escaped c [c]

theorem escaped_escapeChar (c : Char) : Escaped c (escapeChar c) := by
  unfold escapeChar
  split
  iterate 7 exact .letter rfl
  next _ _ hnewline _ _ hquote hbackslash =>
  split
  · next h =>
    have hcode := unicode?_codeDigits c.toNat (toNat_lt_of_needsEscape h)
    rw [Char.ofNat_toNat] at hcode
    generalize codeDigits c.toNat = digits at hcode
    obtain ⟨hlength, hdigits⟩ := hcode
    match digits, hlength with
    | [x, y, z, w], _ => exact .code hdigits
  · next h =>
    obtain hp | rfl := needsEscape_eq_false_iff.mp ((Bool.not_eq_true _).mp h)
    · exact .plain hp hquote hbackslash
    · exact absurd rfl hnewline

theorem ne_of_escaped? {e : Char} (h : escaped? e = some c) : e ≠ 'u' ∧ e ≠ 'U' := by
  constructor
  · rintro rfl
    cases h
  · rintro rfl
    cases h

theorem basicBody_of_escaped (h : Escaped c written) (rest : List Char) :
    basicBody (written ++ rest) = push c (basicBody rest) := by
  cases h with
  | letter h =>
    obtain ⟨hu, hU⟩ := ne_of_escaped? h
    simp [basicBody, hu, hU, h, push?]
  | code h => simp [basicBody, h, push?]
  | plain hp hq hb => simp [basicBody, hp, hb]

theorem basicBody_escaped (cs rest : List Char) :
    basicBody (cs.flatMap escapeChar ++ '\x22' :: rest) = some (cs, rest) := by
  induction cs with
  | nil => simp [basicBody]
  | cons c cs ih =>
    rw [List.flatMap_cons, List.append_assoc, basicBody_of_escaped (escaped_escapeChar c), ih]
    rfl

theorem literalBody_plain (hp : ∀ c ∈ cs, isPlain c = true) (hq : '\x27' ∉ cs) (rest : List Char) :
    literalBody (cs ++ '\x27' :: rest) = some (cs, rest) := by
  induction cs with
  | nil => simp [literalBody]
  | cons c cs ih =>
    obtain ⟨hc, hcs⟩ := List.forall_mem_cons.mp hp
    rw [List.mem_cons, not_or] at hq
    have hne : c ≠ '\x27' := Ne.symm hq.1
    rw [List.cons_append, literalBody, if_pos hc, ih hcs hq.2]
    · rfl
    · exact hne

theorem extraQuotes_replicate {n : Nat} (hn : n ≤ 2) (hc : c ≠ q) (rest : List Char) :
    extraQuotes q (List.replicate n q ++ c :: rest) = (List.replicate n q, c :: rest) := by
  match n, rest with
  | 0, [] | 0, _ :: _ | 1, _ | 2, _ => simp [extraQuotes, hc]

/-- A reader of text that three quotes end: fewer of them belong to the text. -/
structure EndsAtThree (q : Char) (body : List Char → Option (List Char × List Char)) : Prop where
  quote : q ≠ '\n' ∧ q ≠ '\r'
  three (rest : List Char) : body (q :: q :: q :: rest) = some (extraQuotes q rest)
  one {c : Char} (hc : c ≠ q) (rest : List Char) :
    body (q :: c :: rest) = push q (body (c :: rest))
  two {c : Char} (hc : c ≠ q) (rest : List Char) :
    body (q :: q :: c :: rest) = push q (push q (body (c :: rest)))

theorem longBasicBody_endsAtThree : EndsAtThree '\x22' (longBasicBody false) where
  quote := by decide
  three rest := by simp [longBasicBody]
  one hc rest := by simp [longBasicBody, hc]
  two hc rest := by simp [longBasicBody, hc]

theorem longLiteralBody_endsAtThree : EndsAtThree '\x27' longLiteralBody where
  quote := by decide
  three rest := by simp [longLiteralBody]
  one hc rest := by simp [longLiteralBody, isPlain, hc]
  two hc rest := by simp [longLiteralBody, isPlain, hc]

/-- Text with what is written for it behind so many quotes in a row, of which there are never three:
a quote for itself, and for any other character something that is read as it. -/
inductive Spelt (q : Char) (body : List Char → Option (List Char × List Char)) :
    (run : Nat) → List Char → List Char → Prop
  | nil {run : Nat} : Spelt q body run [] []
  | quote {run : Nat} {cs written : List Char} (hrun : run < 2)
      (h : Spelt q body (run + 1) cs written) : Spelt q body run (q :: cs) (q :: written)
  | other {run : Nat} {c d : Char} {cs more written : List Char} (hd : d ≠ q)
      (hreturn : d ≠ '\r') (hline : d = '\n' → c = '\n')
      (hc : ∀ rest, body (d :: (more ++ rest)) = push c (body rest))
      (h : Spelt q body 0 cs written) : Spelt q body run (c :: cs) (d :: (more ++ written))

theorem Spelt.self {body : List Char → Option (List Char × List Char)} {run : Nat}
    (hq : c ≠ q) (hreturn : c ≠ '\r') (hc : ∀ rest, body (c :: rest) = push c (body rest))
    (h : Spelt q body 0 cs written) : Spelt q body run (c :: cs) (c :: written) :=
  @Spelt.other q body run c c cs [] written hq hreturn (fun h => h) hc h

namespace EndsAtThree

variable {body : List Char → Option (List Char × List Char)} {run : Nat}

theorem quotes (hbody : EndsAtThree q body) (hrun : run ≤ 2) (hc : c ≠ q)
    (h : body (c :: cs) = some (inner, rest)) :
    body (List.replicate run q ++ c :: cs) = some (List.replicate run q ++ inner, rest) := by
  match run with
  | 0 => exact h
  | 1 => simp [hbody.one hc, h, push]
  | 2 => simp [hbody.two hc, h, push]

theorem close (hbody : EndsAtThree q body) (hrun : run ≤ 2) (more : List Char) :
    body (List.replicate run q ++ ([q, q, q] ++ '\n' :: more)) =
      some (List.replicate run q, '\n' :: more) := by
  have hmove : List.replicate run q ++ ([q, q, q] ++ '\n' :: more) =
      q :: q :: q :: (List.replicate run q ++ '\n' :: more) := by
    rw [← List.append_assoc, show [q, q, q] = List.replicate 3 q from rfl,
      List.replicate_append_replicate, Nat.add_comm run, ← List.replicate_append_replicate]
    rfl
  rw [hmove, hbody.three, extraQuotes_replicate hrun hbody.quote.1.symm]

/-- Induction on what is written, with the quotes right before it still open: they may turn out to
belong to the text or to its end. -/
theorem spelt (hbody : EndsAtThree q body) (h : Spelt q body run cs written) (hrun : run ≤ 2)
    (more : List Char) :
    body (List.replicate run q ++ (written ++ ([q, q, q] ++ '\n' :: more))) =
      some (List.replicate run q ++ cs, '\n' :: more) := by
  induction h with
  | nil => simpa using hbody.close hrun more
  | quote hlt _ ih => simpa [List.replicate_succ'] using ih hlt
  | other hd _ _ hc _ ih =>
    have hread := ih (Nat.zero_le _)
    rw [List.replicate_zero, List.nil_append] at hread
    refine hbody.quotes hrun hd ?_
    rw [List.append_eq, List.append_assoc, hc, hread]
    rfl

/-- A line break behind the opening quotes is written in front of text with line breaks, and no
other text begins like one. -/
theorem enclosed (hbody : EndsAtThree q body) (h : Spelt q body 0 cs written) (more : List Char) :
    body (skipNewline ((if cs.contains '\n' then ['\n'] else []) ++
      (written ++ ([q, q, q] ++ '\n' :: more)))) = some (cs, '\n' :: more) := by
  have hread := hbody.spelt h (Nat.zero_le _) more
  rw [List.replicate_zero, List.nil_append] at hread
  split
  · exact hread
  · next hline =>
    rw [List.contains_iff_mem] at hline
    suffices newline? (written ++ ([q, q, q] ++ '\n' :: more)) = none by
      rw [skipNewline, List.nil_append, this]
      exact hread
    cases h with
    | nil | quote => simp [newline?, hbody.quote]
    | @other _ _ d _ _ _ _ hreturn hd =>
      have hnewline : d ≠ '\n' := fun h => hline (by simp [hd h])
      simp [newline?, hreturn, hnewline]

end EndsAtThree

theorem endsLine_of_escaped? {e : Char} (h : escaped? e = some c) (rest : List Char) :
    endsLine (e :: rest) = false := by
  unfold escaped? at h
  split at h <;> first | rfl | cases h

theorem longBasicBody_of_escaped (h : Escaped c written) (rest : List Char) :
    longBasicBody false (written ++ rest) = push c (longBasicBody false rest) := by
  cases h with
  | letter h =>
    obtain ⟨hu, hU⟩ := ne_of_escaped? h
    simp [longBasicBody, hu, hU, h, push?, endsLine_of_escaped? h]
  | code h => simp [longBasicBody, h, push?]
  | plain hp hq hb =>
    have hreturn : c ≠ '\r' := by
      rintro rfl
      cases hp
    simp [longBasicBody, hp, hq, hb, hreturn]

theorem head_of_escaped (h : Escaped c written) :
    ∃ d more, written = d :: more ∧ d ≠ '\x22' ∧ d ≠ '\r' ∧ (d = '\n' → c = '\n') := by
  cases h with
  | letter | code => exact ⟨_, _, rfl, by decide, by decide, fun h => absurd h (by decide)⟩
  | plain hp hq =>
    refine ⟨c, [], rfl, hq, ?_, fun h => h⟩
    rintro rfl
    cases hp

theorem spelt_escapeLong (run : Nat) (cs : List Char) :
    Spelt '\x22' (longBasicBody false) run cs (escapeLong run cs) := by
  induction cs generalizing run with
  | nil => exact .nil
  | cons c cs ih =>
    rw [escapeLong]
    have hescaped := escaped_escapeChar c
    split
    · next hquote =>
      subst hquote
      split
      · next hrun => exact .quote hrun (ih _)
      · exact .other (by decide) (by decide) (by decide) (longBasicBody_of_escaped hescaped)
          (ih 0)
    · next hquote =>
      split
      · next hline =>
        subst hline
        exact .self (by decide) (by decide) (fun _ => by simp [longBasicBody]) (ih 0)
      · next hline =>
        obtain ⟨d, more, hwritten, hd, hreturn, hnewline⟩ := head_of_escaped hescaped
        have hread := longBasicBody_of_escaped hescaped
        rw [hwritten] at hread ⊢
        exact .other hd hreturn hnewline hread (ih 0)

theorem spelt_literal {run : Nat} (hrun : hasRun '\x27' 2 run cs = false)
    (hp : ∀ c ∈ cs, needsEscape c = false) : Spelt '\x27' longLiteralBody run cs cs := by
  induction cs generalizing run with
  | nil => exact .nil
  | cons c cs ih =>
    obtain ⟨hc, hcs⟩ := List.forall_mem_cons.mp hp
    rw [hasRun] at hrun
    split at hrun
    · next hquote =>
      subst hquote
      rw [Bool.or_eq_false_iff, decide_eq_false_iff_not, Nat.not_le] at hrun
      exact .quote hrun.1 (ih hrun.2 hcs)
    · next hquote =>
      have hc := needsEscape_eq_false_iff.mp hc
      have hreturn : c ≠ '\r' := by
        rintro rfl
        revert hc
        decide
      refine .self hquote hreturn (fun rest => ?_) (ih hrun hcs)
      simp [longLiteralBody, hquote, hreturn, hc]

theorem notMem_of_hasRun {run : Nat} (h : hasRun q 0 run cs = false) : q ∉ cs := by
  induction cs generalizing run with
  | nil => simp
  | cons c cs ih =>
    rw [hasRun] at h
    split at h
    · simp at h
    · next hne => simpa [Ne.symm hne] using ih h

theorem choose_literal (h : QuoteForm.choose cs = .literal) :
    (∀ c ∈ cs, isPlain c = true) ∧ '\x27' ∉ cs := by
  unfold QuoteForm.choose at h
  extract_lets controls backslash newline at h
  split at h
  · cases h
  split at h
  · next hchosen =>
    obtain ⟨hcontrols, hnewline, hrun⟩ := hchosen
    refine ⟨fun c hc => ?_, notMem_of_hasRun ((Bool.not_eq_true _).mp hrun)⟩
    have hescape : needsEscape c = false :=
      (Bool.not_eq_true _).mp fun h => hcontrols (List.any_eq_true.mpr ⟨c, hc, h⟩)
    obtain hplain | rfl := needsEscape_eq_false_iff.mp hescape
    · exact hplain
    · exact absurd (List.contains_iff_mem.mpr hc) hnewline
  · split at h
    · cases h
    · split at h
      · cases h
      · split at h <;> cases h

theorem choose_longLiteral (h : QuoteForm.choose cs = .longLiteral) :
    (∀ c ∈ cs, needsEscape c = false) ∧ hasRun '\x27' 2 0 cs = false := by
  unfold QuoteForm.choose at h
  extract_lets controls backslash newline at h
  split at h
  · cases h
  split at h
  · cases h
  split at h
  · cases h
  split at h
  · next hchosen =>
    obtain ⟨hcontrols, hrun⟩ := hchosen
    refine ⟨fun c hc => ?_, (Bool.not_eq_true _).mp hrun⟩
    exact (Bool.not_eq_true _).mp fun h => hcontrols (List.any_eq_true.mpr ⟨c, hc, h⟩)
  · split at h <;> cases h

theorem quoted_of_ne (hcs : ∀ more, cs ≠ q :: q :: more) :
    quoted (q :: cs) = shortQuoted (q :: cs) := by
  unfold quoted
  split
  · next h =>
    rw [List.cons.injEq] at h
    obtain ⟨rfl, h⟩ := h
    exact absurd h (hcs _)
  · next h =>
    rw [List.cons.injEq] at h
    obtain ⟨rfl, h⟩ := h
    exact absurd h (hcs _)
  · rfl

theorem quoted_basic (cs more : List Char) :
    quoted (QuoteForm.basic.write cs ++ '\n' :: more) = some (cs, '\n' :: more) := by
  have hbody := basicBody_escaped cs ('\n' :: more)
  rw [QuoteForm.write, List.cons_append, List.append_assoc, List.singleton_append,
    quoted_of_ne]
  · exact hbody
  · rintro rest hrest
    cases cs with
    | nil => simp at hrest
    | cons c cs =>
      obtain ⟨d, written, hwritten, hd, -⟩ := head_of_escaped (escaped_escapeChar c)
      rw [List.flatMap_cons, hwritten] at hrest
      exact hd (List.head_eq_of_cons_eq hrest)

theorem quoted_literal (hp : ∀ c ∈ cs, isPlain c = true) (hq : '\x27' ∉ cs) (more : List Char) :
    quoted (QuoteForm.literal.write cs ++ '\n' :: more) = some (cs, '\n' :: more) := by
  have hbody := literalBody_plain hp hq ('\n' :: more)
  rw [QuoteForm.write, List.cons_append, List.append_assoc, List.singleton_append,
    quoted_of_ne]
  · exact hbody
  · rintro rest hrest
    cases cs with
    | nil => simp at hrest
    | cons c cs => exact hq (List.head_eq_of_cons_eq hrest ▸ List.mem_cons_self)

/-- Text that has been written is read again up to the end of its line. -/
theorem quoted_writeText (cs more : List Char) :
    quoted (writeText cs ++ '\n' :: more) = some (cs, '\n' :: more) := by
  unfold writeText
  cases hform : QuoteForm.choose cs with
  | basic => exact quoted_basic cs more
  | literal =>
    obtain ⟨hplain, hquote⟩ := choose_literal hform
    exact quoted_literal hplain hquote more
  | longBasic =>
    have h := longBasicBody_endsAtThree.enclosed (spelt_escapeLong 0 cs) more
    simpa [QuoteForm.write, encloseLong, quoted] using h
  | longLiteral =>
    obtain ⟨hplain, hrun⟩ := choose_longLiteral hform
    have h := longLiteralBody_endsAtThree.enclosed (spelt_literal hrun hplain) more
    simpa [QuoteForm.write, encloseLong, quoted] using h

theorem head_writeText (cs : List Char) :
    ∃ q more, writeText cs = q :: more ∧ (q = '\x22' ∨ q = '\x27') := by
  unfold writeText
  cases QuoteForm.choose cs with
  | basic | longBasic => exact ⟨_, _, rfl, .inl rfl⟩
  | literal | longLiteral => exact ⟨_, _, rfl, .inr rfl⟩

end FrameLink.Toml
