import FrameLink.Proofs.Toml.Number
import FrameLink.Proofs.Toml.Quoted

namespace FrameLink.Toml

variable {c : Char} {cs more rest : List Char} {name : String} {doc : Document}

theorem writeName_eq_some (h : writeName name = some cs) :
    cs = name.toList ∧ cs ≠ [] ∧ ∀ c ∈ cs, isBareKeyChar c = true := by
  unfold writeName at h
  split at h
  · next hname =>
    cases h
    refine ⟨rfl, fun he => hname.1 ?_, List.all_eq_true.mp hname.2⟩
    rw [String.isEmpty_iff]
    exact String.toList_eq_nil_iff.mp he
  · cases h

theorem keyPart_name (hcs : cs ≠ []) (hbare : ∀ c ∈ cs, isBareKeyChar c = true)
    (hc : isBareKeyChar c = false) :
    keyPart (cs ++ c :: rest) = some (String.ofList cs, c :: rest) := by
  obtain ⟨d, tail, rfl⟩ := List.exists_cons_of_ne_nil hcs
  have hd := hbare d List.mem_cons_self
  have htake : (d :: tail ++ c :: rest).takeWhile isBareKeyChar = d :: tail := by
    rw [List.takeWhile_append_of_pos hbare, List.takeWhile_cons_of_neg (by simp [hc]),
      List.append_nil]
  have hdrop : (d :: tail ++ c :: rest).dropWhile isBareKeyChar = c :: rest := by
    rw [List.dropWhile_append_of_pos hbare, List.dropWhile_cons_of_neg (by simp [hc])]
  unfold keyPart
  split
  · next he => exact absurd (List.head_eq_of_cons_eq he) (ne_of_test hd rfl)
  · next he => exact absurd (List.head_eq_of_cons_eq he) (ne_of_test hd rfl)
  · dsimp only
    rw [htake, hdrop]
    rfl

theorem skipBlanks_cons (hc : isBlank c = false) : skipBlanks (c :: rest) = c :: rest :=
  List.dropWhile_cons_of_neg (by simp [hc])

theorem skipBlanks_bare (hcs : cs ≠ []) (hbare : ∀ c ∈ cs, isBareKeyChar c = true)
    (rest : List Char) : skipBlanks (cs ++ rest) = cs ++ rest := by
  obtain ⟨d, tail, rfl⟩ := List.exists_cons_of_ne_nil hcs
  have hd := hbare d List.mem_cons_self
  refine skipBlanks_cons ?_
  simp [isBlank, ne_of_test hd (d := ' ') rfl, ne_of_test hd (d := '\t') rfl]

theorem key_name (h : writeName name = some cs) (hc : isBareKeyChar c = false)
    (hdot : (skipBlanks (c :: rest)).head? ≠ some '.') :
    key (cs ++ c :: rest) = some (([], name), skipBlanks (c :: rest)) := by
  obtain ⟨rfl, hne, hbare⟩ := writeName_eq_some h
  have hround : keyRound (name.toList ++ c :: rest) =
      some (⟨[name], true⟩, skipBlanks (c :: rest)) := by
    rw [keyRound, skipBlanks_bare hne hbare, keyPart_name hne hbare hc, String.ofList_toList]
    simp only [Option.bind_eq_bind, Option.bind_some]
    split
    · next he => exact absurd (congrArg List.head? he) hdot
    · rfl
  rw [key, collect, collectWithin, hround]
  rfl

theorem isBlank_of_isDigit (h : isDigit 10 c = true) : isBlank c = false := by
  rw [isBlank, Bool.or_eq_false_iff, beq_eq_false_iff_ne, beq_eq_false_iff_ne]
  exact ⟨ne_of_test h rfl, ne_of_test h rfl⟩

theorem head_writeValue (h : writeValue doc = some cs) :
    ∃ c rest, cs = c :: rest ∧ isBlank c = false := by
  cases doc with
  | bool b =>
    cases h
    cases b with
    | true => exact ⟨'t', _, rfl, rfl⟩
    | false => exact ⟨'f', _, rfl, rfl⟩
  | int n =>
    rw [writeValue] at h
    split at h
    · cases h
      obtain ⟨c, rest, hhead, hc⟩ := head_toString n
      refine ⟨c, rest, hhead, ?_⟩
      obtain hc | rfl := hc
      · exact isBlank_of_isDigit hc
      · rfl
    · cases h
  | text s =>
    cases h
    obtain ⟨q, rest, hhead, hq⟩ := head_writeText s.toList
    refine ⟨q, rest, hhead, ?_⟩
    obtain rfl | rfl := hq <;> rfl
  | null | fractional | stamp | list | table => cases h

theorem value_of_head (depth : Nat) (hc : isDigit 10 c = true ∨ c = '-') (rest : List Char) :
    value depth (c :: rest) = number (c :: rest) := by
  have hne : ∀ d, isDigit 10 d = false → d ≠ '-' → c ≠ d := by
    rintro d hd hminus rfl
    obtain hc | rfl := hc
    · exact ne_of_test hc hd rfl
    · exact hminus rfl
  unfold value
  split
  iterate 6
    next he => exact absurd (List.head_eq_of_cons_eq he) (hne _ rfl (by decide))
  rfl

/-- A value that has been written is read again up to the end of its line. -/
theorem value_writeValue (depth : Nat) (h : writeValue doc = some cs) (more : List Char) :
    value depth (cs ++ '\n' :: more) = some (doc, '\n' :: more) := by
  cases doc with
  | bool b =>
    cases h
    cases b with
    | true => simp [value, word, toString]
    | false => simp [value, word, toString]
  | int n =>
    rw [writeValue] at h
    split at h
    · next hn =>
      cases h
      have hnumber := number_toString hn.1 hn.2 more
      obtain ⟨c, rest, hhead, hc⟩ := head_toString n
      rw [hhead] at hnumber ⊢
      rw [List.cons_append, value_of_head depth hc]
      exact hnumber
    · cases h
  | text s =>
    cases h
    have hquoted := quoted_writeText s.toList more
    obtain ⟨q, rest, hhead, rfl | rfl⟩ := head_writeText s.toList
    · rw [hhead, List.cons_append] at hquoted ⊢
      simp [value, hquoted]
    · rw [hhead, List.cons_append] at hquoted ⊢
      simp [value, hquoted]
  | null | fractional | stamp | list | table => cases h

/-- A line is read up to the one behind it. -/
def IsLine (cs : List Char) (line : Line) : Prop :=
  ∀ more, lineRound (cs ++ more) = some (⟨[line], false⟩, more)

theorem isLine_blank : IsLine ['\n'] .blank := by
  intro more
  simp [lineRound, content, skipBlanks_cons, isBlank, lineEnd?, skipComment, newline?]

theorem lineEnd?_newline (more : List Char) : lineEnd? ('\n' :: more) = some more := by
  simp [skipBlanks_cons, isBlank, lineEnd?, skipComment, newline?]

theorem isLine_header {written : List Char} (h : writeName name = some written) :
    IsLine ('[' :: written ++ "]\n".toList) (.header [] name) := by
  intro more
  have hkey : key (written ++ ']' :: '\n' :: more) = some (([], name), ']' :: '\n' :: more) :=
    key_name h rfl (by simp [skipBlanks_cons, isBlank])
  obtain ⟨-, hne, hbare⟩ := writeName_eq_some h
  obtain ⟨c, rest, rfl⟩ := List.exists_cons_of_ne_nil hne
  have hc : c ≠ '[' := ne_of_test (hbare c List.mem_cons_self) rfl
  have hcontent : content ('[' :: (c :: rest ++ ']' :: '\n' :: more)) =
      some (.header [] name, '\n' :: more) := by
    rw [List.cons_append] at hkey ⊢
    simp [content, hc, hkey, word]
  have hshape : '[' :: (c :: rest) ++ "]\n".toList ++ more =
      '[' :: (c :: rest ++ ']' :: '\n' :: more) := by
    simp
  rw [hshape, lineRound, skipBlanks_cons rfl, hcontent]
  · simp [lineEnd?_newline]
  · simp

/-- Nothing but a pair begins like a name. -/
theorem content_bare (hc : isBareKeyChar c = true) :
    content (c :: rest) =
      (pair (value maxDepth) (c :: rest)).map fun (p, rest) => (.pair p, rest) := by
  unfold content
  split
  · next he => cases he
  iterate 5
    next he => exact absurd (List.head_eq_of_cons_eq he) (ne_of_test hc rfl)
  exact Option.map_eq_bind.symm

theorem isLine_pair {written value : List Char} (hname : writeName name = some written)
    (hvalue : writeValue doc = some value) :
    IsLine (written ++ " = ".toList ++ value ++ ['\n']) (.pair ⟨[], name, doc⟩) := by
  intro more
  have hkey : key (written ++ ' ' :: '=' :: ' ' :: (value ++ '\n' :: more)) =
      some (([], name), '=' :: ' ' :: (value ++ '\n' :: more)) :=
    key_name hname rfl (by simp [skipBlanks, isBlank])
  have hread := value_writeValue maxDepth hvalue more
  have hblank : skipBlanks (' ' :: (value ++ '\n' :: more)) = value ++ '\n' :: more := by
    obtain ⟨d, tail, rfl, hd⟩ := head_writeValue hvalue
    rw [skipBlanks, List.dropWhile_cons_of_pos rfl]
    exact skipBlanks_cons hd
  have hpair : pair (Toml.value maxDepth)
      (written ++ ' ' :: '=' :: ' ' :: (value ++ '\n' :: more)) =
        some (⟨[], name, doc⟩, '\n' :: more) := by
    simp [pair, hkey, word, hblank, hread]
  obtain ⟨-, hne, hbare⟩ := writeName_eq_some hname
  have hskip := skipBlanks_bare hne hbare (' ' :: '=' :: ' ' :: (value ++ '\n' :: more))
  obtain ⟨c, rest, rfl⟩ := List.exists_cons_of_ne_nil hne
  have hshape : c :: rest ++ " = ".toList ++ value ++ ['\n'] ++ more =
      c :: (rest ++ ' ' :: '=' :: ' ' :: (value ++ '\n' :: more)) := by
    simp
  rw [List.cons_append] at hpair hskip
  rw [hshape, lineRound, hskip, content_bare (hbare c List.mem_cons_self), hpair]
  · simp [lineEnd?_newline]
  · simp

end FrameLink.Toml
