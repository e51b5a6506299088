import FrameLink.Proofs.Toml.Lines

namespace FrameLink.Toml

variable {cs more rest written : List Char} {name : String} {doc : Document}
  {line : Line} {lines : List Line}

def Spells (cs : List Char) (lines : List Line) : Prop :=
  ∀ bound : List Char, cs.length ≤ bound.length →
    collectWithin lineRound bound cs = some (lines, [])

theorem spells_nil : Spells [] [] := by
  intro bound _
  rw [collectWithin]
  rfl

theorem IsLine.spells (h : IsLine written line) (hne : written ≠ []) (hmore : Spells more lines) :
    Spells (written ++ more) (line :: lines) := by
  intro bound hbound
  have hlength : 0 < written.length := List.length_pos_iff.mpr hne
  rw [List.length_append] at hbound
  obtain ⟨b, bound, rfl⟩ : ∃ b tail, bound = b :: tail :=
    List.exists_cons_of_length_pos (by omega)
  rw [List.length_cons] at hbound
  rw [collectWithin, h more]
  dsimp only
  rw [hmore bound (by omega)]
  rfl

def pairLines (fields : List (String × Document)) : List Line :=
  fields.map fun (name, doc) => .pair ⟨[], name, doc⟩

theorem spells_pairs {fields : List (String × Document)} (h : writePairs fields = some written)
    (hmore : Spells more lines) : Spells (written ++ more) (pairLines fields ++ lines) := by
  induction fields generalizing written with
  | nil =>
    cases h
    exact hmore
  | cons field fields ih =>
    obtain ⟨name, doc⟩ := field
    simp only [writePairs, Option.bind_eq_bind, Option.bind_eq_some_iff] at h
    obtain ⟨key, hname, value, hvalue, tail, htail, h⟩ := h
    cases h
    have hline := (isLine_pair hname hvalue).spells (by simp) (ih htail)
    simpa [pairLines] using hline

/-- The lines of some sections, with empty lines between them. -/
inductive Lists : List (String × Document) → List Line → Prop
  | nil : Lists [] []
  | blank {sections : List (String × Document)} {lines : List Line} (h : Lists sections lines) :
    Lists sections (.blank :: lines)
  | section {name : String} {fields sections : List (String × Document)} {lines : List Line}
    (h : Lists sections lines) :
    Lists ((name, .table fields) :: sections) (.header [] name :: (pairLines fields ++ lines))

theorem writeSection_eq_some {s : String × Document} (h : writeSection s = some written) :
    ∃ name fields key pairs, s = (name, .table fields) ∧ writeName name = some key ∧
      writePairs fields = some pairs ∧ written = '[' :: key ++ "]\n".toList ++ pairs := by
  obtain ⟨name, doc⟩ := s
  cases doc with
  | table fields =>
    simp only [writeSection, Option.bind_eq_bind, Option.bind_eq_some_iff] at h
    obtain ⟨key, hname, pairs, hpairs, h⟩ := h
    cases h
    exact ⟨name, fields, key, pairs, rfl, hname, hpairs, rfl⟩
  | null | bool | int | fractional | text | stamp | list => cases h

theorem spells_section {s : String × Document} {sections : List (String × Document)}
    (h : writeSection s = some written) (hmore : Spells more lines)
    (hlines : Lists sections lines) :
    ∃ lines, Spells (written ++ more) lines ∧ Lists (s :: sections) lines := by
  obtain ⟨name, fields, key, pairs, rfl, hname, hpairs, rfl⟩ := writeSection_eq_some h
  refine ⟨_, ?_, .section hlines⟩
  have hline := (isLine_header hname).spells (by simp) (spells_pairs hpairs hmore)
  simpa using hline

theorem spells_sections {sections : List (String × Document)}
    (h : writeSections sections = some cs) : ∃ lines, Spells cs lines ∧ Lists sections lines := by
  induction sections generalizing cs with
  | nil =>
    cases h
    exact ⟨[], spells_nil, .nil⟩
  | cons s sections ih =>
    cases sections with
    | nil =>
      obtain ⟨lines, hspells, hlines⟩ := spells_section h spells_nil .nil
      exact ⟨lines, by simpa using hspells, hlines⟩
    | cons t sections =>
      simp only [writeSections, Option.bind_eq_bind, Option.bind_eq_some_iff] at h
      obtain ⟨first, hfirst, others, hothers, h⟩ := h
      cases h
      obtain ⟨lines, hspells, hlines⟩ := ih hothers
      exact spells_section hfirst (isLine_blank.spells (by simp) hspells) (.blank hlines)

namespace Fields

theorem lookup_eq_none {fields : Fields} (h : name ∉ fields.map Prod.fst) :
    fields.lookup name = none := by
  rw [List.lookup_eq_none_iff]
  intro field hfield
  rw [bne_iff_ne]
  rintro rfl
  exact h (List.mem_map_of_mem hfield)

def leaves (fields : List (String × Document)) : Fields :=
  fields.map fun (name, doc) => (name, .leaf doc)

theorem fieldDocuments_leaves (fields : List (String × Document)) :
    fieldDocuments (leaves fields) = fields := by
  induction fields with
  | nil => rfl
  | cons field fields ih =>
    exact congrArg (field :: ·) ih

theorem insert_eq {fields : Fields} (h : name ∉ fields.map Prod.fst) :
    insert [] name doc fields = some (fields ++ [(name, .leaf doc)]) := by
  simp [insert, within, lookup_eq_none h]

theorem insertAll_eq {fields : List (String × Document)} {before : Fields}
    (h : (before.map Prod.fst ++ fields.map Prod.fst).Nodup) :
    insertAll (fields.map fun (name, doc) => ⟨[], name, doc⟩) before =
      some (before ++ leaves fields) := by
  induction fields generalizing before with
  | nil => simp [insertAll, leaves]
  | cons field fields ih =>
    obtain ⟨name, doc⟩ := field
    have hname : name ∉ before.map Prod.fst := fun hmem =>
      (List.nodup_append.mp h).2.2 name hmem name (by simp) rfl
    have hafter : ((before ++ [(name, Node.leaf doc)]).map Prod.fst ++
        fields.map Prod.fst).Nodup := by
      simpa using h
    simp only [List.map_cons, insertAll, insert_eq hname, Option.bind_eq_bind, Option.bind_some]
    rw [ih hafter]
    simp [leaves]

theorem openTable_eq {fields inner : Fields} {fill : Fields → Option Fields}
    (h : name ∉ fields.map Prod.fst) (hfill : fill [] = some inner) :
    openTable [] name fill fields = some (fields ++ [(name, .table .header inner)]) := by
  simp [openTable, within, lookup_eq_none h, hfill]

end Fields

theorem fieldDocuments_append (fields more : Fields) :
    fieldDocuments (fields ++ more) = fieldDocuments fields ++ fieldDocuments more := by
  induction fields with
  | nil => rfl
  | cons field fields ih => exact congrArg (_ :: ·) ih

theorem leadingPairs_pairLines (fields : List (String × Document)) (lines : List Line) :
    leadingPairs (pairLines fields ++ lines) =
      ((fields.map fun (name, doc) => ⟨[], name, doc⟩) ++ (leadingPairs lines).1,
        (leadingPairs lines).2) := by
  induction fields with
  | nil => rfl
  | cons field fields ih =>
    have hcons : pairLines (field :: fields) ++ lines =
        .pair ⟨[], field.1, field.2⟩ :: (pairLines fields ++ lines) := rfl
    rw [hcons, leadingPairs, ih]
    rfl

theorem Lists.leadingPairs_eq {sections : List (String × Document)} (h : Lists sections lines) :
    (leadingPairs lines).1 = [] := by
  induction h with
  | nil | «section» => rfl
  | blank _ ih => exact ih

theorem addTables_leadingPairs (lines : List Line) (fields : Fields) :
    addTables (leadingPairs lines).2 fields = addTables lines fields := by
  induction lines with
  | nil => rfl
  | cons line lines ih =>
    cases line with
    | blank => rw [addTables]; exact ih
    | pair => rw [addTables]; exact ih
    | header | item => rfl

/-- All names in one place are different. -/
structure Distinct (sections : List (String × Document)) : Prop where
  names : (sections.map Prod.fst).Nodup
  fields : ∀ name fields, (name, .table fields) ∈ sections → (fields.map Prod.fst).Nodup

/-- Induction on the lines of the sections, behind tables with other names. -/
theorem Lists.addTables_eq {sections : List (String × Document)} {before : Fields}
    (h : Lists sections lines) (hnames : (before.map Prod.fst ++ sections.map Prod.fst).Nodup)
    (hfields : ∀ name fields, (name, .table fields) ∈ sections → (fields.map Prod.fst).Nodup) :
    ∃ after, addTables lines before = some after ∧
      fieldDocuments after = fieldDocuments before ++ sections := by
  induction h generalizing before with
  | nil => exact ⟨before, by rw [addTables], (List.append_nil _).symm⟩
  | blank _ ih =>
    rw [addTables]
    exact ih hnames hfields
  | @«section» name inner sections lines h ih =>
    have hname : name ∉ before.map Prod.fst := fun hmem =>
      (List.nodup_append.mp hnames).2.2 name hmem name (by simp) rfl
    have hfill : Fields.insertAll (inner.map fun (name, doc) => ⟨[], name, doc⟩) [] =
        some (Fields.leaves inner) :=
      Fields.insertAll_eq (by simpa using hfields name inner List.mem_cons_self)
    have hafter : ((before ++ [(name, Node.table .header (Fields.leaves inner))]).map Prod.fst ++
        sections.map Prod.fst).Nodup := by
      simpa using hnames
    obtain ⟨after, hadd, hdocuments⟩ :=
      ih hafter fun name fields hmem => hfields name fields (List.mem_cons_of_mem _ hmem)
    refine ⟨after, ?_, ?_⟩
    · rw [addTables, leadingPairs_pairLines, h.leadingPairs_eq, List.append_nil,
        Fields.openTable_eq hname hfill]
      simp only [Option.bind_eq_bind, Option.bind_some]
      rw [addTables_leadingPairs]
      exact hadd
    · rw [hdocuments, fieldDocuments_append, List.append_assoc]
      simp [fieldDocuments, Node.toDocument, Fields.fieldDocuments_leaves]

theorem Lists.ofLines_eq {sections : List (String × Document)} (h : Lists sections lines)
    (hdistinct : Distinct sections) : ofLines lines = some (.table sections) := by
  have hnames : (([] : Fields).map Prod.fst ++ sections.map Prod.fst).Nodup := hdistinct.names
  obtain ⟨after, hadd, hdocuments⟩ := h.addTables_eq hnames hdistinct.fields
  rw [← addTables_leadingPairs] at hadd
  simp [ofLines, h.leadingPairs_eq, Fields.insertAll, hadd, hdocuments, fieldDocuments]

theorem skipMark_writeSections {sections : List (String × Document)}
    (h : writeSections sections = some cs) : skipMark cs = cs := by
  have hsection : ∀ s first more, writeSection s = some first →
      skipMark (first ++ more) = first ++ more := by
    intro s first more h
    obtain ⟨name, fields, key, pairs, -, -, -, rfl⟩ := writeSection_eq_some h
    rfl
  match sections with
  | [] =>
    cases h
    rfl
  | [s] => simpa using hsection s cs [] h
  | s :: t :: sections =>
    simp only [writeSections, Option.bind_eq_bind, Option.bind_eq_some_iff] at h
    obtain ⟨first, hfirst, others, -, h⟩ := h
    cases h
    exact hsection s first _ hfirst

/-- A table of sections that has been written is read again. -/
theorem read_write {sections : List (String × Document)} (hdistinct : Distinct sections)
    (h : write (.table sections) = some cs) : read cs = some (.table sections) := by
  obtain ⟨lines, hspells, hlines⟩ := spells_sections h
  rw [read, skipMark_writeSections h, collect, hspells cs (Nat.le_refl _)]
  exact hlines.ofLines_eq hdistinct

theorem isSome_writePairs {fields : List (String × Document)} :
    (writePairs fields).isSome ↔
      ∀ field ∈ fields, (writeName field.1).isSome ∧ (writeValue field.2).isSome := by
  induction fields with
  | nil => simp [writePairs]
  | cons field fields ih =>
    rw [List.forall_mem_cons, ← ih, writePairs]
    cases writeName field.1 <;> cases writeValue field.2 <;> cases writePairs fields <;> simp

theorem isSome_writeSection {name : String} {fields : List (String × Document)} :
    (writeSection (name, .table fields)).isSome ↔
      (writeName name).isSome ∧ (writePairs fields).isSome := by
  rw [writeSection]
  cases writeName name <;> cases writePairs fields <;> simp

theorem isSome_writeSections {sections : List (String × Document)} :
    (writeSections sections).isSome ↔ ∀ s ∈ sections, (writeSection s).isSome := by
  induction sections with
  | nil => simp [writeSections]
  | cons s sections ih =>
    cases sections with
    | nil => simp [writeSections]
    | cons t sections =>
      rw [List.forall_mem_cons, ← ih, writeSections]
      · cases writeSection s <;> cases writeSections (t :: sections) <;> simp
      · simp

end FrameLink.Toml
