import FrameLink.Config.File
import FrameLink.Proofs.Config.Document
import FrameLink.Proofs.Toml.Written

namespace FrameLink

theorem toList_loop (bs : ByteArray) (n i : Nat) (hn : bs.size = i + n) (before : List UInt8) :
    ByteArray.toList.loop bs i before = before.reverse ++ bs.data.toList.drop i := by
  induction n generalizing i before with
  | zero =>
    rw [ByteArray.toList.loop, if_neg (by omega), List.drop_eq_nil_of_le (by simp; omega),
      List.append_nil]
  | succ n ih =>
    have hi : i < bs.size := by omega
    have hget : bs.get! i = bs.data[i] := by
      simp [ByteArray.get!, hi]
    rw [ByteArray.toList.loop, if_pos hi, ih (i + 1) (by omega), List.drop_eq_getElem_cons hi, hget]
    simp

theorem fromUTF8?_toUTF8 (s : String) :
    String.fromUTF8? ⟨s.toUTF8.toList.toArray⟩ = some s := by
  have hbytes : (⟨s.toUTF8.toList.toArray⟩ : ByteArray) = s.toUTF8 := by
    rw [ByteArray.toList, toList_loop _ s.toUTF8.size 0 (Nat.zero_add _).symm]
    simp
  rw [hbytes]
  exact dif_pos s.isValidUTF8

namespace FileTree

/-- Whether what is written into a place stays there: nothing stands there yet, or a file. -/
def isFree (t : FileTree) (here : Place) : Bool :=
  match t.get? here with
  | none => true
  | some (.file _) => true
  | some _ => false

def isWritable (t : FileTree) (p : Path) : Bool :=
  match t.makeDirectories p.parent with
  | (true, t) => (t.filePlace? p).any t.isFree
  | (false, _) => false

theorem read_of_isFree {t : FileTree} {p : Path} {here : Place}
    (hplace : t.filePlace? p = some here) (hfree : t.isFree here = true) (content : Bytes) :
    ∃ t', t.write p content = (true, t') ∧ t'.read p = some content := by
  have hkept : (t.filePlace? p).bind t.get? ≠ some .void := by
    rw [hplace, Option.bind_some]
    intro hvoid
    simp [isFree, hvoid] at hfree
  have hwrite : t.write p content = (true, t.put here (.file content)) := by
    unfold write
    rw [hplace]
    dsimp only
    split
    · next hdirectory => simp [isFree, hdirectory] at hfree
    · next hvoid => simp [isFree, hvoid] at hfree
    · rfl
  exact ⟨_, hwrite, read_write hkept hwrite⟩

/-- What is written where a file can be written is read there. -/
theorem read_writeDeep {t : FileTree} {p : Path} (h : t.isWritable p = true) (content : Bytes) :
    ∃ t', t.writeDeep p content = (true, t') ∧ t'.read p = some content := by
  unfold isWritable at h
  split at h
  · next made hmade =>
    obtain ⟨here, hplace, hfree⟩ := (Option.any_eq_true _ _).mp h
    rw [writeDeep, hmade]
    exact read_of_isFree hplace hfree content
  · cases h

end FileTree

namespace Document

def IsPlainName (name : String) : Prop :=
  name ≠ "" ∧ name.toList.all (fun c => c.isAlphanum || c == '_') = true

instance (name : String) : Decidable (IsPlainName name) := inferInstanceAs (Decidable (_ ∧ _))

def IsSetting : Document → Prop
  | int n => 0 ≤ n
  | text _ => True
  | _ => False

def IsSection : Document → Prop
  | table fields =>
    (fields.map Prod.fst).Nodup ∧ ∀ field ∈ fields, IsPlainName field.1 ∧ field.2.IsSetting
  | _ => False

structure Sectioned (sections : List (String × Document)) : Prop where
  names : (sections.map Prod.fst).Nodup
  plain : ∀ s ∈ sections, IsPlainName s.1
  isSection : ∀ s ∈ sections, s.2.IsSection

def fields : Document → List (String × Document)
  | table fields => fields
  | _ => []

@[simp] theorem fields_table (fields : List (String × Document)) : (table fields).fields = fields :=
  rfl

def Exceeds (limit : Int) (doc : Document) : Prop := ∃ n, doc = int n ∧ limit < n

@[simp] theorem exceeds_int {limit n : Int} : (int n).Exceeds limit ↔ limit < n := by
  simp [Exceeds]

@[simp] theorem not_exceeds_text {limit : Int} {s : String} : ¬ (text s).Exceeds limit := by
  simp [Exceeds]

end Document

namespace Format

/-- What is written for sections is read back. -/
def ReadsBack (F : Format) : Prop :=
  ∀ sections s, Document.Sectioned sections → F.write (.table sections) = some s →
    F.read s = some (.table sections)

/-- Sections can be written unless one of their integers is beyond the limit. -/
def WritesUpTo (limit : Int) (F : Format) : Prop :=
  ∀ sections, Document.Sectioned sections → (F.write (.table sections) = none ↔
    ∃ s ∈ sections, ∃ field ∈ s.2.fields, field.2.Exceeds limit)

end Format

namespace Toml

open Document

theorem format_readsBack : format.ReadsBack := by
  intro sections s hs h
  obtain ⟨cs, hcs, rfl⟩ := Option.map_eq_some_iff.mp h
  have hdistinct : Distinct sections := ⟨hs.names, fun _ _ hm => (hs.isSection _ hm).1⟩
  have hread : read (String.ofList cs).toList = some (.table sections) := by
    rw [String.toList_ofList]
    exact read_write hdistinct hcs
  exact hread

theorem isSome_writeName {name : String} (h : IsPlainName name) : (writeName name).isSome := by
  obtain ⟨hne, hall⟩ := h
  have hbare : name.toList.all isBareKeyChar = true := by
    rw [List.all_eq_true] at hall ⊢
    intro c hc
    have hc := hall c hc
    rw [isBareKeyChar]
    cases hn : c.isAlphanum <;> simp_all
  have hempty : ¬ name.isEmpty = true := by simpa using hne
  rw [writeName, if_pos ⟨hempty, hbare⟩]
  rfl

theorem isSome_writeValue {doc : Document} (h : doc.IsSetting) :
    (writeValue doc).isSome ↔ ¬ doc.Exceeds 9223372036854775807 := by
  cases doc with
  | int n =>
    have hn : 0 ≤ n := h
    rw [writeValue, maxInteger, exceeds_int]
    split <;> simp <;> omega
  | text s => exact iff_of_true rfl not_exceeds_text
  | null | bool | fractional | stamp | list | table => exact h.elim

theorem isSome_writeSection_iff {s : String × Document} (hname : IsPlainName s.1)
    (hs : s.2.IsSection) :
    (writeSection s).isSome ↔ ∀ field ∈ s.2.fields, ¬ field.2.Exceeds 9223372036854775807 := by
  obtain ⟨name, doc⟩ := s
  cases doc with
  | table fields =>
    rw [isSome_writeSection, isSome_writePairs, and_iff_right (isSome_writeName hname)]
    refine forall₂_congr fun field hm => ?_
    obtain ⟨hplain, hsetting⟩ := hs.2 field hm
    rw [and_iff_right (isSome_writeName hplain), isSome_writeValue hsetting]
  | null | bool | int | fractional | text | stamp | list => exact hs.elim

theorem format_writesUpTo : format.WritesUpTo 9223372036854775807 := by
  intro sections hs
  have hsome : (writeSections sections).isSome ↔
      ∀ s ∈ sections, ∀ field ∈ s.2.fields, ¬ field.2.Exceeds 9223372036854775807 := by
    rw [isSome_writeSections]
    exact forall₂_congr fun s hm => isSome_writeSection_iff (hs.plain s hm) (hs.isSection s hm)
  rw [format, Option.map_eq_none_iff, write, ← Option.not_isSome_iff_eq_none, hsome]
  simp only [not_forall, exists_prop, not_not]

end Toml

namespace HostConfig

def wide (c : HostConfig) : List UInt64 :=
  [c.session.handshakeTimeout, c.session.requestTimeout, c.session.writeTimeout,
    c.session.readPoll, c.session.maxRead, c.session.partialTimeout, c.session.eventCapacity,
    c.framing.maxBody]

def sections (c : HostConfig) : List (String × Document) :=
  [("logging", c.logging.toDocument), ("device", c.device.toDocument),
    ("session", c.session.toDocument), ("framing", c.framing.toDocument)]

theorem isSection_logging (l : LoggingConfig) : l.toDocument.IsSection := by
  simp +decide [Document.IsSection, LoggingConfig.toDocument, Document.IsSetting]

theorem isSection_device (d : DeviceConfig) : d.toDocument.IsSection := by
  obtain ⟨selector, serial, path, endpoints⟩ := d
  cases serial <;> cases path <;>
    simp +decide [Document.IsSection, DeviceConfig.toDocument, Document.IsSetting, Document.present,
      Endpoints.toFields, InTransfer.toDocument]

theorem isSection_session (s : SessionConfig) : s.toDocument.IsSection := by
  simp +decide [Document.IsSection, SessionConfig.toDocument, Document.IsSetting]

theorem isSection_framing (f : FramingConfig) : f.toDocument.IsSection := by
  simp +decide [Document.IsSection, FramingConfig.toDocument, Document.IsSetting,
    ChecksumAlgorithm.toDocument, LengthWidth.toDocument]

theorem sectioned (c : HostConfig) : Document.Sectioned c.sections where
  names := by simp [sections]
  plain := by simp +decide [sections]
  isSection := by
    simp only [sections, List.forall_mem_cons]
    exact ⟨isSection_logging _, isSection_device _, isSection_session _, isSection_framing _,
      List.forall_mem_nil _⟩

theorem not_lt_byte (n : UInt8) : ¬ 9223372036854775807 < n.toNat := by
  have hn := n.toNat_lt
  omega

theorem not_lt_word (n : UInt32) : ¬ 9223372036854775807 < n.toNat := by
  have hn := n.toNat_lt
  omega

theorem exceeds_logging (l : LoggingConfig) :
    ¬ ∃ field ∈ l.toDocument.fields, field.2.Exceeds 9223372036854775807 := by
  simp [LoggingConfig.toDocument]

theorem exceeds_device (d : DeviceConfig) :
    ¬ ∃ field ∈ d.toDocument.fields, field.2.Exceeds 9223372036854775807 := by
  obtain ⟨selector, serial, path, endpoints⟩ := d
  cases serial <;> cases path <;>
    simp [DeviceConfig.toDocument, Document.present, Endpoints.toFields, InTransfer.toDocument,
      not_lt_byte]

theorem exceeds_session (s : SessionConfig) :
    (∃ field ∈ s.toDocument.fields, field.2.Exceeds 9223372036854775807) ↔
      ∃ n ∈ [s.handshakeTimeout, s.requestTimeout, s.writeTimeout, s.readPoll, s.maxRead,
        s.partialTimeout, s.eventCapacity], 9223372036854775807 < n.toNat := by
  simp [SessionConfig.toDocument, not_lt_word]

theorem exceeds_framing (f : FramingConfig) :
    (∃ field ∈ f.toDocument.fields, field.2.Exceeds 9223372036854775807) ↔
      9223372036854775807 < f.maxBody.toNat := by
  have hwidth : ¬ 9223372036854775807 < f.lengthWidth.bytes := by
    cases f.lengthWidth <;> decide
  simp [FramingConfig.toDocument, ChecksumAlgorithm.toDocument, LengthWidth.toDocument, hwidth]

theorem exceeds_sections (c : HostConfig) :
    (∃ s ∈ c.sections, ∃ field ∈ s.2.fields, field.2.Exceeds 9223372036854775807) ↔
      ∃ n ∈ c.wide, 9223372036854775807 < n.toNat := by
  simp only [sections, List.exists_mem_cons_iff, exceeds_logging, exceeds_device, exceeds_session,
    exceeds_framing, wide]
  simp [or_assoc]

variable {F : Format}

theorem toContent_eq_none_iff (hwrite : F.WritesUpTo 9223372036854775807) (c : HostConfig) :
    c.toContent F = none ↔ ∃ n ∈ c.wide, 9223372036854775807 < n.toNat := by
  rw [toContent, Option.map_eq_none_iff]
  exact (hwrite c.sections c.sectioned).trans c.exceeds_sections

theorem ofContent_toContent (hread : F.ReadsBack) {c : HostConfig} {content : Bytes}
    (h : c.toContent F = some content) : ofContent content F = c.validate.map fun _ => c := by
  obtain ⟨s, hs, rfl⟩ := Option.map_eq_some_iff.mp h
  have hread' : F.read s = some c.toDocument := hread c.sections s c.sectioned hs
  simp only [ofContent, fromUTF8?_toUTF8, hread', Option.bind_some, ofDocument_toDocument]

theorem save_unwritable {c : HostConfig} (h : c.toContent F = none) (t : FileTree) (path : String) :
    save c t path F = (.error .unwritable, t) := by
  rw [save, h]

theorem save_written {c : HostConfig} {content : Bytes} (hcontent : c.toContent F = some content)
    {t : FileTree} {path : String} (h : (Path.ofString path).any t.isWritable) :
    ∃ t', save c t path F = (.ok (), t') ∧ load t' (some path) F = ofContent content F := by
  obtain ⟨p, hpath, hwritable⟩ := (Option.any_eq_true _ _).mp h
  obtain ⟨t', hwrite, hread⟩ := FileTree.read_writeDeep hwritable content
  refine ⟨t', ?_, ?_⟩
  · simp [save, hcontent, hpath, hwrite]
  · simp [load, bind, Except.bind, hpath, hread]

/-- Configurations in any format that reads back what it writes, and that writes all but integers
beyond 63 bits. Saving fails on settings beyond, and then before anything is made. What is saved is
loaded again, and only then judged. -/
theorem load_save (hread : F.ReadsBack) (hwrite : F.WritesUpTo 9223372036854775807)
    (c : HostConfig) (t : FileTree) (path : String) (h : (Path.ofString path).any t.isWritable) :
    ((save c t path F).1 = .error .unwritable ↔ ∃ n ∈ c.wide, 9223372036854775807 < n.toNat) ∧
    ((save c t path F).1 = .error .unwritable → (save c t path F).2 = t) ∧
    ((∀ n ∈ c.wide, n.toNat ≤ 9223372036854775807) → ∃ t', save c t path F = (.ok (), t') ∧
      load t' (some path) F = c.validate.map fun _ => c) := by
  have hnone := toContent_eq_none_iff hwrite c
  cases hcontent : c.toContent F with
  | none =>
    obtain ⟨n, hn, hlt⟩ := hnone.mp hcontent
    rw [save_unwritable hcontent]
    refine ⟨iff_of_true rfl ⟨n, hn, hlt⟩, fun _ => rfl, fun hfit => ?_⟩
    exact absurd (hfit n hn) (Nat.not_le.mpr hlt)
  | some content =>
    rw [hcontent] at hnone
    obtain ⟨t', hsave, hload⟩ := save_written hcontent h
    rw [ofContent_toContent hread hcontent] at hload
    rw [hsave]
    exact ⟨iff_of_false nofun fun hwide => Option.some_ne_none _ (hnone.mpr hwide), nofun,
      fun _ => ⟨t', rfl, hload⟩⟩

/-- A serial number that only escapes can write. -/
def intricate : HostConfig := { device := { serial := some "\x22G2\x22 \\ '\n\x00" } }

def oversized : HostConfig := { session := { maxRead := 0x8000000000000000 } }

theorem load_save_intricate :
    Toml.format.ReadsBack ∧ Toml.format.WritesUpTo 9223372036854775807 ∧
    (Path.ofString defaultPath).any FileTree.machine.isWritable ∧
    (∃ t, save intricate FileTree.machine defaultPath = (.ok (), t) ∧
      load t (some defaultPath) = .ok intricate) ∧
    save oversized FileTree.machine defaultPath = (.error .unwritable, FileTree.machine) := by
  have hfits : ∀ n ∈ intricate.wide, n.toNat ≤ 9223372036854775807 := by
    simp [wide, intricate]
  have hexceeds : 9223372036854775807 < oversized.session.maxRead.toNat := by decide
  have hfails := load_save Toml.format_readsBack Toml.format_writesUpTo oversized FileTree.machine
    defaultPath rfl
  have herror := hfails.1.mpr ⟨_, by simp [wide], hexceeds⟩
  have hloads := load_save Toml.format_readsBack Toml.format_writesUpTo intricate FileTree.machine
    defaultPath rfl
  exact ⟨Toml.format_readsBack, Toml.format_writesUpTo, rfl, hloads.2.2 hfits,
    Prod.ext herror (hfails.2.1 herror)⟩

end HostConfig
end FrameLink
