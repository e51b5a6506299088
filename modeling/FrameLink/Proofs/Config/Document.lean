import FrameLink.Config.Document

namespace FrameLink

namespace Document

variable {d : Dialect}

theorem nat_int {limit n : Nat} (h : n ≤ limit) : nat limit d (int n) = some n := by
  rw [nat, if_pos ⟨Int.natCast_nonneg n, Int.ofNat_le.mpr h⟩, Int.toNat_natCast]

@[simp] theorem uint8_int (n : UInt8) : uint8 d (int n.toNat) = some n := by
  rw [uint8, nat_int (Nat.le_of_lt_succ n.toNat_lt), Option.map_some, UInt8.ofNat_toNat]

@[simp] theorem uint32_int (n : UInt32) : uint32 d (int n.toNat) = some n := by
  rw [uint32, nat_int (Nat.le_of_lt_succ n.toNat_lt), Option.map_some, UInt32.ofNat_toNat]

@[simp] theorem uint64_int (n : UInt64) : uint64 d (int n.toNat) = some n := by
  rw [uint64, nat_int (Nat.le_of_lt_succ n.toNat_lt), Option.map_some, UInt64.ofNat_toNat]

@[simp] theorem string_text (s : String) : string d (text s) = some s := rfl

@[simp] theorem optional_text (s : String) : optional string d (text s) = some (some s) := rfl

@[simp] theorem record_table (names : List String) (fields : List (String × Document)) :
    record names d (table fields) = some fields := by
  cases d <;> rfl

variable {α : Type} {read : Reader α} {absent : α} {name : String} {doc : Document}
  {fields : List (String × Document)}

@[simp] theorem defaulted_cons (other : String) :
    defaulted d ((other, doc) :: fields) name read absent =
      if name = other then read d doc else defaulted d fields name read absent := by
  by_cases h : name = other
  · simp [defaulted, field, h]
  · rw [defaulted, field, List.lookup_cons, beq_false_of_ne h, if_neg h]
    rfl

@[simp] theorem defaulted_nil : defaulted d [] name read absent = some absent := rfl

end Document

open Document

variable {d : Dialect}

@[simp] theorem InTransfer.ofDocument_toDocument (t : InTransfer) :
    ofDocument d t.toDocument = some t := by
  cases t <;> rfl

@[simp] theorem ChecksumAlgorithm.ofDocument_toDocument (a : ChecksumAlgorithm) :
    ofDocument d a.toDocument = some a := by
  cases a <;> rfl

@[simp] theorem LengthWidth.ofDocument_toDocument (w : LengthWidth) :
    ofDocument d w.toDocument = some w := by
  cases w <;> rfl

@[simp] theorem LoggingConfig.ofDocument_toDocument (c : LoggingConfig) :
    ofDocument d c.toDocument = some c := by
  simp [ofDocument, toDocument]

@[simp] theorem SessionConfig.ofDocument_toDocument (c : SessionConfig) :
    ofDocument d c.toDocument = some c := by
  simp [ofDocument, toDocument]

@[simp] theorem FramingConfig.ofDocument_toDocument (c : FramingConfig) :
    ofDocument d c.toDocument = some c := by
  simp [ofDocument, toDocument]

/-- An optional setting that is left out is read as one without a value. -/
@[simp] theorem DeviceConfig.ofDocument_toDocument (c : DeviceConfig) :
    ofDocument d c.toDocument = some c := by
  obtain ⟨selector, serial, path, endpoints⟩ := c
  cases serial <;> cases path <;>
    simp [ofDocument, toDocument, present, Endpoints.toFields]

theorem HostConfig.ofDocument_toDocument (c : HostConfig) :
    ofDocument d c.toDocument = some c := by
  simp [ofDocument, toDocument]

end FrameLink
