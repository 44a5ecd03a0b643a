import Mathlib.Tactic.SplitIfs
import PerfStates.Table

namespace PerfStates.Table

namespace Header

/-- A header that passes every check. -/
structure Valid (header : Header) : Prop where
  known : ∃ sizes, baseSizes? header.version = some sizes ∧ header.baseSize ∈ sizes
  headerSize : header.headerSize = 10
  recordCount : header.recordCount ≠ 0
  clockSize : header.clockSize = 6 ∨ header.clockSize = 8
  clockCount : header.clockCount.toNat ≤ clockLimit

theorem validate_eq_ok_iff (header : Header) : header.validate = .ok () ↔ header.Valid := by
  unfold validate
  constructor
  · intro passed
    split at passed
    · cases passed
    · rename_i sizes known
      split_ifs at passed with headerSize recordCount baseSize clockSize clockCount
      refine ⟨⟨sizes, known, ?_⟩, ?_, recordCount, ?_, Nat.le_of_not_lt clockCount⟩
      · simpa using baseSize
      · simpa using headerSize
      · simpa using clockSize
  · rintro ⟨⟨sizes, known, baseSize⟩, headerSize, recordCount, clockSize, clockCount⟩
    have listed : header.clockSize ∈ [6, 8] := by simpa using clockSize
    simp [known, headerSize, recordCount, baseSize, listed, Nat.not_lt.mpr clockCount]

theorem Valid.two_le_baseSize {header : Header} (valid : header.Valid) :
    2 ≤ header.baseSize.toNat := by
  obtain ⟨sizes, known, member⟩ := valid.known
  have large : ∀ size ∈ sizes, 2 ≤ size.toNat := by
    unfold baseSizes? at known
    split_ifs at known <;> cases known <;> simp
  exact large _ member

theorem Valid.clockSize_toNat {header : Header} (valid : header.Valid) :
    header.clockSize.toNat = 6 ∨ header.clockSize.toNat = 8 := by
  rcases valid.clockSize with six | eight
  · left
    rw [six]
    rfl
  · right
    rw [eight]
    rfl

theorem read_eq_ok_iff (bytes : List UInt8) (header : Header) :
    read bytes = .ok header ↔ bytes.take headerLength = header.bytes := by
  unfold read
  split
  · constructor
    · intro same
      cases same
      rfl
    · intro same
      cases header
      simp_all [Header.bytes, headerLength]
  · rename_i short
    constructor
    · intro refused
      cases refused
    · intro same
      exfalso
      have whole : bytes = header.bytes ++ bytes.drop headerLength := by
        rw [← same, List.take_append_drop]
      exact short _ _ _ _ _ _ _ _ _ _ _ whole

end Header

/-- A text of bytes is accepted as a table exactly if its header passes its checks and the bytes
that the records are read over are all there; those are then the area of the table. -/
theorem parse_eq_ok_iff (bytes : List UInt8) (table : Table) :
    parse bytes = .ok table ↔
      bytes.take headerLength = table.header.bytes ∧ table.header.Valid ∧
      headerLength + table.header.readLength ≤ bytes.length ∧
      table.area = (bytes.drop headerLength).take table.header.readLength := by
  rw [← Header.read_eq_ok_iff, ← Header.validate_eq_ok_iff]
  cases found : Header.read bytes with
  | error cause =>
    constructor
    · intro accepted
      simp [parse, found, bind, Except.bind] at accepted
    · rintro ⟨same, -⟩
      cases same
  | ok header =>
    cases checked : header.validate with
    | error cause =>
      constructor
      · intro accepted
        simp [parse, found, checked, bind, Except.bind] at accepted
      · rintro ⟨same, valid, -⟩
        cases same
        cases checked.symm.trans valid
    | ok =>
      have size : header.headerSize.toNat = headerLength := by
        rw [((Header.validate_eq_ok_iff header).mp checked).headerSize]
        rfl
      simp only [parse, found, checked, bind, Except.bind, size]
      constructor
      · intro accepted
        split_ifs at accepted with short
        cases accepted
        exact ⟨rfl, checked, Nat.le_of_not_lt short, rfl⟩
      · rintro ⟨same, -, enough, area⟩
        cases same
        rw [if_neg (Nat.not_lt.mpr enough), ← area]
        rfl

end PerfStates.Table
