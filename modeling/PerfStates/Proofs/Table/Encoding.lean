import Mathlib.Data.List.Chain
import PerfStates.Proofs.Table.Accepted
import PerfStates.Proofs.Table.Walk

/-! Writing a table. A clock entry is written over its declared size only, so a short one
spills the rest of its words over the bytes behind it; where those say the same, reading
the table gives back what was written. -/

namespace PerfStates.Table

/-- The lower sixteen bits of a word. -/
def lowerHalf (value : UInt32) : Nat := value.toNat % 0x10000

/-- The upper sixteen bits of a word. -/
def upperHalf (value : UInt32) : Nat := value.toNat / 0x10000

/-- Sixteen bits as two bytes, the lower one first. -/
def halfBytes (half : Nat) : List UInt8 := [UInt8.ofNat half, UInt8.ofNat (half / 0x100)]

/-- A word as four bytes, the lowest first. -/
def wordBytes (value : UInt32) : List UInt8 :=
  halfBytes (lowerHalf value) ++ halfBytes (upperHalf value)

theorem word_wordBytes (value : UInt32) (rest : List UInt8) :
    word (wordBytes value ++ rest) = value := by
  have small := value.toNat_lt
  rw [← UInt32.toNat_inj, word]
  simp only [wordBytes, halfBytes, lowerHalf, upperHalf, List.cons_append, List.nil_append,
    List.getElem?_cons_zero, List.getElem?_cons_succ, Option.getD_some, UInt8.toNat_ofNat',
    UInt32.toNat_ofNat']
  omega

namespace ClockEntry

/-- The eight bytes of an entry's words. -/
def span (entry : ClockEntry) : List UInt8 := wordBytes entry.param0 ++ wordBytes entry.param1

/-- What is written of an entry of the given size. -/
def bytes (size : Nat) (entry : ClockEntry) : List UInt8 := entry.span.take size

/-- What an entry of the given size is read over but not written to. -/
def spill (size : Nat) (entry : ClockEntry) : List UInt8 := entry.span.drop size

theorem length_span (entry : ClockEntry) : entry.span.length = clockSpan := rfl

theorem length_bytes {size : Nat} (short : size ≤ clockSpan) (entry : ClockEntry) :
    (entry.bytes size).length = size := by
  rw [bytes, List.length_take, length_span, Nat.min_eq_left short]

theorem length_spill (size : Nat) (entry : ClockEntry) :
    (entry.spill size).length = clockSpan - size := by
  rw [spill, List.length_drop, length_span]

theorem length_flatMap_bytes {size : Nat} (short : size ≤ clockSpan) (clocks : List ClockEntry) :
    (clocks.flatMap (bytes size)).length = clocks.length * size := by
  induction clocks with
  | nil => simp
  | cons entry rest ih =>
    rw [List.flatMap_cons, List.length_append, length_bytes short, ih, List.length_cons,
      Nat.succ_mul, Nat.add_comm]

/-- An entry is read as it was written if its spill is what lies behind it. -/
theorem read_bytes {size : Nat} {entry : ClockEntry} {behind : List UInt8}
    (spilled : entry.spill size <+: behind) : read (entry.bytes size ++ behind) = entry := by
  obtain ⟨rest, rfl⟩ := spilled
  have whole : entry.bytes size ++ (entry.spill size ++ rest) =
      wordBytes entry.param0 ++ (wordBytes entry.param1 ++ rest) := by
    rw [← List.append_assoc, bytes, spill, List.take_append_drop, span, List.append_assoc]
  rw [whole, read, word_wordBytes]
  have second : (wordBytes entry.param0 ++ (wordBytes entry.param1 ++ rest)).drop 4 =
      wordBytes entry.param1 ++ rest := rfl
  rw [second, word_wordBytes]

theorem readMany_bytes {size : Nat} (short : size ≤ clockSpan) {clocks : List ClockEntry}
    (chained : clocks.IsChain fun entry next => entry.spill size <+: next.bytes size)
    {behind : List UInt8} (spilled : ∀ last ∈ clocks.getLast?, last.spill size <+: behind) :
    readMany size clocks.length (clocks.flatMap (bytes size) ++ behind) = clocks := by
  induction clocks with
  | nil => rfl
  | cons entry rest ih =>
    have overlap : entry.spill size <+: rest.flatMap (bytes size) ++ behind := by
      cases rest with
      | nil => exact spilled entry rfl
      | cons next rest =>
        rw [List.flatMap_cons, List.append_assoc]
        exact (List.isChain_cons_cons.mp chained).1.trans (List.prefix_append _ _)
    have others : readMany size rest.length (rest.flatMap (bytes size) ++ behind) = rest := by
      apply ih chained.tail
      intro last member
      cases rest with
      | nil => cases member
      | cons next rest => exact spilled last (by rwa [List.getLast?_cons_cons])
    rw [List.flatMap_cons, List.append_assoc, List.length_cons, readMany, read_bytes overlap,
      List.drop_left' (length_bytes short entry), others]

end ClockEntry

namespace Header

theorem Valid.baseSize {header : Header} (valid : header.Valid) :
    header.baseSize = 2 ∨ header.baseSize = 3 ∨ header.baseSize = 5 := by
  obtain ⟨sizes, known, member⟩ := valid.known
  unfold baseSizes? at known
  split_ifs at known <;> cases known <;> simp at member <;> tauto

theorem Valid.clockSize_le {header : Header} (valid : header.Valid) :
    header.clockSize.toNat ≤ clockSpan := by
  have span : clockSpan = 8 := rfl
  rcases valid.clockSize_toNat with six | eight <;> omega

end Header

namespace Record

/-- The base part of a record; what is not read of it is written as zero. -/
def baseBytes (header : Header) (record : Record) : List UInt8 :=
  [record.level, record.flags, record.lowPower, 0, 0].take header.baseSize.toNat

/-- What is written of a record. -/
def bytes (header : Header) (record : Record) : List UInt8 :=
  record.baseBytes header ++ record.clocks.flatMap (ClockEntry.bytes header.clockSize.toNat)

/-- What the last clock entry of a record is read over but not written to. -/
def spill (header : Header) (record : Record) : List UInt8 :=
  (record.clocks.getLast?.map (ClockEntry.spill header.clockSize.toNat)).getD []

/-- Records one after another, the last with its spill. -/
def areaBytes (header : Header) : List Record → List UInt8
  | [] => []
  | [record] => record.bytes header ++ record.spill header
  | record :: next :: rest => record.bytes header ++ areaBytes header (next :: rest)

variable {header : Header}

theorem length_baseBytes (valid : header.Valid) (record : Record) :
    (record.baseBytes header).length = header.baseSize.toNat := by
  rw [baseBytes, List.length_take]
  rcases valid.baseSize with two | three | five
  · rw [two]
    rfl
  · rw [three]
    rfl
  · rw [five]
    rfl

theorem length_bytes (valid : header.Valid) {record : Record}
    (counted : record.clocks.length = header.clockCount.toNat) :
    (record.bytes header).length = header.stride := by
  rw [bytes, List.length_append, length_baseBytes valid,
    ClockEntry.length_flatMap_bytes valid.clockSize_le, counted, Header.stride]

theorem length_spill {record : Record} (counted : record.clocks.length = header.clockCount.toNat) :
    (record.spill header).length = header.overrun := by
  rw [spill, Header.overrun]
  cases last : record.clocks.getLast? with
  | none =>
    have none : header.clockCount = 0 := by
      rw [List.getLast?_eq_none_iff.mp last] at counted
      exact UInt8.toNat_inj.mp counted.symm
    rw [if_pos none]
    rfl
  | some entry =>
    have some : header.clockCount ≠ 0 := by
      intro none
      rw [none] at counted
      rw [List.length_eq_zero_iff.mp counted] at last
      cases last
    rw [if_neg some, Option.map_some, Option.getD_some, ClockEntry.length_spill]

theorem length_areaBytes (valid : header.Valid) {records : List Record} (filled : records ≠ [])
    (counted : ∀ record ∈ records, record.clocks.length = header.clockCount.toNat) :
    (areaBytes header records).length = records.length * header.stride + header.overrun := by
  induction records with
  | nil => exact absurd rfl filled
  | cons record rest ih =>
    obtain ⟨here, counted⟩ := List.forall_mem_cons.mp counted
    have first := length_bytes valid here
    cases rest with
    | nil =>
      rw [areaBytes, List.length_append, first, length_spill here, List.length_singleton,
        Nat.one_mul]
    | cons next rest =>
      rw [areaBytes, List.length_append, first, ih (List.cons_ne_nil _ _) counted,
        List.length_cons (a := record), Nat.succ_mul]
      omega

/-- A record is read as it was written if its last clock entry spills over what lies behind it. -/
theorem read_bytes (valid : header.Valid) {record : Record}
    (counted : record.clocks.length = header.clockCount.toNat)
    (lowPower : header.baseSize = 2 → record.lowPower = 0)
    (chained : record.clocks.IsChain fun entry next =>
      entry.spill header.clockSize.toNat <+: next.bytes header.clockSize.toNat)
    {behind : List UInt8} (spilled : record.spill header <+: behind) :
    read header (record.bytes header ++ behind) = record := by
  have clocks : ClockEntry.readMany header.clockSize.toNat header.clockCount.toNat
      ((record.bytes header ++ behind).drop header.baseSize.toNat) = record.clocks := by
    rw [bytes, List.append_assoc, List.drop_left' (length_baseBytes valid record), ← counted]
    apply ClockEntry.readMany_bytes valid.clockSize_le chained
    intro last member
    rw [spill, member] at spilled
    exact spilled
  obtain ⟨level, flags, index, entries⟩ := record
  rw [read, clocks, bytes, baseBytes]
  rcases valid.baseSize with two | three | five
  · have zero : index = 0 := lowPower two
    rw [two, zero]
    rfl
  · rw [three]
    rfl
  · rw [five]
    rfl

/-- Records are read as they were written if the last clock entry of each spills over the next
record as that is. -/
theorem readMany_areaBytes (valid : header.Valid) {records : List Record}
    (counted : ∀ record ∈ records, record.clocks.length = header.clockCount.toNat)
    (lowPower : header.baseSize = 2 → ∀ record ∈ records, record.lowPower = 0)
    (within : ∀ record ∈ records, record.clocks.IsChain fun entry next =>
      entry.spill header.clockSize.toNat <+: next.bytes header.clockSize.toNat)
    (across : records.IsChain fun record next => record.spill header <+: next.bytes header) :
    readMany header records.length (areaBytes header records) = records := by
  induction records with
  | nil => rfl
  | cons record rest ih =>
    obtain ⟨here, counted⟩ := List.forall_mem_cons.mp counted
    obtain ⟨chained, within⟩ := List.forall_mem_cons.mp within
    have low (two : header.baseSize = 2) := List.forall_mem_cons.mp (lowPower two)
    have others := ih counted (fun two => (low two).2) within across.tail
    cases rest with
    | nil =>
      rw [areaBytes, List.length_singleton, readMany,
        read_bytes valid here (fun two => (low two).1) chained (List.prefix_refl _)]
      split <;> rfl
    | cons next rest =>
      have behind : next.bytes header <+: areaBytes header (next :: rest) := by
        cases rest with
        | nil => exact List.prefix_append _ _
        | cons _ _ => exact List.prefix_append _ _
      have overlap := (List.isChain_cons_cons.mp across).1.trans behind
      have stride := length_bytes valid here
      have there : header.stride ≤
          (record.bytes header ++ areaBytes header (next :: rest)).length := by
        rw [List.length_append, stride]
        exact Nat.le_add_right _ _
      rw [areaBytes, List.length_cons, readMany,
        read_bytes valid here (fun two => (low two).1) chained overlap, if_pos there,
        List.drop_left' stride, others]

end Record

/-- The bytes of a table: its header, its records, and what the last clock entry spills. -/
def encode (header : Header) (records : List Record) : List UInt8 :=
  header.bytes ++ Record.areaBytes header records

/-- A table is parsed as it was written if its records are read as they were. -/
theorem parse_encode {header : Header} (valid : header.Valid) {records : List Record}
    (listed : records.length = header.recordCount.toNat)
    (counted : ∀ record ∈ records, record.clocks.length = header.clockCount.toNat)
    (read : Record.readMany header records.length (Record.areaBytes header records) = records) :
    ∃ table, parse (encode header records) = .ok table ∧ table.header = header ∧
      table.records = records := by
  have filled : records ≠ [] := by
    rintro rfl
    exact valid.recordCount (UInt8.toNat_inj.mp listed.symm)
  have length : (Record.areaBytes header records).length = header.readLength := by
    rw [Record.length_areaBytes valid filled counted, listed]
    rfl
  have ten : header.bytes.length = headerLength := rfl
  refine ⟨⟨header, Record.areaBytes header records⟩, ?_, rfl, ?_⟩
  · refine (parse_eq_ok_iff _ _).mpr ⟨List.take_left' ten, valid, ?_, ?_⟩
    · rw [encode, List.length_append, length, ten]
    · rw [encode, List.drop_left' ten, List.take_of_length_le (Nat.le_of_eq length)]
  · rw [Table.records, ← listed, read]

/-- What records a table with the header can carry. A base part of two bytes has no room for a
low-power index. A clock entry of six bytes is read over the two behind it, so the upper half of
its second word is what stands there: the lower half of the next entry's first word, or level and
flags of the next record. Behind the last record anything may stand. -/
structure Header.Carries (header : Header) (records : List Record) : Prop where
  lowPower : header.baseSize = 2 → ∀ record ∈ records, record.lowPower = 0
  within : header.clockSize = 6 → ∀ record ∈ records,
    record.clocks.IsChain fun entry next => upperHalf entry.param1 = lowerHalf next.param0
  across : header.clockSize = 6 → records.IsChain fun record next =>
    ∀ last ∈ record.clocks.getLast?,
      upperHalf last.param1 = next.level.toNat + 0x100 * next.flags.toNat

theorem halfBytes_toNat (low high : UInt8) :
    halfBytes (low.toNat + 0x100 * high.toNat) = [low, high] := by
  have small := low.toNat_lt
  have lower : UInt8.ofNat (low.toNat + 0x100 * high.toNat) = low := by
    rw [← UInt8.toNat_inj, UInt8.toNat_ofNat']
    omega
  have upper : UInt8.ofNat ((low.toNat + 0x100 * high.toNat) / 0x100) = high := by
    have rest : (low.toNat + 0x100 * high.toNat) / 0x100 = high.toNat := by omega
    rw [rest, UInt8.ofNat_toNat]
  rw [halfBytes, lower, upper]

namespace ClockEntry

theorem spill_eight (entry : ClockEntry) : entry.spill 8 = [] := rfl

theorem spill_six (entry : ClockEntry) : entry.spill 6 = halfBytes (upperHalf entry.param1) := rfl

theorem spill_six_prefix {entry next : ClockEntry}
    (same : upperHalf entry.param1 = lowerHalf next.param0) :
    entry.spill 6 <+: next.bytes 6 := by
  have front : next.bytes 6 = halfBytes (lowerHalf next.param0) ++
      (halfBytes (upperHalf next.param0) ++ halfBytes (lowerHalf next.param1)) := rfl
  rw [spill_six, same, front]
  exact List.prefix_append _ _

end ClockEntry

theorem Record.spill_eq_nil {header : Header} (eight : header.clockSize = 8) (record : Record) :
    record.spill header = [] := by
  rw [spill, eight]
  cases record.clocks.getLast? with
  | none => rfl
  | some entry => exact entry.spill_eight

theorem Record.front_prefix {header : Header} (valid : header.Valid) (record : Record) :
    [record.level, record.flags] <+: record.bytes header := by
  apply List.IsPrefix.trans _ (List.prefix_append _ _)
  rw [baseBytes]
  rcases valid.baseSize with two | three | five
  · rw [two]
    exact List.prefix_refl _
  · rw [three]
    exact List.prefix_append _ [record.lowPower]
  · rw [five]
    exact List.prefix_append _ [record.lowPower, 0, 0]

/-- Records that a table can carry are those of the table written for them. -/
theorem Header.Carries.parse_encode {header : Header} (valid : header.Valid)
    {records : List Record} (carries : header.Carries records)
    (listed : records.length = header.recordCount.toNat)
    (counted : ∀ record ∈ records, record.clocks.length = header.clockCount.toNat) :
    ∃ table, parse (encode header records) = .ok table ∧ table.header = header ∧
      table.records = records := by
  refine Table.parse_encode valid listed counted
    (Record.readMany_areaBytes valid counted carries.lowPower ?_ ?_)
  · intro record member
    rcases valid.clockSize with six | eight
    · apply (carries.within six record member).imp
      intro entry next same
      rw [six]
      exact ClockEntry.spill_six_prefix same
    · rw [eight]
      exact List.isChain_iff_getElem.mpr fun _ _ => List.nil_prefix
  · rcases valid.clockSize with six | eight
    · apply (carries.across six).imp
      intro record next front
      rw [Record.spill]
      cases last : record.clocks.getLast? with
      | none => exact List.nil_prefix
      | some entry =>
        rw [six, Option.map_some, Option.getD_some]
        have spilled : entry.spill 6 = [next.level, next.flags] := by
          rw [ClockEntry.spill_six, front entry last, halfBytes_toNat]
        exact spilled ▸ next.front_prefix valid
    · refine List.isChain_iff_getElem.mpr fun _ _ => ?_
      rw [Record.spill_eq_nil eight]
      exact List.nil_prefix

end PerfStates.Table
