import PerfStates.Proofs.Table.Strict
import PerfStates.Proofs.Table.Walk

namespace PerfStates.Table

theorem Header.record_end_le (header : Header) {position : Nat}
    (counted : position < header.recordCount.toNat) :
    position * header.stride + header.stride ≤ header.readLength := by
  have within : (position + 1) * header.stride ≤ header.recordsLength :=
    Nat.mul_le_mul_right header.stride counted
  rw [Nat.succ_mul] at within
  exact Nat.le_trans within (Nat.le_add_right _ _)

theorem Header.Valid.clock_end_le {header : Header} (valid : header.Valid) {position clock : Nat}
    (counted : position < header.recordCount.toNat) (inside : clock < header.clockCount.toNat) :
    position * header.stride + (header.baseSize.toNat + clock * header.clockSize.toNat) +
      clockSpan ≤ header.readLength := by
  have within : (position + 1) * header.stride ≤ header.recordsLength :=
    Nat.mul_le_mul_right header.stride counted
  have entries : (clock + 1) * header.clockSize.toNat ≤
      header.clockCount.toNat * header.clockSize.toNat :=
    Nat.mul_le_mul_right _ inside
  have some : header.clockCount ≠ 0 := by
    intro none
    rw [none] at inside
    exact absurd inside (Nat.not_lt_zero clock)
  have overrun : header.overrun = clockSpan - header.clockSize.toNat := if_neg some
  have stride : header.stride =
      header.baseSize.toNat + header.clockCount.toNat * header.clockSize.toNat := rfl
  have total : header.readLength = header.recordsLength + header.overrun := rfl
  have span : clockSpan = 8 := rfl
  rw [Nat.succ_mul] at within entries
  rcases valid.clockSize_toNat with six | eight <;> omega

/-- Every record of a table whose area is complete is read without padding. -/
theorem entriesFrom?_eq_some {header : Header} (valid : header.Valid) {area : List UInt8}
    (complete : header.readLength ≤ area.length) (position count : Nat)
    (counted : position + count ≤ header.recordCount.toNat) :
    entriesFrom? header area position count =
      some ((List.range' position count).map fun position =>
        (position, Record.read header (area.drop (position * header.stride)))) := by
  induction count generalizing position with
  | zero => rfl
  | succ count ih =>
    have here : position < header.recordCount.toNat := by omega
    have ends := header.record_end_le here
    have there : past? (position * header.stride) area =
        some (area.drop (position * header.stride)) := if_pos (by omega)
    have record : Record.read? header (area.drop (position * header.stride)) =
        some (Record.read header (area.drop (position * header.stride))) := by
      apply Record.read?_eq_some valid
      · rw [List.length_drop]
        omega
      · intro clock inside
        have span := valid.clock_end_le here inside
        rw [List.length_drop]
        omega
    simp only [entriesFrom?, there, record, ih (position + 1) (by omega), Option.bind_eq_bind,
      Option.bind_some, Option.pure_def, List.range'_succ, List.map_cons]

namespace ClockEntry

theorem nominal_toNat (entry : ClockEntry) : entry.nominal.toNat = entry.param0.toNat % 0x4000 := by
  rw [nominal, UInt32.toNat_and]
  exact Nat.and_two_pow_sub_one_eq_mod _ 14

theorem lowest_toNat (entry : ClockEntry) : entry.lowest.toNat = entry.param1.toNat % 0x4000 := by
  have field : (entry.param1 &&& 0x3fff).toNat = entry.param1.toNat % 0x4000 := by
    rw [UInt32.toNat_and]
    exact Nat.and_two_pow_sub_one_eq_mod _ 14
  rw [lowest, UInt32.toNat_toUInt16, field]
  omega

theorem highest_toNat (entry : ClockEntry) :
    entry.highest.toNat = entry.param1.toNat / 0x4000 % 0x4000 := by
  have field : ((entry.param1 &&& 0xfffc000) >>> 14).toNat =
      entry.param1.toNat / 0x4000 % 0x4000 := by
    rw [UInt32.toNat_shiftRight, UInt32.toNat_and]
    change (entry.param1.toNat &&& 0xfffc000) >>> 14 = _
    rw [Nat.shiftRight_and_distrib, Nat.shiftRight_eq_div_pow]
    exact Nat.and_two_pow_sub_one_eq_mod _ 14
  rw [highest, UInt32.toNat_toUInt16, field]
  omega

end ClockEntry

section Accepted

variable {bytes : List UInt8} {table : Table}

/-- A byte of the area lies as far behind the header. -/
theorem getElem?_area (accepted : parse bytes = .ok table) {place : Nat}
    (inside : place < table.header.readLength) :
    table.area[place]? = bytes[headerLength + place]? := by
  obtain ⟨_, _, _, area⟩ := (parse_eq_ok_iff bytes table).mp accepted
  rw [area, List.getElem?_take_of_lt inside, List.getElem?_drop]

theorem wordAt?_area (accepted : parse bytes = .ok table) {place : Nat}
    (inside : place + 4 ≤ table.header.readLength) :
    wordAt? table.area place = wordAt? bytes (headerLength + place) := by
  have byte (offset : Nat) (below : offset < 4) :
      table.area[place + offset]? = bytes[headerLength + (place + offset)]? :=
    getElem?_area accepted (by omega)
  have first := byte 0 (by decide)
  rw [Nat.add_zero] at first
  simp only [wordAt?, first, byte 1, byte 2, byte 3, Nat.reduceLT, Nat.add_assoc]

/-- A record of the table is the one at its own place in the area. -/
theorem record_at (accepted : parse bytes = .ok table) {position : Nat} {record : Record}
    (present : table.records[position]? = some record) :
    position < table.header.recordCount.toNat ∧
      record = Record.read table.header (table.area.drop (position * table.header.stride)) := by
  rw [records, Record.getElem?_readMany (recordsLength_le_area accepted)] at present
  split at present
  · rename_i counted
    exact ⟨counted, (Option.some.inj present).symm⟩
  · cases present

theorem clock_at {position clock : Nat} {entry : ClockEntry}
    (found : (Record.read table.header
      (table.area.drop (position * table.header.stride))).clocks[clock]? = some entry) :
    clock < table.header.clockCount.toNat ∧
      entry = ClockEntry.read (table.area.drop (position * table.header.stride +
        (table.header.baseSize.toNat + clock * table.header.clockSize.toNat))) := by
  rw [Record.read, ClockEntry.getElem?_readMany] at found
  split at found
  · rename_i inside
    rw [List.drop_drop, List.drop_drop] at found
    exact ⟨inside, (Option.some.inj found).symm⟩
  · cases found

theorem entries?_eq_some (accepted : parse bytes = .ok table) :
    table.entries? = some (table.records.mapIdx fun position record => (position, record)) := by
  obtain ⟨_, valid, _, _⟩ := (parse_eq_ok_iff bytes table).mp accepted
  rw [entries?, entriesFrom?_eq_some valid (readLength_le_area accepted) 0 _ (by omega)]
  congr 1
  apply List.ext_getElem?
  intro position
  rw [List.getElem?_map, List.getElem?_mapIdx, records,
    Record.getElem?_readMany (recordsLength_le_area accepted)]
  by_cases counted : position < table.header.recordCount.toNat
  · rw [List.getElem?_range' counted]
    simp [counted]
  · rw [List.getElem?_eq_none (by simpa using Nat.le_of_not_lt counted)]
    simp [counted]

theorem base_at (accepted : parse bytes = .ok table) {position : Nat} {record : Record}
    (present : table.records[position]? = some record) :
    let start := headerLength + position * table.header.stride
    bytes[start]? = some record.level ∧ bytes[start + 1]? = some record.flags ∧
      (if 2 < table.header.baseSize.toNat then bytes[start + 2]? = some record.lowPower
        else record.lowPower = 0) := by
  intro start
  obtain ⟨_, valid, _, _⟩ := (parse_eq_ok_iff bytes table).mp accepted
  obtain ⟨counted, rfl⟩ := record_at accepted present
  have base := valid.two_le_baseSize
  have ends := table.header.record_end_le counted
  have stride : table.header.stride = table.header.baseSize.toNat +
      table.header.clockCount.toNat * table.header.clockSize.toNat := rfl
  have complete := readLength_le_area accepted
  have byte (offset : Nat) (below : offset < table.header.baseSize.toNat) :
      bytes[start + offset]? =
        some ((table.area.drop (position * table.header.stride))[offset]?.getD 0) := by
    rw [Nat.add_assoc, ← getElem?_area accepted (by omega), List.getElem?_drop,
      List.getElem?_eq_getElem (by omega), Option.getD_some]
  refine ⟨byte 0 (by omega), byte 1 (by omega), ?_⟩
  split
  · rename_i large
    have present : 2 < table.header.baseSize := UInt8.lt_iff_toNat_lt.mpr (by simpa using large)
    rw [byte 2 large, Record.read, if_pos present]
  · rename_i small
    have absent : ¬ 2 < table.header.baseSize := by
      intro large
      exact small (by simpa using UInt8.lt_iff_toNat_lt.mp large)
    exact if_neg absent

/-- The words of a clock entry are read from the bytes at its place, all of them there. -/
theorem words_at (accepted : parse bytes = .ok table) {position clock : Nat} {record : Record}
    (present : table.records[position]? = some record) {entry : ClockEntry}
    (found : record.clocks[clock]? = some entry) :
    let place := headerLength + (position * table.header.stride +
      (table.header.baseSize.toNat + clock * table.header.clockSize.toNat))
    place + clockSpan ≤ bytes.length ∧ wordAt? bytes place = some entry.param0.toNat ∧
      wordAt? bytes (place + 4) = some entry.param1.toNat := by
  intro place
  obtain ⟨_, valid, enough, _⟩ := (parse_eq_ok_iff bytes table).mp accepted
  obtain ⟨counted, rfl⟩ := record_at accepted present
  obtain ⟨inside, rfl⟩ := clock_at found
  have ends := valid.clock_end_le counted inside
  have complete := readLength_le_area accepted
  have span : clockSpan = 8 := rfl
  refine ⟨by omega, ?_, ?_⟩
  · rw [← wordAt?_area accepted (by omega), wordAt?_eq_some (by omega)]
    rfl
  · rw [Nat.add_assoc, ← wordAt?_area accepted (by omega), wordAt?_eq_some (by omega),
      ClockEntry.read, List.drop_drop]

/-- The records of an accepted table and the bytes they are read from. There are as many records
as the header says, in order; each field of record `position` lies a fixed number of bytes behind
the header, the words of its clock entries are little-endian and wholly inside the bytes, and the
frequencies are their fields of fourteen bits. Reading never goes past the end, so a reader that
gives up on a missing byte finds the same. -/
theorem records_layout (accepted : parse bytes = .ok table) :
    let header := table.header
    let base := header.baseSize.toNat
    let size := header.clockSize.toNat
    let stride := base + header.clockCount.toNat * size
    bytes.take 10 = header.bytes ∧
    table.entries? = some (table.records.mapIdx fun position record => (position, record)) ∧
    table.records.length = header.recordCount.toNat ∧
    ∀ position record, table.records[position]? = some record →
      let start := 10 + position * stride
      bytes[start]? = some record.level ∧ bytes[start + 1]? = some record.flags ∧
      (if 2 < base then bytes[start + 2]? = some record.lowPower else record.lowPower = 0) ∧
      record.clocks.length = header.clockCount.toNat ∧
      ∀ clock entry, record.clocks[clock]? = some entry →
        let place := start + base + clock * size
        place + 8 ≤ bytes.length ∧ wordAt? bytes place = some entry.param0.toNat ∧
        wordAt? bytes (place + 4) = some entry.param1.toNat ∧
        entry.nominal.toNat = entry.param0.toNat % 0x4000 ∧
        entry.lowest.toNat = entry.param1.toNat % 0x4000 ∧
        entry.highest.toNat = entry.param1.toNat / 0x4000 % 0x4000 := by
  intro header base size stride
  obtain ⟨first, -⟩ := (parse_eq_ok_iff bytes table).mp accepted
  refine ⟨first, entries?_eq_some accepted, length_records accepted, ?_⟩
  intro position record present start
  obtain ⟨level, flags, lowPower⟩ := base_at accepted present
  refine ⟨level, flags, lowPower, length_clocks (List.mem_of_getElem? present), ?_⟩
  intro clock entry found place
  obtain ⟨inside, param0, param1⟩ := words_at accepted present found
  have same : headerLength + (position * table.header.stride +
      (table.header.baseSize.toNat + clock * table.header.clockSize.toNat)) = place := by
    rw [← Nat.add_assoc, ← Nat.add_assoc]
    rfl
  rw [same] at inside param0 param1
  exact ⟨inside, param0, param1, entry.nominal_toNat, entry.lowest_toNat, entry.highest_toNat⟩

/-- Two records of two six-byte clock entries: the last word reaches two bytes past the records. -/
theorem records_layout_of_short_clocks :
    let bytes : List UInt8 := [0x50, 10, 3, 2, 6, 2, 0, 0, 0, 0] ++
      [15, 1, 9, 0x20, 0x03, 0, 0, 0xc8, 0x00, 0x95, 0x01, 0x40, 0x00, 0x64, 0x80] ++
      [12, 0, 7, 0x2c, 0x01, 0, 0, 0x96, 0x00, 0x65, 0x00, 0, 0, 0x32, 0x80] ++ [0xff, 0x0f, 0xaa]
    let record : Record := ⟨12, 0, 7, [⟨300, 0x650096⟩, ⟨0x65, 0x0fff8032⟩]⟩
    ∃ table, parse bytes = .ok table ∧ table.records[1]? = some record ∧
      bytes[25]? = some record.level ∧ bytes[27]? = some record.lowPower ∧
      wordAt? bytes 34 = some 0x65 ∧ wordAt? bytes 38 = some 0x0fff8032 ∧
      (ClockEntry.highest ⟨0x65, 0x0fff8032⟩).toNat = 0x0fff8032 / 0x4000 % 0x4000 := by
  intro bytes record
  let table : Table := ⟨⟨0x50, 10, 3, 2, 6, 2, 0, 0, 0, 0⟩, (bytes.drop 10).take 32⟩
  have accepted : parse bytes = .ok table := rfl
  have present : table.records[1]? = some record := by decide +kernel
  have last : record.clocks[1]? = some ⟨0x65, 0x0fff8032⟩ := rfl
  obtain ⟨_, _, _, fields⟩ := records_layout accepted
  obtain ⟨level, _, lowPower, _, clocks⟩ := fields 1 record present
  obtain ⟨_, param0, param1, _, _, highest⟩ := clocks 1 ⟨0x65, 0x0fff8032⟩ last
  exact ⟨table, accepted, present, level, lowPower, param0, param1, highest⟩

end Accepted

end PerfStates.Table
