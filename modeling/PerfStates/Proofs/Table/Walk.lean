import PerfStates.Proofs.Table.Accepted

namespace PerfStates.Table

@[simp] theorem ClockEntry.length_readMany (size count : Nat) (bytes : List UInt8) :
    (ClockEntry.readMany size count bytes).length = count := by
  induction count generalizing bytes with
  | zero => rfl
  | succ count ih => rw [readMany, List.length_cons, ih]

@[simp] theorem Record.length_clocks_read (header : Header) (bytes : List UInt8) :
    (Record.read header bytes).clocks.length = header.clockCount.toNat :=
  ClockEntry.length_readMany _ _ _

theorem ClockEntry.getElem?_readMany (size count : Nat) (bytes : List UInt8) (clock : Nat) :
    (readMany size count bytes)[clock]? =
      if clock < count then some (read (bytes.drop (clock * size))) else none := by
  induction count generalizing bytes clock with
  | zero => rfl
  | succ count ih =>
    cases clock with
    | zero => simp [readMany]
    | succ clock =>
      have shift : size + clock * size = (clock + 1) * size := by
        rw [Nat.succ_mul, Nat.add_comm]
      simp [readMany, ih, shift]

/-- Where there are bytes for all the records, the walk does not end early. -/
theorem Record.readMany_succ {header : Header} {count : Nat} {bytes : List UInt8}
    (whole : (count + 1) * header.stride ≤ bytes.length) :
    readMany header (count + 1) bytes =
      read header bytes :: readMany header count (bytes.drop header.stride) := by
  have stride : header.stride ≤ bytes.length :=
    Nat.le_trans (Nat.le_mul_of_pos_left _ (Nat.succ_pos count)) whole
  rw [readMany, if_pos stride]

theorem Record.length_drop_stride {header : Header} {count : Nat} {bytes : List UInt8}
    (whole : (count + 1) * header.stride ≤ bytes.length) :
    count * header.stride ≤ (bytes.drop header.stride).length := by
  rw [Nat.succ_mul] at whole
  rw [List.length_drop]
  exact Nat.le_sub_of_add_le whole

theorem Record.length_readMany {header : Header} {count : Nat} {bytes : List UInt8}
    (whole : count * header.stride ≤ bytes.length) :
    (readMany header count bytes).length = count := by
  induction count generalizing bytes with
  | zero => rfl
  | succ count ih =>
    rw [readMany_succ whole, List.length_cons, ih (length_drop_stride whole)]

theorem Record.getElem?_readMany {header : Header} {count : Nat} {bytes : List UInt8}
    (whole : count * header.stride ≤ bytes.length) (position : Nat) :
    (readMany header count bytes)[position]? =
      if position < count then some (read header (bytes.drop (position * header.stride)))
      else none := by
  induction count generalizing bytes position with
  | zero => rfl
  | succ count ih =>
    rw [readMany_succ whole]
    cases position with
    | zero => simp
    | succ position =>
      have shift : header.stride + position * header.stride = (position + 1) * header.stride := by
        rw [Nat.succ_mul, Nat.add_comm]
      simp [ih (length_drop_stride whole), shift]

theorem Record.length_clocks_of_mem_readMany {header : Header} {count : Nat}
    {bytes : List UInt8} {record : Record} (member : record ∈ readMany header count bytes) :
    record.clocks.length = header.clockCount.toNat := by
  induction count generalizing bytes with
  | zero => cases member
  | succ count ih =>
    rcases List.mem_cons.mp member with first | later
    · subst record
      exact length_clocks_read header bytes
    · split at later
      · exact ih later
      · cases later

theorem length_clocks {table : Table} {record : Record} (member : record ∈ table.records) :
    record.clocks.length = table.header.clockCount.toNat :=
  Record.length_clocks_of_mem_readMany member

section Accepted

variable {bytes : List UInt8} {table : Table}

theorem readLength_le_area (accepted : parse bytes = .ok table) :
    table.header.readLength ≤ table.area.length := by
  obtain ⟨_, _, enough, area⟩ := (parse_eq_ok_iff bytes table).mp accepted
  rw [area, List.length_take, List.length_drop]
  omega

theorem recordsLength_le_area (accepted : parse bytes = .ok table) :
    table.header.recordCount.toNat * table.header.stride ≤ table.area.length :=
  Nat.le_trans (Nat.le_add_right _ _) (readLength_le_area accepted)

/-- The walk over an accepted table reaches every record that the header counts. -/
theorem length_records (accepted : parse bytes = .ok table) :
    table.records.length = table.header.recordCount.toNat :=
  Record.length_readMany (recordsLength_le_area accepted)

/-- A state has room for the limits of all clock entries of a record. -/
def Record.Fits (record : Record) : Prop := record.clocks.length ≤ clockLimit

/-- The header check on the number of clock entries keeps every record within the room. -/
theorem fits_of_parse (accepted : parse bytes = .ok table) :
    ∀ record ∈ table.records, record.Fits := by
  intro record member
  obtain ⟨_, valid, _⟩ := (parse_eq_ok_iff bytes table).mp accepted
  rw [Record.Fits, length_clocks member]
  exact valid.clockCount

end Accepted

end PerfStates.Table
