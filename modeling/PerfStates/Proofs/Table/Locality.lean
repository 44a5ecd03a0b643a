import PerfStates.Proofs.Table.Image

namespace PerfStates.Table

/-- The texts agree but for the bytes of record `tampered`. -/
def Header.AgreeOutside (header : Header) (tampered : Nat) (first second : List UInt8) : Prop :=
  ∀ place, place < headerLength + tampered * header.stride ∨
    headerLength + (tampered + 1) * header.stride ≤ place → first[place]? = second[place]?

/-- The records are the same but for the upper half of the last word of the last clock entry. -/
structure Record.SameBelow (record other : Record) : Prop where
  level : other.level = record.level
  flags : other.flags = record.flags
  lowPower : other.lowPower = record.lowPower
  clocks : ∃ front last changed, record.clocks = front ++ [last] ∧
    other.clocks = front ++ [changed] ∧ changed.param0 = last.param0 ∧
    lowerHalf changed.param1 = lowerHalf last.param1

theorem lowerHalf_of_wordAt? {bytes : List UInt8} {place : Nat} {value : UInt32}
    (found : wordAt? bytes place = some value.toNat) {low high : UInt8}
    (lower : bytes[place]? = some low) (upper : bytes[place + 1]? = some high) :
    lowerHalf value = low.toNat + 0x100 * high.toNat := by
  obtain ⟨first, second, _, _, here, next, _, _, total⟩ := wordAt?_eq_some_iff.mp found
  obtain rfl : low = first := Option.some.inj (lower.symm.trans here)
  obtain rfl : high = second := Option.some.inj (upper.symm.trans next)
  have one := low.toNat_lt
  have two := high.toNat_lt
  rw [lowerHalf]
  omega

theorem exists_concat {α : Type} {items : List α} {count : Nat}
    (length : items.length = count + 1) :
    ∃ front last, items = front ++ [last] ∧ front.length = count := by
  rcases List.eq_nil_or_concat items with rfl | ⟨front, last, rfl⟩
  · cases length
  · exact ⟨front, last, List.concat_eq_append, by simpa using length⟩

/-- Lists as long as each other that may differ in their last item only. -/
theorem exists_concat_concat {α : Type} {items others : List α} {count : Nat}
    (length : items.length = count + 1) (also : others.length = count + 1)
    (same : ∀ index < count, items[index]? = others[index]?) :
    ∃ front last changed, items = front ++ [last] ∧ others = front ++ [changed] ∧
      items[count]? = some last ∧ others[count]? = some changed := by
  obtain ⟨front, last, rfl, short⟩ := exists_concat length
  obtain ⟨front', changed, rfl, short'⟩ := exists_concat also
  have fronts : front = front' := by
    apply List.ext_getElem (short.trans short'.symm)
    intro index inside within
    have here := same index (by omega)
    rw [List.getElem?_append_left inside, List.getElem?_append_left within,
      List.getElem?_eq_getElem inside, List.getElem?_eq_getElem within] at here
    exact Option.some.inj here
  subst fronts
  exact ⟨front, last, changed, rfl, rfl, by simp [← short], by simp [← short]⟩

/-- With the same bits below, the highest frequency is decided by twelve bits of the upper half. -/
theorem ClockEntry.highest_eq {entry other : ClockEntry}
    (lower : lowerHalf other.param1 = lowerHalf entry.param1)
    (upper : upperHalf other.param1 % 0x1000 = upperHalf entry.param1 % 0x1000) :
    other.highest = entry.highest := by
  rw [lowerHalf, lowerHalf] at lower
  rw [upperHalf, upperHalf] at upper
  rw [← UInt16.toNat_inj, highest_toNat, highest_toNat]
  omega

theorem ClockEntry.lowest_eq {entry other : ClockEntry}
    (lower : lowerHalf other.param1 = lowerHalf entry.param1) : other.lowest = entry.lowest := by
  rw [lowerHalf, lowerHalf] at lower
  rw [← UInt16.toNat_inj, lowest_toNat, lowest_toNat]
  omega

namespace Header

variable {header : Header}

theorem clockPlace_le (position : Nat) {clock : Nat} (inside : clock < header.clockCount.toNat) :
    header.clockPlace position clock + header.clockSize.toNat ≤
      headerLength + (position + 1) * header.stride := by
  have entries : (clock + 1) * header.clockSize.toNat ≤
      header.clockCount.toNat * header.clockSize.toNat := Nat.mul_le_mul_right _ inside
  have stride : header.stride =
      header.baseSize.toNat + header.clockCount.toNat * header.clockSize.toNat := rfl
  rw [Nat.succ_mul] at entries
  rw [clockPlace, Nat.succ_mul]
  omega

theorem le_clockPlace (position clock : Nat) :
    headerLength + position * header.stride ≤ header.clockPlace position clock := by
  rw [clockPlace]
  omega

theorem AgreeOutside.base {tampered : Nat} {first second : List UInt8}
    (agree : header.AgreeOutside tampered first second) {position : Nat}
    (other : position ≠ tampered) {byte : Nat} (inside : byte < header.baseSize.toNat) :
    first[headerLength + (position * header.stride + byte)]? =
      second[headerLength + (position * header.stride + byte)]? := by
  apply agree
  have narrow : byte < header.stride := Nat.lt_of_lt_of_le inside (Nat.le_add_right _ _)
  rcases Nat.lt_or_gt_of_ne other with before | behind
  · have rows : (position + 1) * header.stride ≤ tampered * header.stride :=
      Nat.mul_le_mul_right _ before
    rw [Nat.succ_mul] at rows
    omega
  · have rows : (tampered + 1) * header.stride ≤ position * header.stride :=
      Nat.mul_le_mul_right _ behind
    omega

theorem AgreeOutside.entry {tampered : Nat} {first second : List UInt8}
    (agree : header.AgreeOutside tampered first second) {position clock : Nat}
    (apart : header.clockPlace position clock + clockSpan ≤ headerLength + tampered * header.stride ∨
      tampered < position) {byte : Nat} (spanned : byte < clockSpan) :
    first[header.clockPlace position clock + byte]? =
      second[header.clockPlace position clock + byte]? := by
  apply agree
  rcases apart with before | behind
  · omega
  · have rows : (tampered + 1) * header.stride ≤ position * header.stride :=
      Nat.mul_le_mul_right _ behind
    have start := header.le_clockPlace position clock
    omega

/-- A clock entry ends in front of a later record, unless it is the last of the record in front
and of six bytes. -/
theorem Valid.clock_apart (valid : header.Valid) {position clock later : Nat}
    (inside : clock < header.clockCount.toNat) (before : position < later)
    (far : position + 1 < later ∨ clock + 1 < header.clockCount.toNat ∨ header.clockSize = 8) :
    header.clockPlace position clock + clockSpan ≤ headerLength + later * header.stride := by
  have base := valid.two_le_baseSize
  have ends := header.clockPlace_le position inside
  have rows : (position + 1) * header.stride ≤ later * header.stride :=
    Nat.mul_le_mul_right _ before
  have stride : header.baseSize.toNat ≤ header.stride := Nat.le_add_right _ _
  have size := valid.clockSize_toNat
  have span : clockSpan = 8 := rfl
  rcases far with far | next | eight
  · have more : (position + 1 + 1) * header.stride ≤ later * header.stride :=
      Nat.mul_le_mul_right _ far
    rw [Nat.succ_mul] at more
    omega
  · have more := header.clockPlace_le position next
    rw [clockPlace_succ] at more
    omega
  · have wide : header.clockSize.toNat = 8 := by rw [eight]; rfl
    omega

end Header

section Tampered

variable {first second : List UInt8} {table other : Table} {tampered : Nat}

theorem header_eq_of_agree (one : parse first = .ok table) (two : parse second = .ok other)
    (agree : table.header.AgreeOutside tampered first second) : other.header = table.header := by
  obtain ⟨front, -⟩ := (parse_eq_ok_iff first table).mp one
  obtain ⟨front', -⟩ := (parse_eq_ok_iff second other).mp two
  have same : first.take headerLength = second.take headerLength := by
    apply List.ext_getElem?
    intro place
    rw [List.getElem?_take, List.getElem?_take]
    split
    · rename_i inside
      exact agree place (.inl (by omega))
    · rfl
  have read := (Header.read_eq_ok_iff second table.header).mpr (same ▸ front)
  have also := (Header.read_eq_ok_iff second other.header).mpr front'
  exact Except.ok.inj (also.symm.trans read)

variable (one : parse first = .ok table) (two : parse second = .ok other)
  (header : other.header = table.header)
  (agree : table.header.AgreeOutside tampered first second)

include one two header agree

theorem getElem?_records_eq {position : Nat} (different : position ≠ tampered)
    (apart : ∀ clock < table.header.clockCount.toNat,
      table.header.clockPlace position clock + clockSpan ≤
        headerLength + tampered * table.header.stride ∨ tampered < position) :
    table.records[position]? = other.records[position]? := by
  apply getElem?_records_eq_of_bytes one two header
  · intro byte _ low
    exact agree.base different low
  · intro clock listed byte spanned
    exact agree.entry (apart clock listed) spanned

/-- Records other than the tampered one and the one in front of it are as they were. -/
theorem getElem?_records_eq_of_far {position : Nat} (different : position ≠ tampered)
    (far : position + 1 ≠ tampered) : table.records[position]? = other.records[position]? := by
  obtain ⟨_, valid, _⟩ := (parse_eq_ok_iff first table).mp one
  apply getElem?_records_eq one two header agree different
  intro clock inside
  rcases Nat.lt_or_gt_of_ne different with before | behind
  · exact .inl (valid.clock_apart inside before (.inl (by omega)))
  · exact .inr behind

theorem getElem?_records_eq_of_eight {position : Nat} (before : position + 1 = tampered)
    (short : table.header.clockSize = 8 ∨ table.header.clockCount = 0) :
    table.records[position]? = other.records[position]? := by
  obtain ⟨_, valid, _⟩ := (parse_eq_ok_iff first table).mp one
  apply getElem?_records_eq one two header agree (by omega)
  intro clock inside
  rcases short with eight | none
  · exact .inl (valid.clock_apart inside (by omega) (.inr (.inr eight)))
  · rw [none] at inside
    exact absurd inside (Nat.not_lt_zero clock)

/-- With clock entries of six bytes the record in front is as it was up to the upper half of its
last word. -/
theorem sameBelow_of_six {position : Nat} (before : position + 1 = tampered)
    (six : table.header.clockSize = 6) (listed : table.header.clockCount ≠ 0)
    {record record' : Record} (present : table.records[position]? = some record)
    (there : other.records[position]? = some record') : record.SameBelow record' := by
  obtain ⟨_, valid, _⟩ := (parse_eq_ok_iff first table).mp one
  obtain ⟨level, flags, lowPower⟩ := base_eq_of_bytes one two header present there
    fun byte _ low => agree.base (by omega) low
  have size : table.header.clockSize.toNat = 6 := by rw [six]; rfl
  obtain ⟨count, counted⟩ : ∃ count, table.header.clockCount.toNat = count + 1 :=
    Nat.exists_eq_add_one.mpr (Nat.pos_of_ne_zero fun none => listed (UInt8.toNat_inj.mp none))
  have length := length_clocks (List.mem_of_getElem? present)
  have length' := length_clocks (List.mem_of_getElem? there)
  rw [counted] at length
  rw [header, counted] at length'
  obtain ⟨front, last, changed, split, split', found, found'⟩ :=
    exists_concat_concat length length' fun clock inside =>
      getElem?_clocks_eq_of_bytes one two header present there (by omega) fun _ spanned =>
        agree.entry (.inl (valid.clock_apart (by omega) (by omega) (.inr (.inl (by omega)))))
          spanned
  obtain ⟨_, param0, param1⟩ := words_at one present found
  obtain ⟨_, param0', param1'⟩ := words_at two there found'
  rw [header] at param0' param1'
  -- The first six bytes of the last entry are in front of the tampered record.
  have ends := table.header.clockPlace_last position counted.symm
  rw [size, before] at ends
  have byte (offset : Nat) (low : offset < 6) :
      first[table.header.clockPlace position count + offset]? =
        second[table.header.clockPlace position count + offset]? :=
    agree _ (.inl (by omega))
  have word : wordAt? first (table.header.clockPlace position count) =
      wordAt? second (table.header.clockPlace position count) :=
    wordAt?_congr fun offset low => byte offset (by omega)
  have same := param0'.symm.trans (word.symm.trans param0)
  obtain ⟨low, high, _, _, here, next, _⟩ := wordAt?_eq_some_iff.mp param1
  refine ⟨level.symm, flags.symm, lowPower.symm, front, last, changed, split, split',
    UInt32.toNat_inj.mp (Option.some.inj same), ?_⟩
  rw [lowerHalf_of_wordAt? param1 here next]
  exact lowerHalf_of_wordAt? param1' ((byte 4 (by decide)).symm.trans here)
    ((byte 5 (by decide)).symm.trans next)

end Tampered

end PerfStates.Table
