import PerfStates.Proofs.Table.Encoding
import PerfStates.Proofs.Table.Layout

/-! What tables there are. The records of an accepted table are those that its header can
carry, all of them occur, and they tell every byte that they are read from. -/

namespace PerfStates.Table

theorem wordAt?_eq_some_iff {bytes : List UInt8} {place value : Nat} :
    wordAt? bytes place = some value ↔ ∃ first second third fourth : UInt8,
      bytes[place]? = some first ∧ bytes[place + 1]? = some second ∧
      bytes[place + 2]? = some third ∧ bytes[place + 3]? = some fourth ∧
      first.toNat + 0x100 * second.toNat + 0x10000 * third.toNat + 0x1000000 * fourth.toNat =
        value := by
  simp only [wordAt?, Option.bind_eq_bind, Option.bind_eq_some_iff, Option.pure_def,
    Option.some.injEq]
  constructor
  · rintro ⟨first, here, second, next, third, later, fourth, last, total⟩
    exact ⟨first, second, third, fourth, here, next, later, last, total⟩
  · rintro ⟨first, second, third, fourth, here, next, later, last, total⟩
    exact ⟨first, here, second, next, third, later, fourth, last, total⟩

theorem upperHalf_of_wordAt? {bytes : List UInt8} {place : Nat} {value : UInt32}
    (found : wordAt? bytes place = some value.toNat) {low high : UInt8}
    (lower : bytes[place + 2]? = some low) (upper : bytes[place + 3]? = some high) :
    upperHalf value = low.toNat + 0x100 * high.toNat := by
  obtain ⟨first, second, third, fourth, _, _, later, last, total⟩ := wordAt?_eq_some_iff.mp found
  obtain rfl : low = third := Option.some.inj (lower.symm.trans later)
  obtain rfl : high = fourth := Option.some.inj (upper.symm.trans last)
  have one := first.toNat_lt
  have two := second.toNat_lt
  rw [upperHalf]
  omega

/-- Of two words that overlap by two bytes, those are the upper half of the one and the lower half
of the other. -/
theorem upperHalf_eq_lowerHalf {bytes : List UInt8} {place : Nat} {value next : UInt32}
    (found : wordAt? bytes place = some value.toNat)
    (behind : wordAt? bytes (place + 2) = some next.toNat) :
    upperHalf value = lowerHalf next := by
  obtain ⟨first, second, third, fourth, lower, upper, _, _, total⟩ :=
    wordAt?_eq_some_iff.mp behind
  rw [upperHalf_of_wordAt? found lower upper, lowerHalf]
  have one := first.toNat_lt
  have two := second.toNat_lt
  omega

namespace Header

/-- Where a clock entry of a record lies. -/
def clockPlace (header : Header) (position clock : Nat) : Nat :=
  headerLength + (position * header.stride +
    (header.baseSize.toNat + clock * header.clockSize.toNat))

theorem clockPlace_succ (header : Header) (position clock : Nat) :
    header.clockPlace position (clock + 1) =
      header.clockPlace position clock + header.clockSize.toNat := by
  rw [clockPlace, clockPlace, Nat.succ_mul]
  omega

theorem clockPlace_last (header : Header) (position : Nat) {last : Nat}
    (counted : last + 1 = header.clockCount.toNat) :
    header.clockPlace position last + header.clockSize.toNat =
      headerLength + (position + 1) * header.stride := by
  rw [← clockPlace_succ, clockPlace, counted, Nat.succ_mul]
  rfl

end Header

section Accepted

variable {bytes : List UInt8} {table : Table}

/-- The last clock entry of a record reaches into the next one if it has six bytes: the upper half
of its second word is made of that one's level and flags. -/
theorem upperHalf_last (accepted : parse bytes = .ok table) (six : table.header.clockSize = 6)
    {position : Nat} {record next : Record} (present : table.records[position]? = some record)
    (behind : table.records[position + 1]? = some next) {last : ClockEntry}
    (member : last ∈ record.clocks.getLast?) :
    upperHalf last.param1 = next.level.toNat + 0x100 * next.flags.toNat := by
  have counted := length_clocks (List.mem_of_getElem? present)
  rw [Option.mem_def, List.getLast?_eq_getElem?, counted] at member
  obtain ⟨_, _, here⟩ := words_at accepted present member
  obtain ⟨level, flags, _⟩ := base_at accepted behind
  have some : table.header.clockCount.toNat - 1 < table.header.clockCount.toNat :=
    counted ▸ (List.getElem?_eq_some_iff.mp member).1
  have place := table.header.clockPlace_last position
    (show table.header.clockCount.toNat - 1 + 1 = table.header.clockCount.toNat by omega)
  rw [six] at place
  apply upperHalf_of_wordAt? here
  · rw [← level, ← place]
    rfl
  · rw [← flags, ← place]
    rfl

theorem carries_records (accepted : parse bytes = .ok table) :
    table.header.Carries table.records := by
  constructor
  · intro two record member
    obtain ⟨position, present⟩ := List.mem_iff_getElem?.mp member
    obtain ⟨_, _, lowPower⟩ := base_at accepted present
    rwa [two, if_neg (by decide)] at lowPower
  · intro six record member
    obtain ⟨position, present⟩ := List.mem_iff_getElem?.mp member
    rw [List.isChain_iff_getElem]
    intro clock inside
    have entry : record.clocks[clock]? = some record.clocks[clock] := List.getElem?_eq_getElem _
    have next : record.clocks[clock + 1]? = some record.clocks[clock + 1] :=
      List.getElem?_eq_getElem _
    obtain ⟨_, _, here⟩ := words_at accepted present entry
    obtain ⟨_, behind, _⟩ := words_at accepted present next
    apply upperHalf_eq_lowerHalf here
    rw [← behind]
    have place := table.header.clockPlace_succ position clock
    rw [six] at place
    exact congrArg (wordAt? bytes) place.symm
  · intro six
    rw [List.isChain_iff_getElem]
    intro position inside last member
    exact upperHalf_last accepted six (List.getElem?_eq_getElem _) (List.getElem?_eq_getElem _)
      member

/-- A clock entry of six bytes and the next of its record agree in twelve bits of a frequency. -/
theorem highest_eq_nominal (accepted : parse bytes = .ok table)
    (six : table.header.clockSize = 6) {record : Record} (member : record ∈ table.records) :
    record.clocks.IsChain fun entry next =>
      entry.highest.toNat / 4 = next.nominal.toNat % 0x1000 := by
  apply ((carries_records accepted).within six record member).imp
  intro entry next same
  rw [upperHalf, lowerHalf] at same
  rw [ClockEntry.highest_toNat, ClockEntry.nominal_toNat]
  omega

end Accepted

namespace Header

/-- A place in the base part of a record behind its low-power index, which says nothing. -/
def Pads (header : Header) (place : Nat) : Prop :=
  ∃ position byte, position < header.recordCount.toNat ∧ 3 ≤ byte ∧ byte < header.baseSize.toNat ∧
    place = headerLength + (position * header.stride + byte)

/-- A place that a table with the header is read at. -/
def Reads (header : Header) (place : Nat) : Prop :=
  place < headerLength + header.readLength ∧ ¬ header.Pads place

variable {header : Header}

theorem not_pads {position byte : Nat} (inside : byte < header.stride)
    (told : byte < 3 ∨ header.baseSize.toNat ≤ byte) :
    ¬ header.Pads (headerLength + (position * header.stride + byte)) := by
  rintro ⟨other, pad, _, low, high, same⟩
  have narrow : pad < header.stride := Nat.lt_of_lt_of_le high (Nat.le_add_right _ _)
  have equal : (position * header.stride + byte) % header.stride =
      (other * header.stride + pad) % header.stride := by
    rw [Nat.add_left_cancel same]
  rw [Nat.mul_add_mod', Nat.mul_add_mod', Nat.mod_eq_of_lt inside, Nat.mod_eq_of_lt narrow] at equal
  omega

theorem reads_base {position byte : Nat}
    (counted : position < header.recordCount.toNat) (inside : byte < header.baseSize.toNat)
    (told : byte < 3) : header.Reads (headerLength + (position * header.stride + byte)) := by
  have ends := header.record_end_le counted
  have narrow : byte < header.stride := Nat.lt_of_lt_of_le inside (Nat.le_add_right _ _)
  exact ⟨by omega, not_pads narrow (.inl told)⟩

theorem Valid.reads_clock (valid : header.Valid) {position clock : Nat}
    (counted : position < header.recordCount.toNat) (inside : clock < header.clockCount.toNat)
    {byte : Nat} (spanned : byte < clockSpan) :
    header.Reads (header.clockPlace position clock + byte) := by
  have ends := valid.clock_end_le counted inside
  have base := valid.two_le_baseSize
  have span : clockSpan = 8 := rfl
  refine ⟨by rw [clockPlace]; omega, ?_⟩
  have entries : (clock + 1) * header.clockSize.toNat ≤
      header.clockCount.toNat * header.clockSize.toNat := Nat.mul_le_mul_right _ inside
  have stride : header.stride =
      header.baseSize.toNat + header.clockCount.toNat * header.clockSize.toNat := rfl
  rw [Nat.succ_mul] at entries
  rw [clockPlace, Nat.add_assoc, Nat.add_assoc]
  by_cases own : header.baseSize.toNat + clock * header.clockSize.toNat + byte < header.stride
  · exact not_pads own (.inr (by omega))
  · have next : position * header.stride + (header.baseSize.toNat +
        clock * header.clockSize.toNat + byte) = (position + 1) * header.stride +
        (header.baseSize.toNat + clock * header.clockSize.toNat + byte - header.stride) := by
      rw [Nat.succ_mul]
      omega
    rw [next]
    have front : header.baseSize.toNat + clock * header.clockSize.toNat + byte - header.stride < 2 := by
      rcases valid.clockSize_toNat with six | eight <;> omega
    exact not_pads (by omega) (.inl (by omega))

/-- The places that a table is read at: its header, the told part of each base part, and every
clock entry over its full span. -/
theorem Valid.cases_of_reads (valid : header.Valid) {place : Nat} (read : header.Reads place) :
    place < headerLength ∨
    (∃ position byte, position < header.recordCount.toNat ∧ byte < header.baseSize.toNat ∧
      byte < 3 ∧ place = headerLength + (position * header.stride + byte)) ∨
    ∃ position clock byte, position < header.recordCount.toNat ∧
      clock < header.clockCount.toNat ∧ byte < clockSpan ∧
      place = header.clockPlace position clock + byte := by
  obtain ⟨inside, told⟩ := read
  have large := valid.two_le_baseSize
  have span : clockSpan = 8 := rfl
  have stride : header.stride =
      header.baseSize.toNat + header.clockCount.toNat * header.clockSize.toNat := rfl
  by_cases early : place < headerLength
  · exact .inl early
  obtain ⟨offset, rfl⟩ := Nat.exists_eq_add_of_le (Nat.le_of_not_lt early)
  refine .inr ?_
  by_cases within : offset < header.recordsLength
  · -- A place in a record, told apart by its distance from the start of the record.
    have counted : offset / header.stride < header.recordCount.toNat :=
      Nat.div_lt_of_lt_mul (Nat.mul_comm _ header.stride ▸ within)
    have narrow : offset % header.stride < header.stride := Nat.mod_lt _ (by omega)
    have split : offset = offset / header.stride * header.stride + offset % header.stride :=
      (Nat.div_add_mod' ..).symm
    generalize offset / header.stride = position at counted split
    generalize offset % header.stride = byte at narrow split
    subst split
    by_cases base : byte < header.baseSize.toNat
    · refine .inl ⟨position, byte, counted, base, Nat.lt_of_not_le fun pad => ?_, rfl⟩
      exact told ⟨position, byte, counted, pad, base, rfl⟩
    · obtain ⟨entry, rfl⟩ := Nat.exists_eq_add_of_le (Nat.le_of_not_lt base)
      have size : 0 < header.clockSize.toNat := by
        rcases valid.clockSize_toNat with six | eight <;> omega
      have clock : entry / header.clockSize.toNat < header.clockCount.toNat :=
        Nat.div_lt_of_lt_mul (by rw [Nat.mul_comm]; omega)
      have short : entry % header.clockSize.toNat < header.clockSize.toNat := Nat.mod_lt _ size
      refine .inr ⟨position, entry / header.clockSize.toNat, entry % header.clockSize.toNat,
        counted, clock, Nat.lt_of_lt_of_le short valid.clockSize_le, ?_⟩
      rw [clockPlace, Nat.add_assoc, Nat.add_assoc, Nat.add_assoc, Nat.div_add_mod']
  · -- A place behind the records, which the last clock entry reaches.
    have reach : offset < header.recordsLength + header.overrun :=
      Nat.lt_of_add_lt_add_left inside
    have some : header.clockCount ≠ 0 := by
      intro none
      rw [overrun, if_pos none] at reach
      omega
    rw [overrun, if_neg some] at reach
    have clocks : header.clockCount.toNat - 1 + 1 = header.clockCount.toNat :=
      Nat.sub_add_cancel (Nat.pos_of_ne_zero fun none => some (UInt8.toNat_inj.mp none))
    have records : header.recordCount.toNat - 1 + 1 = header.recordCount.toNat :=
      Nat.sub_add_cancel
        (Nat.pos_of_ne_zero fun none => valid.recordCount (UInt8.toNat_inj.mp none))
    have last := header.clockPlace_last (header.recordCount.toNat - 1) clocks
    have length : (header.recordCount.toNat - 1 + 1) * header.stride = header.recordsLength := by
      rw [records]
      rfl
    refine .inr ⟨header.recordCount.toNat - 1, header.clockCount.toNat - 1,
      header.clockSize.toNat + (offset - header.recordsLength), by omega, by omega, by omega, ?_⟩
    rw [← Nat.add_assoc, last, length]
    omega

end Header

theorem getElem?_eq_of_wordAt?_eq {first second : List UInt8} {place value : Nat}
    (one : wordAt? first place = some value) (two : wordAt? second place = some value)
    {byte : Nat} (inside : byte < 4) : first[place + byte]? = second[place + byte]? := by
  obtain ⟨a, b, c, d, here, next, later, last, total⟩ := wordAt?_eq_some_iff.mp one
  obtain ⟨a', b', c', d', here', next', later', last', total'⟩ := wordAt?_eq_some_iff.mp two
  have bounds := And.intro a.toNat_lt (And.intro b.toNat_lt (And.intro c.toNat_lt d.toNat_lt))
  have bounds' :=
    And.intro a'.toNat_lt (And.intro b'.toNat_lt (And.intro c'.toNat_lt d'.toNat_lt))
  have lowest : a = a' := UInt8.toNat_inj.mp (by omega)
  have lower : b = b' := UInt8.toNat_inj.mp (by omega)
  have upper : c = c' := UInt8.toNat_inj.mp (by omega)
  have highest : d = d' := UInt8.toNat_inj.mp (by omega)
  obtain rfl | rfl | rfl | rfl : byte = 0 ∨ byte = 1 ∨ byte = 2 ∨ byte = 3 := by omega
  · rw [Nat.add_zero, here, here', lowest]
  · rw [next, next', lower]
  · rw [later, later', upper]
  · rw [last, last', highest]

theorem wordAt?_congr {first second : List UInt8} {place : Nat}
    (same : ∀ byte < 4, first[place + byte]? = second[place + byte]?) :
    wordAt? first place = wordAt? second place := by
  have front := same 0 (by decide)
  rw [Nat.add_zero] at front
  rw [wordAt?, wordAt?, front, same 1 (by decide), same 2 (by decide), same 3 (by decide)]

section Injectivity

variable {first second : List UInt8} {table other : Table} (one : parse first = .ok table)
  (two : parse second = .ok other) (header : other.header = table.header)

include one two header

theorem base_eq_of_bytes {position : Nat} {record record' : Record}
    (present : table.records[position]? = some record)
    (there : other.records[position]? = some record')
    (agree : ∀ byte < 3, byte < table.header.baseSize.toNat →
      first[headerLength + (position * table.header.stride + byte)]? =
        second[headerLength + (position * table.header.stride + byte)]?) :
    record.level = record'.level ∧ record.flags = record'.flags ∧
      record.lowPower = record'.lowPower := by
  obtain ⟨_, valid, _⟩ := (parse_eq_ok_iff first table).mp one
  have large := valid.two_le_baseSize
  have base (byte : Nat) (inside : byte < table.header.baseSize.toNat) (told : byte < 3) :
      first[headerLength + position * table.header.stride + byte]? =
        second[headerLength + position * table.header.stride + byte]? := by
    rw [Nat.add_assoc]
    exact agree byte told inside
  obtain ⟨level, flags, lowPower⟩ := base_at one present
  obtain ⟨level', flags', lowPower'⟩ := base_at two there
  rw [header] at level' flags' lowPower'
  refine ⟨?_, ?_, ?_⟩
  · exact Option.some.inj (level.symm.trans ((base 0 (by omega) (by decide)).trans level'))
  · exact Option.some.inj (flags.symm.trans ((base 1 (by omega) (by decide)).trans flags'))
  · by_cases three : 2 < table.header.baseSize.toNat
    · rw [if_pos three] at lowPower lowPower'
      exact Option.some.inj (lowPower.symm.trans ((base 2 three (by decide)).trans lowPower'))
    · rw [if_neg three] at lowPower lowPower'
      rw [lowPower, lowPower']

theorem entry_eq_of_bytes {position clock : Nat} {record record' : Record}
    (present : table.records[position]? = some record)
    (there : other.records[position]? = some record') {entry entry' : ClockEntry}
    (found : record.clocks[clock]? = some entry)
    (also : record'.clocks[clock]? = some entry')
    (agree : ∀ byte < clockSpan, first[table.header.clockPlace position clock + byte]? =
      second[table.header.clockPlace position clock + byte]?) : entry = entry' := by
  obtain ⟨_, param0, param1⟩ := words_at one present found
  obtain ⟨_, param0', param1'⟩ := words_at two there also
  rw [header] at param0' param1'
  -- Both words lie inside the span of the entry.
  have words (offset : Nat) (short : offset + 4 ≤ clockSpan) :
      wordAt? first (table.header.clockPlace position clock + offset) =
        wordAt? second (table.header.clockPlace position clock + offset) := by
    apply wordAt?_congr
    intro byte low
    rw [Nat.add_assoc]
    exact agree _ (by omega)
  have lower := param0.symm.trans ((words 0 (by decide)).trans param0')
  have upper := param1.symm.trans ((words 4 (by decide)).trans param1')
  exact congrArg₂ ClockEntry.mk (UInt32.toNat_inj.mp (Option.some.inj lower))
    (UInt32.toNat_inj.mp (Option.some.inj upper))

theorem getElem?_clocks_eq_of_bytes {position clock : Nat} {record record' : Record}
    (present : table.records[position]? = some record)
    (there : other.records[position]? = some record')
    (inside : clock < table.header.clockCount.toNat)
    (agree : ∀ byte < clockSpan, first[table.header.clockPlace position clock + byte]? =
      second[table.header.clockPlace position clock + byte]?) :
    record.clocks[clock]? = record'.clocks[clock]? := by
  have listed : clock < record.clocks.length := by
    rwa [length_clocks (List.mem_of_getElem? present)]
  have within : clock < record'.clocks.length := by
    rwa [length_clocks (List.mem_of_getElem? there), header]
  have found := List.getElem?_eq_getElem listed
  have also := List.getElem?_eq_getElem within
  rw [found, also, entry_eq_of_bytes one two header present there found also agree]

theorem record_eq_of_bytes {position : Nat} {record record' : Record}
    (present : table.records[position]? = some record)
    (there : other.records[position]? = some record')
    (base : ∀ byte < 3, byte < table.header.baseSize.toNat →
      first[headerLength + (position * table.header.stride + byte)]? =
        second[headerLength + (position * table.header.stride + byte)]?)
    (entries : ∀ clock < table.header.clockCount.toNat, ∀ byte < clockSpan,
      first[table.header.clockPlace position clock + byte]? =
        second[table.header.clockPlace position clock + byte]?) : record = record' := by
  obtain ⟨level, flags, lowPower⟩ := base_eq_of_bytes one two header present there base
  have clocks : record.clocks = record'.clocks := by
    apply List.ext_getElem?
    intro clock
    by_cases inside : clock < table.header.clockCount.toNat
    · exact getElem?_clocks_eq_of_bytes one two header present there inside (entries clock inside)
    · rw [List.getElem?_eq_none, List.getElem?_eq_none]
      · rw [length_clocks (List.mem_of_getElem? there), header]
        omega
      · rw [length_clocks (List.mem_of_getElem? present)]
        omega
  change Record.mk record.level record.flags record.lowPower record.clocks = record'
  rw [level, flags, lowPower, clocks]

theorem getElem?_records_eq_of_bytes {position : Nat}
    (base : ∀ byte < 3, byte < table.header.baseSize.toNat →
      first[headerLength + (position * table.header.stride + byte)]? =
        second[headerLength + (position * table.header.stride + byte)]?)
    (entries : ∀ clock < table.header.clockCount.toNat, ∀ byte < clockSpan,
      first[table.header.clockPlace position clock + byte]? =
        second[table.header.clockPlace position clock + byte]?) :
    table.records[position]? = other.records[position]? := by
  by_cases counted : position < table.header.recordCount.toNat
  · have inside : position < table.records.length := by rwa [length_records one]
    have within : position < other.records.length := by rwa [length_records two, header]
    have present := List.getElem?_eq_getElem inside
    have there := List.getElem?_eq_getElem within
    rw [present, there, record_eq_of_bytes one two header present there base entries]
  · rw [List.getElem?_eq_none (by rw [length_records one]; omega),
      List.getElem?_eq_none (by rw [length_records two, header]; omega)]

/-- Tables that are read at the same bytes have the same records. -/
theorem records_eq_of_reads
    (agree : ∀ place, table.header.Reads place → first[place]? = second[place]?) :
    table.records = other.records := by
  obtain ⟨_, valid, _⟩ := (parse_eq_ok_iff first table).mp one
  apply List.ext_getElem
  · rw [length_records one, length_records two, header]
  · intro position inside within
    have counted : position < table.header.recordCount.toNat := length_records one ▸ inside
    apply record_eq_of_bytes one two header (List.getElem?_eq_getElem inside)
      (List.getElem?_eq_getElem within)
    · intro byte told inside
      exact agree _ (Header.reads_base counted inside told)
    · intro clock inside byte spanned
      exact agree _ (valid.reads_clock counted inside spanned)

/-- Two tables with the same header and the same records agree wherever they are read. -/
theorem getElem?_eq_of_records_eq (same : table.records = other.records) {place : Nat}
    (read : table.header.Reads place) : first[place]? = second[place]? := by
  obtain ⟨front, valid, _⟩ := (parse_eq_ok_iff first table).mp one
  obtain ⟨front', _⟩ := (parse_eq_ok_iff second other).mp two
  have there {position : Nat} (counted : position < table.header.recordCount.toNat) :
      ∃ record, table.records[position]? = some record :=
    ⟨_, List.getElem?_eq_getElem (by rw [length_records one]; exact counted)⟩
  rcases valid.cases_of_reads read with
    early | ⟨position, byte, counted, inside, told, rfl⟩ |
    ⟨position, clock, byte, counted, inside, spanned, rfl⟩
  · rw [← List.getElem?_take_of_lt early, front, ← header, ← front',
      List.getElem?_take_of_lt early]
  · obtain ⟨record, present⟩ := there counted
    obtain ⟨level, flags, lowPower⟩ := base_at one present
    obtain ⟨level', flags', lowPower'⟩ := base_at two (same ▸ present)
    rw [header] at level' flags' lowPower'
    rw [← Nat.add_assoc]
    obtain rfl | rfl | rfl : byte = 0 ∨ byte = 1 ∨ byte = 2 := by omega
    · exact level.trans level'.symm
    · exact flags.trans flags'.symm
    · rw [if_pos inside] at lowPower lowPower'
      exact lowPower.trans lowPower'.symm
  · obtain ⟨record, present⟩ := there counted
    have listed : clock < record.clocks.length := by
      rwa [length_clocks (List.mem_of_getElem? present)]
    have found : record.clocks[clock]? = some record.clocks[clock] := List.getElem?_eq_getElem _
    obtain ⟨_, param0, param1⟩ := words_at one present found
    obtain ⟨_, param0', param1'⟩ := words_at two (same ▸ present) found
    rw [header] at param0' param1'
    by_cases low : byte < 4
    · exact getElem?_eq_of_wordAt?_eq param0 param0' low
    · obtain ⟨rest, rfl⟩ := Nat.exists_eq_add_of_le (Nat.le_of_not_lt low)
      rw [← Nat.add_assoc]
      have span : clockSpan = 8 := rfl
      exact getElem?_eq_of_wordAt?_eq param1 param1' (by omega)

end Injectivity

/-- With clock entries of eight bytes, which keep to themselves, only a base part of two bytes
restricts what a table can carry. -/
theorem Header.carries_iff_of_eight {header : Header} (eight : header.clockSize = 8)
    (records : List Record) :
    header.Carries records ↔
      (header.baseSize = 2 → ∀ record ∈ records, record.lowPower = 0) := by
  have other : header.clockSize ≠ 6 := by
    rw [eight]
    decide
  exact ⟨fun carries => carries.lowPower,
    fun lowPower => ⟨lowPower, fun six => absurd six other, fun six => absurd six other⟩⟩

/-- What the tables with a valid header can say. Records, as many as the header counts and with as
many clock entries, are those of some bytes exactly if the header can carry them: with clock
entries of eight bytes always, up to the low-power index that a short base part lacks; with
entries of six bytes each is tied to what stands behind it, so twelve bits of a highest frequency
are those of the next nominal one. And records tell every byte that they are read from, so bytes
with the same records differ in the padding of their base parts and behind their end only. -/
theorem records_image {header : Header} (valid : header.Valid) :
    (∀ records : List Record, records.length = header.recordCount.toNat →
      (∀ record ∈ records, record.clocks.length = header.clockCount.toNat) →
      ((∃ bytes table, parse bytes = .ok table ∧ table.header = header ∧ table.records = records) ↔
        header.Carries records)) ∧
    (header.clockSize = 8 → ∀ records, header.Carries records ↔
      (header.baseSize = 2 → ∀ record ∈ records, record.lowPower = 0)) ∧
    (header.clockSize = 6 → ∀ bytes table, parse bytes = .ok table → table.header = header →
      ∀ record ∈ table.records, record.clocks.IsChain fun entry next =>
        entry.highest.toNat / 4 = next.nominal.toNat % 0x1000) ∧
    ∀ first second table other, parse first = .ok table → parse second = .ok other →
      table.header = header → other.header = header →
      (table.records = other.records ↔
        ∀ place, header.Reads place → first[place]? = second[place]?) := by
  refine ⟨?_, Header.carries_iff_of_eight, ?_, ?_⟩
  · intro records listed counted
    constructor
    · rintro ⟨bytes, table, accepted, rfl, rfl⟩
      exact carries_records accepted
    · intro carries
      obtain ⟨table, accepted, same, read⟩ := carries.parse_encode valid listed counted
      exact ⟨encode header records, table, accepted, same, read⟩
  · rintro six bytes table accepted rfl record member
    exact highest_eq_nominal accepted six member
  · rintro first second table other one two rfl same
    constructor
    · intro equal place read
      exact getElem?_eq_of_records_eq one two same equal read
    · exact records_eq_of_reads one two same

/-- Two records of two six-byte clock entries that some bytes say; with another word in the first
entry, where the second begins, none do. -/
theorem records_image_of_short_clocks :
    let header : Header := ⟨0x50, 10, 3, 2, 6, 2, 0, 0, 0, 0⟩
    let records (word : UInt32) : List Record :=
      [⟨15, 1, 9, [⟨0x320, word⟩, ⟨0x400195, 0xc8064⟩]⟩,
        ⟨12, 0, 7, [⟨300, 0x650096⟩, ⟨0x65, 0x0fff8032⟩]⟩]
    (∃ bytes table, parse bytes = .ok table ∧ table.header = header ∧
      table.records = records 0x19500c8) ∧
    ¬ ∃ bytes table, parse bytes = .ok table ∧ table.header = header ∧
      table.records = records 0x19600c8 := by
  intro header records
  have valid : header.Valid := (Header.validate_eq_ok_iff header).mp rfl
  have image (word : UInt32) := (records_image valid).1 (records word) rfl (by simp [records, header])
  constructor
  · refine (image _).mpr ⟨fun two => absurd two (by decide), fun _ => ?_, fun _ => ?_⟩
    · simp [records, upperHalf, lowerHalf]
    · simp [records, upperHalf]
  · intro told
    have tied := ((image _).mp told).within rfl _ List.mem_cons_self
    simp [upperHalf, lowerHalf] at tied

end PerfStates.Table
