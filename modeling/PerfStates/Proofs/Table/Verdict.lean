import Mathlib.Algebra.Group.Nat.Defs
import PerfStates.Proofs.Table.Locality

namespace PerfStates.Table

/-- The first of the causes that applies, or `value` if none does. -/
def judge {α : Type} (causes : List (Bool × TableError)) (value : α) : Except TableError α :=
  match causes.find? (·.1) with
  | some (_, cause) => .error cause
  | none => .ok value

section Judge

variable {α : Type} {value : α}

@[simp] theorem judge_nil : judge [] value = .ok value := rfl

@[simp] theorem judge_cons (applies : Prop) [Decidable applies] (cause : TableError)
    (causes : List (Bool × TableError)) :
    judge ((decide applies, cause) :: causes) value =
      if applies then .error cause else judge causes value := by
  by_cases here : applies
  · simp [judge, here]
  · simp [judge, here]

theorem judge_append (first second : List (Bool × TableError)) :
    judge (first ++ second) value = judge first () >>= fun _ => judge second value := by
  rw [judge, judge, List.find?_append]
  cases first.find? (·.1) with
  | none => rfl
  | some found => rfl

theorem mem_of_judge {causes : List (Bool × TableError)} {cause : TableError}
    (refused : judge causes value = .error cause) : (true, cause) ∈ causes := by
  rw [judge] at refused
  split at refused
  · rename_i applies first found
    cases refused
    obtain rfl : applies = true := List.find?_some found
    exact List.mem_of_find?_eq_some found
  · cases refused

end Judge

namespace Header

/-- The bytes that a table with the header needs: a clock entry of six bytes is read two bytes
past its end. -/
def needed (header : Header) : Nat :=
  10 + header.recordCount.toNat *
      (header.baseSize.toNat + header.clockCount.toNat * header.clockSize.toNat) +
    if header.clockSize = 6 ∧ header.clockCount ≠ 0 then 2 else 0

/-- What may be wrong with the header itself, in the order in which it is looked for. -/
def faults (header : Header) : List (Bool × TableError) :=
  [(header.version ≠ 0x50 ∧ header.version ≠ 0x60, .unsupportedVersion header.version),
   (header.headerSize ≠ 10, .headerSize header.headerSize),
   (header.recordCount = 0, .noRecords),
   (header.baseSize ≠ 2 ∧ header.baseSize ≠ 3 ∧
      ¬ (header.version = 0x60 ∧ header.baseSize = 5),
    .baseSize header.version header.baseSize),
   (header.clockSize ≠ 6 ∧ header.clockSize ≠ 8, .clockSize header.clockSize),
   (32 < header.clockCount.toNat, .tooManyClocks header.clockCount)]

/-- What may be wrong with `available` bytes that begin with the header. -/
def causes (header : Header) (available : Nat) : List (Bool × TableError) :=
  header.faults ++
    [(decide (available < header.needed), .truncated header.needed available)]

/-- The version is unknown, or its base sizes are those listed. -/
theorem baseSizes?_eq (version : UInt8) :
    (baseSizes? version = none ∧ version ≠ 0x50 ∧ version ≠ 0x60) ∨
      ∃ sizes, baseSizes? version = some sizes ∧ ¬ (version ≠ 0x50 ∧ version ≠ 0x60) ∧
        ∀ size, size ∉ sizes ↔ size ≠ 2 ∧ size ≠ 3 ∧ ¬ (version = 0x60 ∧ size = 5) := by
  unfold baseSizes?
  split_ifs with five six
  · exact .inr ⟨[2, 3], rfl, by simp [five], by simp [five]⟩
  · exact .inr ⟨[2, 3, 5], rfl, by simp [six], by simp [six]⟩
  · exact .inl ⟨rfl, five, six⟩

/-- The checks of a header find the first of its faults. -/
theorem validate_eq (header : Header) : header.validate = judge header.faults () := by
  rcases baseSizes?_eq header.version with ⟨absent, unknown⟩ | ⟨sizes, present, known, listed⟩
  · simp only [validate, absent, faults, judge_cons, if_pos unknown]
  · have size : header.clockSize ∉ [6, 8] ↔ header.clockSize ≠ 6 ∧ header.clockSize ≠ 8 := by simp
    simp only [validate, present]
    rw [clockLimit]
    simp only [faults, judge_cons, judge_nil, if_neg known, listed, size]

theorem judge_faults_iff (header : Header) : judge header.faults () = .ok () ↔ header.Valid := by
  rw [← validate_eq, validate_eq_ok_iff]

theorem not_truncated_of_faults {header : Header} {cause : TableError}
    (refused : judge header.faults () = .error cause) (needed available : Nat) :
    cause ≠ .truncated needed available := by
  have member := mem_of_judge refused
  simp only [faults, List.mem_cons, Prod.mk.injEq, List.not_mem_nil, or_false] at member
  rintro rfl
  simp at member

theorem Valid.needed_eq {header : Header} (valid : header.Valid) :
    header.needed = headerLength + header.readLength := by
  have length : headerLength = 10 := rfl
  have total : header.readLength = header.recordCount.toNat *
      (header.baseSize.toNat + header.clockCount.toNat * header.clockSize.toNat) +
      header.overrun := rfl
  have past : header.overrun = if header.clockSize = 6 ∧ header.clockCount ≠ 0 then 2 else 0 := by
    rw [overrun]
    rcases valid.clockSize with six | eight
    · by_cases none : header.clockCount = 0 <;> simp [six, none, clockSpan]
    · by_cases none : header.clockCount = 0 <;> simp [eight, none, clockSpan]
  rw [needed, total, past, length, Nat.add_assoc]

end Header

theorem exists_header {bytes : List UInt8} (enough : headerLength ≤ bytes.length) :
    ∃ header : Header, bytes.take headerLength = header.bytes := by
  have ten : 10 ≤ bytes.length := enough
  refine ⟨⟨bytes[0], bytes[1], bytes[2], bytes[3], bytes[4], bytes[5], bytes[6], bytes[7],
    bytes[8], bytes[9]⟩, ?_⟩
  rw [← Header.read_eq_ok_iff]
  have whole : bytes = bytes[0] :: bytes[1] :: bytes[2] :: bytes[3] :: bytes[4] :: bytes[5] ::
      bytes[6] :: bytes[7] :: bytes[8] :: bytes[9] :: bytes.drop 10 := by
    simp only [List.getElem_cons_drop, List.drop_zero]
  conv_lhs => rw [whole]
  rfl

theorem parse_eq_of_short {bytes : List UInt8} (short : bytes.length < headerLength) :
    parse bytes = .error (.truncated headerLength bytes.length) := by
  have refused : Header.read bytes = .error (.truncated headerLength bytes.length) := by
    unfold Header.read
    split
    · rw [headerLength] at short
      simp only [List.length_cons] at short
      omega
    · rfl
  rw [parse, refused]
  rfl

/-- The verdict on bytes that begin with a header. -/
theorem parse_eq_judge {bytes : List UInt8} {header : Header}
    (front : bytes.take headerLength = header.bytes) :
    parse bytes = judge (header.causes bytes.length)
      ⟨header, (bytes.drop headerLength).take (header.needed - headerLength)⟩ := by
  have read := (Header.read_eq_ok_iff bytes header).mpr front
  rw [Header.causes, judge_append, ← Header.validate_eq]
  cases checked : header.validate with
  | error cause => simp only [parse, read, checked, bind, Except.bind]
  | ok =>
    have valid := (Header.validate_eq_ok_iff header).mp checked
    have size : header.headerSize.toNat = headerLength := by
      rw [valid.headerSize]
      rfl
    simp only [parse, read, checked, bind, Except.bind, judge_cons, judge_nil, size,
      valid.needed_eq, Nat.add_sub_cancel_left]
    split_ifs <;> rfl

section Suffix

variable {bytes : List UInt8} {header : Header}

theorem parse_eq_of_fault (front : bytes.take headerLength = header.bytes) {cause : TableError}
    (refused : judge header.faults () = .error cause) : parse bytes = .error cause := by
  rw [parse_eq_judge front, Header.causes, judge_append, refused]
  rfl

theorem parse_eq_of_valid (front : bytes.take headerLength = header.bytes) (valid : header.Valid) :
    parse bytes = if bytes.length < header.needed
      then .error (.truncated header.needed bytes.length)
      else .ok ⟨header, (bytes.drop headerLength).take (header.needed - headerLength)⟩ := by
  rw [parse_eq_judge front, Header.causes, judge_append, header.judge_faults_iff.mpr valid]
  exact judge_cons ..

theorem take_append_eq (front : bytes.take headerLength = header.bytes) (suffix : List UInt8) :
    (bytes ++ suffix).take headerLength = header.bytes := by
  have long : headerLength ≤ bytes.length := by
    have length : (bytes.take headerLength).length = headerLength := congrArg List.length front
    rw [List.length_take] at length
    omega
  rw [List.take_append_of_le_length long, front]

/-- A refusal for a lack of bytes tells how many there are. As long as there are too few, it is
the verdict with more bytes as well. -/
theorem parse_append_of_truncated {needed available : Nat}
    (refused : parse bytes = .error (.truncated needed available)) (suffix : List UInt8) :
    available = bytes.length ∧ ((bytes ++ suffix).length < needed →
      parse (bytes ++ suffix) = .error (.truncated needed (bytes ++ suffix).length)) := by
  rcases Nat.lt_or_ge bytes.length headerLength with short | long
  · cases (parse_eq_of_short short).symm.trans refused
    exact ⟨rfl, parse_eq_of_short⟩
  · obtain ⟨header, front⟩ := exists_header long
    cases checked : judge header.faults () with
    | error cause =>
      cases (parse_eq_of_fault front checked).symm.trans refused
      exact absurd rfl (Header.not_truncated_of_faults checked _ _)
    | ok =>
      have valid := header.judge_faults_iff.mp checked
      rw [parse_eq_of_valid front valid] at refused
      split_ifs at refused with few
      cases refused
      refine ⟨rfl, fun still => ?_⟩
      rw [parse_eq_of_valid (take_append_eq front suffix) valid, if_pos still]

/-- A refusal for anything else is the verdict with more bytes as well. -/
theorem parse_append_of_refused {cause : TableError} (refused : parse bytes = .error cause)
    (other : ∀ needed available, cause ≠ .truncated needed available) (suffix : List UInt8) :
    parse (bytes ++ suffix) = .error cause := by
  rcases Nat.lt_or_ge bytes.length headerLength with short | long
  · cases (parse_eq_of_short short).symm.trans refused
    exact absurd rfl (other _ _)
  · obtain ⟨header, front⟩ := exists_header long
    cases checked : judge header.faults () with
    | error found =>
      cases (parse_eq_of_fault front checked).symm.trans refused
      exact parse_eq_of_fault (take_append_eq front suffix) checked
    | ok =>
      rw [parse_eq_of_valid front (header.judge_faults_iff.mp checked)] at refused
      split_ifs at refused
      cases refused
      exact absurd rfl (other _ _)

/-- An accepted table does not see the bytes behind those it needs. -/
theorem parse_append_of_ok {table : Table} (accepted : parse bytes = .ok table)
    (suffix : List UInt8) : parse (bytes ++ suffix) = .ok table := by
  obtain ⟨front, valid, enough, area⟩ := (parse_eq_ok_iff bytes table).mp accepted
  refine (parse_eq_ok_iff _ table).mpr ⟨take_append_eq front suffix, valid, ?_, ?_⟩
  · rw [List.length_append]
    omega
  · rw [List.drop_append_of_le_length (by omega), List.take_append_of_le_length, area]
    rw [List.length_drop]
    omega

end Suffix

/-- The bytes with one bit of the byte at `place` the other way. -/
def flipBit (place bit : Nat) (bytes : List UInt8) : List UInt8 :=
  bytes.modify place (· ^^^ UInt8.ofNat (2 ^ bit))

section Flip

variable {place bit : Nat} {bytes : List UInt8}

@[simp] theorem length_flipBit : (flipBit place bit bytes).length = bytes.length :=
  List.length_modify ..

theorem getElem?_flipBit_of_ne {other : Nat} (different : other ≠ place) :
    (flipBit place bit bytes)[other]? = bytes[other]? := by
  rw [flipBit, List.getElem?_modify]
  simp [different.symm]

theorem getElem?_flipBit_self (bit : Nat) {byte : UInt8} (present : bytes[place]? = some byte) :
    (flipBit place bit bytes)[place]? = some (byte ^^^ UInt8.ofNat (2 ^ bit)) := by
  rw [flipBit, List.getElem?_modify, present]
  simp

theorem parse_flipBit (bit : Nat) {table : Table} (accepted : parse bytes = .ok table)
    (behind : headerLength ≤ place) :
    ∃ other, parse (flipBit place bit bytes) = .ok other ∧ other.header = table.header := by
  obtain ⟨front, valid, enough, -⟩ := (parse_eq_ok_iff bytes table).mp accepted
  have same : (flipBit place bit bytes).take headerLength = table.header.bytes := by
    rw [← front]
    apply List.ext_getElem?
    intro index
    rw [List.getElem?_take, List.getElem?_take]
    split
    · exact getElem?_flipBit_of_ne (by omega)
    · rfl
  have long : headerLength + table.header.readLength ≤ (flipBit place bit bytes).length := by
    rwa [length_flipBit]
  exact ⟨⟨table.header, ((flipBit place bit bytes).drop headerLength).take table.header.readLength⟩,
    (parse_eq_ok_iff _ _).mpr ⟨same, valid, long, rfl⟩, rfl⟩

end Flip

/-- A bit of the upper part of a number. -/
theorem two_pow_mul_add_xor {width low : Nat} (small : low < 2 ^ width) (high bit : Nat) :
    2 ^ width * (high ^^^ 2 ^ bit) + low = (2 ^ width * high + low) ^^^ 2 ^ (width + bit) := by
  apply Nat.eq_of_testBit_eq
  intro index
  rw [Nat.testBit_xor, Nat.testBit_two_pow_mul_add _ small, Nat.testBit_two_pow_mul_add _ small,
    Nat.testBit_two_pow]
  split
  · have apart : width + bit ≠ index := by omega
    simp [apart]
  · have shifted : bit = index - width ↔ width + bit = index := by omega
    simp only [Nat.testBit_xor, Nat.testBit_two_pow, shifted]

/-- The second word of an entry with one of its last eight bits the other way. -/
structure ClockEntry.Flipped (bit : Nat) (entry changed : ClockEntry) : Prop where
  param0 : changed.param0 = entry.param0
  param1 : changed.param1.toNat = entry.param1.toNat ^^^ 2 ^ (24 + bit)

namespace ClockEntry.Flipped

variable {bit : Nat} {entry changed : ClockEntry} (flipped : Flipped bit entry changed)

include flipped

theorem nominal : changed.nominal = entry.nominal := by
  rw [ClockEntry.nominal, flipped.param0, ClockEntry.nominal]

theorem lowest : changed.lowest = entry.lowest := by
  rw [← UInt16.toNat_inj, lowest_toNat, lowest_toNat, flipped.param1]
  have above : 2 ^ (24 + bit) % 2 ^ 14 = 0 :=
    Nat.mod_eq_zero_of_dvd (Nat.pow_dvd_pow 2 (by omega))
  change (_ ^^^ _) % 2 ^ 14 = _ % 2 ^ 14
  rw [Nat.xor_mod_two_pow, above, Nat.xor_zero]

theorem highest (small : bit < 4) :
    changed.highest.toNat = entry.highest.toNat ^^^ 2 ^ (10 + bit) := by
  have shifted : 2 ^ (24 + bit) / 2 ^ 14 = 2 ^ (10 + bit) := by
    rw [Nat.pow_div (by omega) (by decide)]
    congr 1
    omega
  have inside : 2 ^ (10 + bit) % 2 ^ 14 = 2 ^ (10 + bit) :=
    Nat.mod_eq_of_lt (Nat.pow_lt_pow_right (by decide) (by omega))
  rw [highest_toNat, highest_toNat, flipped.param1]
  change (_ ^^^ _) / 2 ^ 14 % 2 ^ 14 = _ / 2 ^ 14 % 2 ^ 14 ^^^ _
  rw [Nat.xor_div_two_pow, shifted, Nat.xor_mod_two_pow, inside]

theorem highest_ne (small : bit < 4) : changed.highest ≠ entry.highest := by
  intro same
  have value := flipped.highest small
  rw [same] at value
  have told := congrArg (Nat.testBit · (10 + bit)) value
  simp [Nat.testBit_two_pow_self] at told

end ClockEntry.Flipped

namespace Header

variable {header : Header} {position clock : Nat}

/-- The last clock entry is read over the last of the needed bytes. -/
theorem Valid.clockPlace_add_span (valid : header.Valid)
    (counted : position + 1 = header.recordCount.toNat)
    (listed : clock + 1 = header.clockCount.toNat) :
    header.clockPlace position clock + clockSpan = header.needed := by
  have ends := header.clockPlace_last position listed
  have size := valid.clockSize_le
  have some : header.clockCount ≠ 0 := by
    intro none
    rw [none] at listed
    cases listed
  have overrun : header.overrun = clockSpan - header.clockSize.toNat := if_neg some
  have total : header.readLength = header.recordsLength + header.overrun := rfl
  rw [counted] at ends
  change _ = headerLength + header.recordsLength at ends
  rw [valid.needed_eq]
  omega

theorem Valid.clockPlace_lt (valid : header.Valid) {earlier inner : Nat}
    (inside : inner < header.clockCount.toNat)
    (before : earlier < position ∨ earlier = position ∧ inner < clock) :
    header.clockPlace earlier inner < header.clockPlace position clock := by
  have size : 0 < header.clockSize.toNat := by
    rcases valid.clockSize_toNat with six | eight <;> omega
  rcases before with before | ⟨rfl, before⟩
  · have ends := header.clockPlace_le earlier inside
    have start := header.le_clockPlace position clock
    have rows : (earlier + 1) * header.stride ≤ position * header.stride :=
      Nat.mul_le_mul_right _ before
    omega
  · have entries : (inner + 1) * header.clockSize.toNat ≤ clock * header.clockSize.toNat :=
      Nat.mul_le_mul_right _ before
    rw [Nat.succ_mul] at entries
    rw [clockPlace, clockPlace]
    omega

theorem base_lt_clockPlace (header : Header) {position : Nat} (clock : Nat) {earlier byte : Nat}
    (before : earlier ≤ position) (inside : byte < header.baseSize.toNat) :
    headerLength + (earlier * header.stride + byte) < header.clockPlace position clock := by
  have rows : earlier * header.stride ≤ position * header.stride := Nat.mul_le_mul_right _ before
  rw [clockPlace]
  omega

end Header

section Last

variable {bytes : List UInt8} {bit : Nat} {table other : Table} (one : parse bytes = .ok table)
  (two : parse (flipBit (table.header.needed - 1) bit bytes) = .ok other)
  (header : other.header = table.header) {position clock : Nat}
  (counted : position + 1 = table.header.recordCount.toNat)
  (listed : clock + 1 = table.header.clockCount.toNat)

include one counted listed in
theorem getElem?_flipBit_needed {place : Nat}
    (before : place < table.header.clockPlace position clock + 7) :
    bytes[place]? = (flipBit (table.header.needed - 1) bit bytes)[place]? := by
  obtain ⟨_, valid, _⟩ := (parse_eq_ok_iff bytes table).mp one
  have ends := valid.clockPlace_add_span counted listed
  have span : clockSpan = 8 := rfl
  exact (getElem?_flipBit_of_ne (by omega)).symm

include one two header counted listed

theorem getElem?_records_flipBit {earlier : Nat} (before : earlier < position) :
    table.records[earlier]? = other.records[earlier]? := by
  obtain ⟨_, valid, _⟩ := (parse_eq_ok_iff bytes table).mp one
  apply getElem?_records_eq_of_bytes one two header
  · intro byte _ low
    have place := table.header.base_lt_clockPlace clock before.le low
    exact getElem?_flipBit_needed one counted listed (by omega)
  · intro inner low byte spanned
    have place : table.header.clockPlace earlier inner < table.header.clockPlace position clock :=
      valid.clockPlace_lt low (.inl before)
    have span : clockSpan = 8 := rfl
    exact getElem?_flipBit_needed one counted listed (by omega)

theorem flipped_of_flipBit (small : bit < 8) {record record' : Record}
    (present : table.records[position]? = some record)
    (there : other.records[position]? = some record') {entry changed : ClockEntry}
    (found : record.clocks[clock]? = some entry) (also : record'.clocks[clock]? = some changed) :
    entry.Flipped bit changed := by
  obtain ⟨_, valid, _⟩ := (parse_eq_ok_iff bytes table).mp one
  obtain ⟨_, param0, param1⟩ := words_at one present found
  obtain ⟨_, param0', param1'⟩ := words_at two there also
  rw [header] at param0' param1'
  -- All bytes but the last are the same.
  have byte (offset : Nat) (before : offset < 7) :
      bytes[table.header.clockPlace position clock + offset]? =
        (flipBit (table.header.needed - 1) bit bytes)[table.header.clockPlace position clock +
          offset]? :=
    getElem?_flipBit_needed one counted listed (by omega)
  constructor
  · have word := wordAt?_congr fun offset (low : offset < 4) => byte offset (by omega)
    have same := param0'.symm.trans (word.symm.trans param0)
    exact UInt32.toNat_inj.mp (Option.some.inj same)
  · obtain ⟨first, second, third, fourth, here, next, later, last, total⟩ :=
      wordAt?_eq_some_iff.mp param1
    have ends : table.header.clockPlace position clock + 4 + 3 = table.header.needed - 1 := by
      rw [← valid.clockPlace_add_span counted listed]
      rfl
    have turned := getElem?_flipBit_self bit (ends ▸ last)
    have word := wordAt?_eq_some_iff.mpr ⟨first, second, third, fourth ^^^ UInt8.ofNat (2 ^ bit),
      (byte 4 (by decide)).symm.trans here,
      (byte 5 (by decide)).symm.trans next,
      (byte 6 (by decide)).symm.trans later, ends ▸ turned, rfl⟩
    have value := Option.some.inj (param1'.symm.trans word)
    have power : (UInt8.ofNat (2 ^ bit)).toNat = 2 ^ bit :=
      UInt8.toNat_ofNat_of_lt' (Nat.pow_lt_pow_right (by decide) small)
    have low : first.toNat + 0x100 * second.toNat + 0x10000 * third.toNat < 2 ^ 24 := by
      have bounds := And.intro first.toNat_lt (And.intro second.toNat_lt third.toNat_lt)
      omega
    rw [value, ← total, UInt8.toNat_xor, power, Nat.add_comm, Nat.add_comm _ (_ * fourth.toNat)]
    exact two_pow_mul_add_xor low fourth.toNat bit

theorem last_record_flipBit (small : bit < 8) {record record' : Record}
    (present : table.records[position]? = some record)
    (there : other.records[position]? = some record') :
    ∃ clocks entry changed, record = { record with clocks := clocks ++ [entry] } ∧
      record' = { record with clocks := clocks ++ [changed] } ∧ entry.Flipped bit changed := by
  obtain ⟨_, valid, _⟩ := (parse_eq_ok_iff bytes table).mp one
  obtain ⟨level, flags, lowPower⟩ := base_eq_of_bytes one two header present there
    fun byte _ low => by
      have place := table.header.base_lt_clockPlace clock (Nat.le_refl position) low
      exact getElem?_flipBit_needed one counted listed (by omega)
  have length := length_clocks (List.mem_of_getElem? present)
  have length' := length_clocks (List.mem_of_getElem? there)
  rw [← listed] at length
  rw [header, ← listed] at length'
  have same (inner : Nat) (before : inner < clock) : record.clocks[inner]? = record'.clocks[inner]? := by
    apply getElem?_clocks_eq_of_bytes one two header present there (by omega)
    intro byte spanned
    have place : table.header.clockPlace position inner < table.header.clockPlace position clock :=
      valid.clockPlace_lt (listed ▸ Nat.lt_succ_of_lt before) (.inr ⟨rfl, before⟩)
    have span : clockSpan = 8 := rfl
    exact getElem?_flipBit_needed one counted listed (by omega)
  obtain ⟨clocks, entry, changed, split, split', found, also⟩ :=
    exists_concat_concat length length' same
  refine ⟨clocks, entry, changed, ?_, ?_,
    flipped_of_flipBit one two header counted listed small present there found also⟩
  · rw [← split]
  · rw [← split', level, flags, lowPower]

end Last

section Accepted

/-- The last byte that an accepted table needs is read: its lower four bits are upper bits of the
highest frequency in the last clock entry, and one of them the other way changes no other field. -/
theorem flipBit_last {bytes : List UInt8} {table : Table} (accepted : parse bytes = .ok table)
    (some : table.header.clockCount ≠ 0) {bit : Nat} (small : bit < 8) :
    ∃ other, parse (flipBit (table.header.needed - 1) bit bytes) = .ok other ∧
      other.header = table.header ∧
      ∃ (records : List Record) (record : Record) (clocks : List ClockEntry)
        (entry changed : ClockEntry),
        table.records = records ++ [{ record with clocks := clocks ++ [entry] }] ∧
        other.records = records ++ [{ record with clocks := clocks ++ [changed] }] ∧
        entry.Flipped bit changed := by
  obtain ⟨_, valid, _⟩ := (parse_eq_ok_iff bytes table).mp accepted
  obtain ⟨position, counted⟩ : ∃ position, table.header.recordCount.toNat = position + 1 :=
    Nat.exists_eq_add_one.mpr
      (Nat.pos_of_ne_zero fun none => valid.recordCount (UInt8.toNat_inj.mp none))
  obtain ⟨clock, listed⟩ : ∃ clock, table.header.clockCount.toNat = clock + 1 :=
    Nat.exists_eq_add_one.mpr (Nat.pos_of_ne_zero fun none => some (UInt8.toNat_inj.mp none))
  have behind : headerLength ≤ table.header.needed - 1 := by
    have ends := valid.clockPlace_add_span counted.symm listed.symm
    have start := table.header.le_clockPlace position clock
    have span : clockSpan = 8 := rfl
    omega
  obtain ⟨other, two, header⟩ := parse_flipBit bit accepted behind
  have length := length_records accepted
  have length' := length_records two
  rw [counted] at length
  rw [header, counted] at length'
  obtain ⟨records, record, record', split, split', present, there⟩ :=
    exists_concat_concat length length' fun _ before =>
      getElem?_records_flipBit accepted two header counted.symm listed.symm before
  obtain ⟨clocks, entry, changed, own, others, flipped⟩ :=
    last_record_flipBit accepted two header counted.symm listed.symm small present there
  refine ⟨other, two, header, records, record, clocks, entry, changed, ?_, ?_, flipped⟩
  · rw [← own, split]
  · rw [← others, split']

/-- The verdict on every text of bytes. Fewer than ten are refused as such; with ten or more the
header decides the first cause that applies, a lack of bytes the last, and without one there is a
table. More bytes behind change neither a refusal for any other cause nor a table, and as long as
there are too few they change only how many there are. The number of bytes that a table with clock
entries needs is no larger than it has to be: with one of the lower four bits of the last byte the
other way the table is still accepted, and the highest frequency in the last clock entry of the
last record is another one, all else being the same. -/
theorem parse_verdict (bytes : List UInt8) :
    (bytes.length < 10 → parse bytes = .error (.truncated 10 bytes.length)) ∧
    (10 ≤ bytes.length → ∃ header : Header, bytes.take 10 = header.bytes ∧
      parse bytes = judge (header.causes bytes.length)
        ⟨header, (bytes.drop 10).take (header.needed - 10)⟩) ∧
    (∀ suffix,
      (∀ cause, parse bytes = .error cause →
        (∀ needed available, cause ≠ .truncated needed available) →
        parse (bytes ++ suffix) = .error cause) ∧
      (∀ needed available, parse bytes = .error (.truncated needed available) →
        available = bytes.length ∧ ((bytes ++ suffix).length < needed →
          parse (bytes ++ suffix) = .error (.truncated needed (bytes ++ suffix).length))) ∧
      ∀ table, parse bytes = .ok table → parse (bytes ++ suffix) = .ok table) ∧
    ∀ table, parse bytes = .ok table → table.header.clockCount ≠ 0 → ∀ bit < 4,
      ∃ other, parse (flipBit (table.header.needed - 1) bit bytes) = .ok other ∧
        other.header = table.header ∧
        ∃ (records : List Record) (record : Record) (clocks : List ClockEntry)
          (entry changed : ClockEntry),
          table.records = records ++ [{ record with clocks := clocks ++ [entry] }] ∧
          other.records = records ++ [{ record with clocks := clocks ++ [changed] }] ∧
          changed.nominal = entry.nominal ∧ changed.lowest = entry.lowest ∧
          changed.highest.toNat = entry.highest.toNat ^^^ 2 ^ (10 + bit) ∧
          changed.highest ≠ entry.highest ∧ entry.Flipped bit changed := by
  refine ⟨parse_eq_of_short, ?_, fun suffix => ⟨?_, ?_, ?_⟩, ?_⟩
  · intro long
    obtain ⟨header, front⟩ := exists_header long
    exact ⟨header, front, parse_eq_judge front⟩
  · intro cause refused other
    exact parse_append_of_refused refused other suffix
  · intro needed available refused
    exact parse_append_of_truncated refused suffix
  · intro table accepted
    exact parse_append_of_ok accepted suffix
  · intro table accepted some bit small
    obtain ⟨other, two, header, records, record, clocks, entry, changed, split, split', flipped⟩ :=
      flipBit_last accepted some (Nat.lt_trans small (by decide))
    exact ⟨other, two, header, records, record, clocks, entry, changed, split, split',
      flipped.nominal, flipped.lowest, flipped.highest small, flipped.highest_ne small, flipped⟩

/-- One record of one clock entry of six bytes needs twenty-one bytes, two more than it has. The
lower four bits of the last of them are the upper bits of its highest frequency. -/
theorem parse_verdict_of_short_clock :
    let bytes : List UInt8 := [0x50, 10, 3, 1, 6, 1, 0, 0, 0, 0] ++
      [15, 1, 9, 0x20, 0x03, 0, 0, 0xc8, 0x00] ++ [0, 0x0c]
    let table : Table := ⟨⟨0x50, 10, 3, 1, 6, 1, 0, 0, 0, 0⟩, bytes.drop 10⟩
    parse (bytes.take 3) = .error (.truncated 10 3) ∧
    parse (bytes.take 19 ++ [0]) = .error (.truncated 21 20) ∧
    parse ([0x40] ++ bytes.drop 1 ++ [0xaa]) = .error (.unsupportedVersion 0x40) ∧
    parse (bytes ++ [0xaa]) = .ok table ∧
    ∃ other, parse (flipBit 20 3 bytes) = .ok other ∧ other.header = table.header ∧
      other.records ≠ table.records := by
  intro bytes table
  have accepted : parse bytes = .ok table := rfl
  have few : parse (bytes.take 19) = .error (.truncated 21 19) := rfl
  have unknown : parse ([0x40] ++ bytes.drop 1) = .error (.unsupportedVersion 0x40) := rfl
  obtain ⟨_, _, more, last⟩ := parse_verdict bytes
  obtain ⟨other, two, header, records, record, clocks, entry, changed, split, split', flipped⟩ :=
    last table accepted (by decide) 3 (by decide)
  refine ⟨(parse_verdict _).1 (by decide), ?_, ?_, (more [0xaa]).2.2 table accepted,
    other, two, header, ?_⟩
  · exact (((parse_verdict (bytes.take 19)).2.2.1 [0]).2.1 21 19 few).2 (by decide)
  · exact ((parse_verdict ([0x40] ++ bytes.drop 1)).2.2.1 [0xaa]).1 _ unknown (by simp)
  · intro same
    rw [split, split'] at same
    have records := List.append_cancel_left same
    simp only [List.cons.injEq, Record.mk.injEq, List.append_cancel_left_eq, and_true,
      true_and] at records
    exact flipped.2.2.2.1 (congrArg ClockEntry.highest records)

end Accepted

end PerfStates.Table
