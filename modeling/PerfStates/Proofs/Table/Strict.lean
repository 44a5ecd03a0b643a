import PerfStates.Proofs.Table.Accepted

/-! Readers that make up no byte: where the walk over a table would pad, fall back or stop
early, they find nothing. Given all the bytes they agree with it. -/

namespace PerfStates.Table

/-- The little-endian value of the four bytes at `place`, if they are all there. -/
def wordAt? (bytes : List UInt8) (place : Nat) : Option Nat := do
  let first ← bytes[place]?
  let second ← bytes[place + 1]?
  let third ← bytes[place + 2]?
  let fourth ← bytes[place + 3]?
  return first.toNat + 0x100 * second.toNat + 0x10000 * third.toNat + 0x1000000 * fourth.toNat

/-- What lies behind the first `count` bytes, if there are that many. -/
def past? (count : Nat) (bytes : List UInt8) : Option (List UInt8) :=
  if count ≤ bytes.length then some (bytes.drop count) else none

namespace ClockEntry

/-- The entry at the front of `bytes`, if both of its words are there. -/
def read? (bytes : List UInt8) : Option ClockEntry := do
  let param0 ← wordAt? bytes 0
  let param1 ← wordAt? (← past? 4 bytes) 0
  return ⟨UInt32.ofNat param0, UInt32.ofNat param1⟩

/-- `count` entries, each `size` bytes after the last, if none of their bytes is missing. -/
def readMany? (size : Nat) : Nat → List UInt8 → Option (List ClockEntry)
  | 0, _ => some []
  | count + 1, bytes => do
    let entry ← read? bytes
    let rest ← past? size bytes
    return entry :: (← readMany? size count rest)

end ClockEntry

namespace Record

/-- The low-power index of the record at the front of `bytes`, zero if its base part has none. -/
def lowPower? (header : Header) (bytes : List UInt8) : Option UInt8 :=
  if 2 < header.baseSize then bytes[2]? else some 0

/-- The record at the front of `bytes`, if none of its bytes is missing. -/
def read? (header : Header) (bytes : List UInt8) : Option Record := do
  let level ← bytes[0]?
  let flags ← bytes[1]?
  let lowPower ← lowPower? header bytes
  let area ← past? header.baseSize.toNat bytes
  let clocks ← ClockEntry.readMany? header.clockSize.toNat header.clockCount.toNat area
  return ⟨level, flags, lowPower, clocks⟩

end Record

/-- The records of a table from `position` on with their positions, each read where its position
says, if none of their bytes is missing. -/
def entriesFrom? (header : Header) (area : List UInt8) :
    Nat → Nat → Option (List (Nat × Record))
  | _, 0 => some []
  | position, count + 1 => do
    let record ← Record.read? header (← past? (position * header.stride) area)
    return (position, record) :: (← entriesFrom? header area (position + 1) count)

/-- Every record with its position, if none of their bytes is missing. -/
def entries? (table : Table) : Option (List (Nat × Record)) :=
  entriesFrom? table.header table.area 0 table.header.recordCount.toNat

theorem wordAt?_eq_some {bytes : List UInt8} {place : Nat} (inside : place + 4 ≤ bytes.length) :
    wordAt? bytes place = some (word (bytes.drop place)).toNat := by
  have byte (offset : Nat) (below : offset < 4) :
      bytes[place + offset]? = some ((bytes.drop place)[offset]?.getD 0) := by
    rw [List.getElem?_drop, List.getElem?_eq_getElem (by omega), Option.getD_some]
  have first := byte 0 (by decide)
  rw [Nat.add_zero] at first
  have small (offset : Nat) := ((bytes.drop place)[offset]?.getD 0).toNat_lt
  have lowest := small 0
  have lower := small 1
  have upper := small 2
  have highest := small 3
  simp only [wordAt?, first, byte 1, byte 2, byte 3, Nat.reduceLT, Option.bind_eq_bind,
    Option.bind_some, Option.pure_def, word]
  rw [UInt32.toNat_ofNat_of_lt']
  change _ < 4294967296
  omega

theorem ClockEntry.read?_eq_some {bytes : List UInt8} (enough : clockSpan ≤ bytes.length) :
    read? bytes = some (read bytes) := by
  have room : 8 ≤ bytes.length := enough
  have first : wordAt? bytes 0 = some (word bytes).toNat := wordAt?_eq_some (by omega)
  have second : wordAt? (bytes.drop 4) 0 = some (word (bytes.drop 4)).toNat := by
    apply wordAt?_eq_some
    rw [List.length_drop]
    omega
  have there : past? 4 bytes = some (bytes.drop 4) := if_pos (by omega)
  simp [read?, read, there, first, second]

theorem ClockEntry.readMany?_eq_some {size count : Nat} {bytes : List UInt8}
    (spans : ∀ clock < count, clock * size + clockSpan ≤ bytes.length)
    (total : count * size ≤ bytes.length) :
    readMany? size count bytes = some (readMany size count bytes) := by
  induction count generalizing bytes with
  | zero => rfl
  | succ count ih =>
    have first : clockSpan ≤ bytes.length := by
      have span := spans 0 (Nat.succ_pos count)
      rwa [Nat.zero_mul, Nat.zero_add] at span
    have expand : (count + 1) * size = count * size + size := Nat.succ_mul count size
    have there : past? size bytes = some (bytes.drop size) := if_pos (by omega)
    have rest : readMany? size count (bytes.drop size) =
        some (readMany size count (bytes.drop size)) := by
      apply ih
      · intro clock below
        have span := spans (clock + 1) (Nat.succ_lt_succ below)
        rw [Nat.succ_mul] at span
        rw [List.length_drop]
        omega
      · rw [List.length_drop]
        omega
    simp [readMany?, readMany, read?_eq_some first, there, rest]

/-- A record whose bytes are all there is read without padding. -/
theorem Record.read?_eq_some {header : Header} (valid : header.Valid) {bytes : List UInt8}
    (whole : header.stride ≤ bytes.length)
    (spans : ∀ clock < header.clockCount.toNat,
      header.baseSize.toNat + clock * header.clockSize.toNat + clockSpan ≤ bytes.length) :
    read? header bytes = some (read header bytes) := by
  have base := valid.two_le_baseSize
  have part : header.baseSize.toNat + header.clockCount.toNat * header.clockSize.toNat ≤
      bytes.length := whole
  have byte (place : Nat) (below : place < header.baseSize.toNat) :
      ∃ value, bytes[place]? = some value := ⟨_, List.getElem?_eq_getElem (by omega)⟩
  obtain ⟨level, first⟩ := byte 0 (by omega)
  obtain ⟨flags, second⟩ := byte 1 (by omega)
  have lowPower : lowPower? header bytes =
      some (if 2 < header.baseSize then bytes[2]?.getD 0 else 0) := by
    rw [lowPower?]
    split
    · rename_i large
      obtain ⟨index, third⟩ := byte 2 (UInt8.lt_iff_toNat_lt.mp large)
      rw [third, Option.getD_some]
    · rfl
  have there : past? header.baseSize.toNat bytes = some (bytes.drop header.baseSize.toNat) :=
    if_pos (by omega)
  have clocks : ClockEntry.readMany? header.clockSize.toNat header.clockCount.toNat
      (bytes.drop header.baseSize.toNat) =
      some (ClockEntry.readMany header.clockSize.toNat header.clockCount.toNat
        (bytes.drop header.baseSize.toNat)) := by
    apply ClockEntry.readMany?_eq_some
    · intro clock below
      have span := spans clock below
      rw [List.length_drop]
      omega
    · rw [List.length_drop]
      omega
  simp only [read?, read, first, second, lowPower, there, clocks, Option.bind_eq_bind,
    Option.bind_some, Option.pure_def, Option.getD_some]

end PerfStates.Table
