import PerfStates.Table.Header

/-! The records of a performance table, read off the bytes after the header. Each
record has a base part and a run of clock entries of the declared size; a clock
entry is read over eight bytes, so short ones reach into the bytes that follow. -/

namespace PerfStates.Table

/-- The level byte of a record that describes no performance level. -/
def skipLevel : UInt8 := 0xff

/-- The highest level a record may have; its ordinal is zero. -/
def topLevel : UInt8 := 15

/-- The little-endian word at the front of `bytes`; a byte past the end counts as zero. -/
def word (bytes : List UInt8) : UInt32 :=
  let byte (position : Nat) : Nat := (bytes[position]?.getD 0).toNat
  UInt32.ofNat (byte 0 + 0x100 * byte 1 + 0x10000 * byte 2 + 0x1000000 * byte 3)

/-- The two parameter words of a clock entry. -/
structure ClockEntry where
  param0 : UInt32
  param1 : UInt32
deriving DecidableEq, Repr

namespace ClockEntry

/-- The nominal frequency in MHz, the low fourteen bits of the first word. -/
def nominal (entry : ClockEntry) : UInt32 := entry.param0 &&& 0x3fff

/-- The lowest frequency in MHz, the low fourteen bits of the second word. -/
def lowest (entry : ClockEntry) : UInt16 := (entry.param1 &&& 0x3fff).toUInt16

/-- The highest frequency in MHz, the next fourteen bits of the second word. -/
def highest (entry : ClockEntry) : UInt16 := ((entry.param1 &&& 0xfffc000) >>> 14).toUInt16

def read (bytes : List UInt8) : ClockEntry := ⟨word bytes, word (bytes.drop 4)⟩

/-- `count` entries, the first at the front of `bytes` and each `size` bytes after the last. -/
def readMany (size : Nat) : Nat → List UInt8 → List ClockEntry
  | 0, _ => []
  | count + 1, bytes => read bytes :: readMany size count (bytes.drop size)

end ClockEntry

/-- One record of the table. -/
structure Record where
  level : UInt8
  flags : UInt8
  lowPower : UInt8
  clocks : List ClockEntry
deriving DecidableEq, Repr

namespace Record

/-- Whether the record describes no performance level. -/
def isSkipped (record : Record) : Bool := record.level = skipLevel

/-- The ordinal of the record's level, counted down from the top level. -/
def ordinal? (record : Record) : Option Nat :=
  if record.level ≤ topLevel then some (topLevel.toNat - record.level.toNat) else none

/-- The record at the front of `bytes`; a base part of two bytes has no low-power index. -/
def read (header : Header) (bytes : List UInt8) : Record where
  level := bytes[0]?.getD 0
  flags := bytes[1]?.getD 0
  lowPower := if 2 < header.baseSize then bytes[2]?.getD 0 else 0
  clocks := ClockEntry.readMany header.clockSize.toNat header.clockCount.toNat
    (bytes.drop header.baseSize.toNat)

/-- Up to `count` records, the first at the front of `bytes` and each a stride after the last.
The walk ends early where less than a stride is left. -/
def readMany (header : Header) : Nat → List UInt8 → List Record
  | 0, _ => []
  | count + 1, bytes =>
    read header bytes ::
      if header.stride ≤ bytes.length then readMany header count (bytes.drop header.stride)
      else []

end Record

end PerfStates.Table
