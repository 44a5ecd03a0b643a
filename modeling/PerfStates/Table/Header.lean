import PerfStates.Text.Numeral

namespace PerfStates

/-- Why a performance table is refused. -/
inductive TableError
  | missing
  | truncated (needed available : Nat)
  | unsupportedVersion (version : UInt8)
  | headerSize (size : UInt8)
  | noRecords
  | baseSize (version size : UInt8)
  | clockSize (size : UInt8)
  | tooManyClocks (count : UInt8)
  | invalidLevel (record : Nat) (level : UInt8)
  | noClockDomain (record clock : Nat)
deriving DecidableEq, Repr

def TableError.message : TableError → String
  | missing => "performance table not found"
  | truncated needed available => s!"truncated table: need {needed} bytes, have {available}"
  | unsupportedVersion version =>
    "unknown/unsupported performance table version " ++ Text.hexWord 2 version.toNat
  | headerSize size => "unsupported header size " ++ toString size.toNat
  | noRecords => "table declares no base entries"
  | baseSize version size =>
    "base entry size " ++ toString size.toNat ++ " not accepted for version "
      ++ Text.hexWord 2 version.toNat
  | clockSize size => "unsupported clock entry size " ++ toString size.toNat
  | tooManyClocks count => "clock entry count " ++ toString count.toNat ++ " exceeds 32"
  | invalidLevel record level =>
    s!"record {record} has invalid pstate level " ++ Text.hexWord 2 level.toNat
  | noClockDomain record clock =>
    s!"record {record} clock entry {clock} has no matching clock domain"

namespace Table

/-- The bytes a header takes. -/
def headerLength : Nat := 10

/-- The most clock entries a record may have. -/
def clockLimit : Nat := 32

/-- The bytes a clock entry is read over, whatever its declared size. -/
def clockSpan : Nat := 8

structure Header where
  version : UInt8
  headerSize : UInt8
  baseSize : UInt8
  recordCount : UInt8
  clockSize : UInt8
  clockCount : UInt8
  flags : UInt8
  initialPstate : UInt8
  cpiSupportLevel : UInt8
  cpiFeatures : UInt8
deriving DecidableEq, Repr

namespace Header

/-- The header at the front of `bytes`, taken as it stands. -/
def read : List UInt8 → Except TableError Header
  | version :: headerSize :: baseSize :: recordCount :: clockSize :: clockCount :: flags ::
      initialPstate :: cpiSupportLevel :: cpiFeatures :: _ =>
    .ok ⟨version, headerSize, baseSize, recordCount, clockSize, clockCount, flags,
      initialPstate, cpiSupportLevel, cpiFeatures⟩
  | bytes => .error (.truncated headerLength bytes.length)

def bytes (header : Header) : List UInt8 :=
  [header.version, header.headerSize, header.baseSize, header.recordCount, header.clockSize,
    header.clockCount, header.flags, header.initialPstate, header.cpiSupportLevel,
    header.cpiFeatures]

/-- The base sizes that a table version allows, if the version is known. -/
def baseSizes? (version : UInt8) : Option (List UInt8) :=
  if version = 0x50 then some [2, 3]
  else if version = 0x60 then some [2, 3, 5]
  else none

/-- The first check that the header fails, or nothing. -/
def validate (header : Header) : Except TableError Unit :=
  match baseSizes? header.version with
  | none => .error (.unsupportedVersion header.version)
  | some sizes =>
    if header.headerSize ≠ 10 then .error (.headerSize header.headerSize)
    else if header.recordCount = 0 then .error .noRecords
    else if header.baseSize ∉ sizes then .error (.baseSize header.version header.baseSize)
    else if header.clockSize ∉ [6, 8] then .error (.clockSize header.clockSize)
    else if clockLimit < header.clockCount.toNat then .error (.tooManyClocks header.clockCount)
    else .ok ()

def stride (header : Header) : Nat :=
  header.baseSize.toNat + header.clockCount.toNat * header.clockSize.toNat

def recordsLength (header : Header) : Nat := header.recordCount.toNat * header.stride

/-- The bytes read past the last record, as a clock entry is read over its full span. -/
def overrun (header : Header) : Nat :=
  if header.clockCount = 0 then 0 else clockSpan - header.clockSize.toNat

def readLength (header : Header) : Nat := header.recordsLength + header.overrun

end Header

end Table

end PerfStates
