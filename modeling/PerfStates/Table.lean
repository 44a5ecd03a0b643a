import PerfStates.Table.Record

namespace PerfStates

/-- A table whose header is valid and whose records are all present. -/
structure Table where
  header : Table.Header
  area : List UInt8
deriving DecidableEq, Repr

namespace Table

/-- The table in `bytes`. The header is checked first, then the length; what lies
after the last byte read is ignored. -/
def parse (bytes : List UInt8) : Except TableError Table := do
  let header ← Header.read bytes
  header.validate
  let start := header.headerSize.toNat
  let needed := start + header.readLength
  if bytes.length < needed then throw (.truncated needed bytes.length)
  return ⟨header, (bytes.drop start).take header.readLength⟩

/-- Every record, skipped ones included, in table order. -/
def records (table : Table) : List Record :=
  Record.readMany table.header table.header.recordCount.toNat table.area

end Table

end PerfStates
