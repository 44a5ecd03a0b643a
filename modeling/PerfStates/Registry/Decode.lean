import PerfStates.Registry
import PerfStates.Table

namespace PerfStates

namespace Table.ClockEntry

/-- The limits that the entry sets for `domain`. -/
def limitsFor (entry : ClockEntry) (domain : ClockDomain) : ClockLimits :=
  ⟨domain.id, entry.nominal, entry.lowest, entry.highest⟩

end Table.ClockEntry

namespace Registry

/-- Bind clock entries to the domains in the slots from `position` on. A state has room for
`Table.clockLimit` limits; `declared` is the number of entries that the table says it has. -/
def bindClocks {σ : Type} (clocks : Group ClockDomain) (declared : UInt8) (record ordinal : Nat) :
    Nat → List Table.ClockEntry → Attempt Message σ Failure (List ClockLimits)
  | _, [] => pure []
  | position, entry :: rest => do
    match clocks.get? position with
    | none => throw (.malformedTable (.noClockDomain record position))
    | some domain =>
      let limits := entry.limitsFor domain
      Attempt.log .debug (s!"P{ordinal} " ++ domain.name ++
        s!": nominal {limits.nominal} MHz, min {limits.lowest} MHz, max {limits.highest} MHz")
      if Table.clockLimit ≤ position then throw (.malformedTable (.tooManyClocks declared))
      return limits :: (← bindClocks clocks declared record ordinal (position + 1) rest)

/-- Decode one record into the slot of its position; gives the number of states stored. -/
def loadRecord (clocks : Group ClockDomain) (declared : UInt8) (position : Nat)
    (record : Table.Record) : Attempt Message Registry Failure Nat := do
  if record.isSkipped then
    Attempt.log .debug s!"perf entry {position}: skipped"
    return 0
  match record.ordinal? with
  | none => throw (.malformedTable (.invalidLevel position record.level))
  | some ordinal =>
    let limits ← bindClocks clocks declared position ordinal 0 record.clocks
    let registry ← Attempt.get
    let stored ← Attempt.ofExcept (registry.store position ⟨ordinal, limits, record.lowPower⟩)
    Attempt.modify fun _ => stored
    Attempt.log .info s!"P{ordinal} decoded from perf entry {position}"
    return 1

/-- Decode records in order, the first into the slot `position`. -/
def loadRecords (clocks : Group ClockDomain) (declared : UInt8) :
    Nat → List Table.Record → Attempt Message Registry Failure Nat
  | _, [] => pure 0
  | position, record :: rest => do
    let stored ← loadRecord clocks declared position record
    return stored + (← loadRecords clocks declared (position + 1) rest)

/-- Decode the table in `bytes` and give the number of states stored. A table that is
refused outright leaves the registry alone, and its lock is not even tried. -/
def load (clocks : Group ClockDomain) (bytes : List UInt8) :
    Attempt Message Registry Failure Nat := do
  let table ← Attempt.mapError .malformedTable (Attempt.ofExcept (Table.parse bytes))
  let header := table.header
  Attempt.log .debug ("perf table v" ++ Text.hexWord 2 header.version.toNat ++
    s!": {header.recordCount} entries of {header.baseSize}+{header.clockCount}x{header.clockSize} bytes")
  Attempt.ofExcept (← Attempt.get).lock
  loadRecords clocks header.clockCount 0 table.records

/-- A registry made from the table of a firmware image. When the image has none, or
it does not decode, the registry that was begun is taken down again. -/
def ofFirmware {σ : Type} (clocks : Group ClockDomain) (image : Option (List UInt8)) :
    Attempt Message σ Failure Registry := do
  let start ← Attempt.ofAction Registry.construct
  let decode : Attempt Message Registry Failure Nat :=
    match image with
    | some bytes => load clocks bytes
    | none => throw (.malformedTable .missing)
  let (ending, registry) ← Attempt.ofAction (Action.onOwn start (Attempt.outcome decode))
  match ending with
  | .ok levels =>
    Attempt.log .info s!"pstate table decoded: {levels} levels"
    return registry
  | .error failure =>
    Attempt.log .error ("pstate table decode failed: " ++ failure.message)
    Attempt.ofAction registry.destroy
    throw failure

end Registry

end PerfStates
