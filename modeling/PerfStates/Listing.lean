import PerfStates.Support

namespace PerfStates.Listing

/-- The name of the first configured clock domain with the given number. -/
def clockName (clocks : List ClockDomain) (clock : ClockId) : String :=
  ((clocks.find? fun domain => domain.id = clock).map ClockDomain.name).getD "?"

def megahertz (value : Nat) : String := Text.padLeft 5 ' ' (toString value) ++ " MHz"

/-- The line of one clock of a state. -/
def clockLine (clocks : List ClockDomain) (limits : ClockLimits) : String :=
  "  " ++ Text.padRight 12 (clockName clocks limits.clock)
    ++ " nominal=" ++ megahertz limits.nominal.toNat
    ++ " min=" ++ megahertz limits.lowest.toNat
    ++ " max=" ++ megahertz limits.highest.toNat

/-- The lines of one state: its place and ordinal, then its clocks. -/
def pstateLines (clocks : List ClockDomain) (slot : Nat) (state : Pstate) : List String :=
  s!"entry {slot}: P{state.ordinal} lpwr={state.lowPower}"
    :: state.clocks.map (clockLine clocks)

/-- The lines of every state, in the order given. -/
def pstates (clocks : List ClockDomain) (states : List (Nat × Pstate)) : List String :=
  states.flatMap fun (slot, state) => pstateLines clocks slot state

def commandLine : Command → String
  | .setGroup domain mask =>
    "pmu set " ++ domain.name ++ " mask=" ++ Text.bracketed (mask.toList.map toString)
  | .initMemoryClock => "pmu init " ++ Domain.mclk.name
  | .load which => "pmu load " ++ which.name

end PerfStates.Listing
