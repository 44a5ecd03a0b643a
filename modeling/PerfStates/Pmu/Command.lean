import PerfStates.Board.SlotMask
import PerfStates.Domain

namespace PerfStates

/-- A request to put configured state into effect. -/
inductive Load
  | volt
  | clkVin
  | clkDomains
  | vfe
deriving DecidableEq, Repr

namespace Load

def all : List Load := [volt, clkVin, clkDomains, vfe]

def name : Load → String
  | volt => "VOLT"
  | clkVin => "CLK_VIN"
  | clkDomains => "CLK_DOMAINS"
  | vfe => "VFE"

/-- The name with each of its words capitalised and no underscores. -/
def title : Load → String
  | volt => "Volt"
  | clkVin => "ClkVin"
  | clkDomains => "ClkDomains"
  | vfe => "Vfe"

end Load

/-- What a command addresses. -/
inductive Target
  | domain (domain : Domain)
  | load (load : Load)
deriving DecidableEq, Repr

/-- A request to the unit. -/
inductive Command
  /-- Replace the unit's copy of the domain's group; `mask` names its live slots. -/
  | setGroup (domain : Domain) (mask : SlotMask)
  /-- Program the memory clock. -/
  | initMemoryClock
  /-- Put configured state into effect. -/
  | load (load : Load)
deriving DecidableEq, Repr

namespace Command

/-- The part of the unit that the command addresses. -/
def target : Command → Target
  | setGroup domain _ => .domain domain
  | initMemoryClock => .domain .mclk
  | load which => .load which

def describe : Command → String
  | setGroup domain mask =>
    "BoardObjGrpSet \x7b domain: " ++ domain.title ++ ", mask: " ++ mask.describe ++ " \x7d"
  | initMemoryClock => "MclkInit"
  | load which => "Load(" ++ which.title ++ ")"

end Command

end PerfStates
