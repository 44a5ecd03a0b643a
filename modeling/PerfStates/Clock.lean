import PerfStates.Board.Group

namespace PerfStates

/-- The number by which the interface knows a clock domain. -/
structure ClockId where
  value : UInt32
deriving DecidableEq, Repr

def ClockId.describe (id : ClockId) : String := Text.hex id.value.toNat

/-- How a clock domain is programmed. -/
inductive ClockKind
  | fixed
  | master
  | slave
deriving DecidableEq, Repr

namespace ClockKind

def all : List ClockKind := [fixed, master, slave]

def tag : ClockKind → UInt8
  | fixed => 1
  | master => 2
  | slave => 3

def name : ClockKind → String
  | fixed => "fixed"
  | master => "master"
  | slave => "slave"

def title : ClockKind → String
  | fixed => "Fixed"
  | master => "Master"
  | slave => "Slave"

def ofName? (text : String) : Option ClockKind := all.find? fun kind => kind.name == text

end ClockKind

structure ClockDomain where
  name : String
  id : ClockId
  kind : ClockKind
deriving DecidableEq, Repr

namespace ClockDomain

instance : BoardObject ClockDomain where
  tag domain := domain.kind.tag
  types domain := (TypeMask.of superType).insert domain.kind.tag

/-- The lowest slot that holds a clock domain called `name`, with its number. -/
def findByName? (clocks : Group ClockDomain) (name : String) : Option (Nat × ClockId) :=
  (clocks.toList.find? fun (_, domain) => domain.name == name).map
    fun (slot, domain) => (slot, domain.id)

end ClockDomain

end PerfStates
