import PerfStates.Console
import PerfStates.Proofs.Bringup.Complete
import PerfStates.Proofs.Console.Listing
import PerfStates.Proofs.Console.Printing

/-! How the two commands of the console agree. Decoding the table by itself and bringing
the subsystem up build the same clock group and the same registry, so the longer command
prints what the shorter one does and fails where that one fails. -/

namespace PerfStates

namespace Registry

end Registry

namespace Config

variable {config : Config} {image : Option (List UInt8)}

end Config

namespace Support

variable {config : Config} {image : Option (List UInt8)}

end Support

namespace Console

section Exits

variable {outcome : Except Report Unit × List Entry}

end Exits

section Listings

variable {clocks : Group ClockDomain} {image : Option (List UInt8)} {registry : Registry}
  (config : Config) (made : Registry.decoded clocks image = .ok registry)

include made

end Listings

variable {config : Config} {table : List UInt8}

end Console

end PerfStates
