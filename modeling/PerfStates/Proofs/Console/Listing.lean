import Mathlib.Data.List.Basic
import PerfStates.Listing
import PerfStates.Proofs.Config.Distinct
import PerfStates.Proofs.Registry.Lookup

namespace PerfStates.Listing

open Table (Record ClockEntry)

end PerfStates.Listing
