import PerfStates.Journal.Lemmas
import PerfStates.Main
import PerfStates.Proofs.Bringup.Lifecycle
import PerfStates.Proofs.Registry.Loading
import PerfStates.Proofs.Module.Configured
import PerfStates.Proofs.Module.Interleaving
import PerfStates.Proofs.Table.Layout
import PerfStates.Proofs.Board.Scan
import PerfStates.Proofs.Config.Distinct
import PerfStates.Proofs.Registry.Lookup
import PerfStates.Proofs.Registry.Retrieval
import PerfStates.Proofs.Registry.Runs
import PerfStates.Proofs.Bringup.Lookups
import PerfStates.Proofs.Bringup.Verdict
import PerfStates.Proofs.Bringup.Order
import PerfStates.Proofs.Bringup.Constructed
import PerfStates.Proofs.Bringup.Capabilities
import PerfStates.Proofs.Board.Marked
import PerfStates.Proofs.Board.Refinement
import PerfStates.Proofs.Table.Image
import PerfStates.Proofs.Console.Agreement
import PerfStates.Proofs.Table.Locality
import PerfStates.Proofs.Registry.Tampering
import PerfStates.Proofs.Table.Verdict
import PerfStates.Proofs.Registry.Reloading
import PerfStates.Proofs.Config.Faults
import PerfStates.Proofs.Registry.Queries
import PerfStates.Proofs.Board.Tags
