import PerfStates.Config.Schema
import PerfStates.Listing
import PerfStates.Support.Bringup

/-! The commands of the console: list the states of a performance table, or try a
whole bring-up against a loopback unit. A command reads both of its files before it
starts; a line that it prints is an entry of its journal like any other. -/

namespace PerfStates.Console

/-- What a command is asked to do. -/
inductive Task
  /-- List the states of the table. -/
  | decode
  /-- Run both phases and list the states and the commands sent. -/
  | bringup
deriving DecidableEq, Repr

/-- The two files of a command by name. -/
structure Paths where
  config : String
  table : String

/-- What reading the two files gave. -/
structure Files where
  config : Except ReadError ByteArray
  table : Except ReadError ByteArray

/-- Lines as they are printed, each with its end. -/
def printed (lines : List String) : String := String.join (lines.map (· ++ "\n"))

/-- A failed command: what it was doing, and why that failed, nearest cause first. -/
structure Report where
  doing : String
  causes : List String
deriving DecidableEq, Repr

namespace Report

/-- A failure of the subsystem while `doing` something. -/
def ofFailure (doing : String) (failure : Failure) : Report :=
  ⟨doing, failure.message :: failure.causes⟩

/-- A line for each cause under a heading; several causes are numbered. -/
def causeLines : List String → List String
  | [] => []
  | [cause] => ["", "Caused by:", "    " ++ cause]
  | causes => "" :: "Caused by:" :: causes.mapIdx fun position cause =>
    Text.padLeft 5 ' ' (toString position) ++ ": " ++ cause

def describe (report : Report) : String :=
  printed (("Error: " ++ report.doing) :: causeLines report.causes)

end Report

def textOf (bytes : ByteArray) : Except ReadError String :=
  match String.fromUTF8? bytes with
  | some text => .ok text
  | none => .error .notText

def readConfig (path : String) (file : Except ReadError ByteArray) : Except Report Config :=
  let config : Except ConfigError Config := do
    let text ← (file.bind textOf).mapError (ConfigError.unreadable path)
    Config.ofText text
  config.mapError fun error => ⟨"load config " ++ path, error.message :: error.causes⟩

def readTable (path : String) (file : Except ReadError ByteArray) :
    Except Report (List UInt8) :=
  match file with
  | .ok bytes => .ok bytes.toList
  | .error cause => .error ⟨"read perf table " ++ path, [cause.message]⟩

/-- What the journal of a command notes: what the parts of the subsystem note, and the lines that
the command prints. -/
inductive Entry
  | event (inner : Event)
  | line (text : String)
deriving DecidableEq, Repr

namespace Entry

def ofMessage (message : Message) : Entry := event (.note message)

def message? : Entry → Option Message
  | event inner => inner.message?
  | line _ => none

def line? : Entry → Option String
  | event _ => none
  | line text => some text

end Entry

/-- Print lines one after the other. -/
def print {σ : Type} (lines : List String) : Attempt Entry σ Report Unit :=
  lines.forM fun text => Attempt.record (.line text)

/-- Run a part of a command and say what it was doing should it fail. -/
def part {ω σ α : Type} (doing : String) (restate : ω → Entry) (attempt : Attempt ω σ Failure α) :
    Attempt Entry σ Report α :=
  Attempt.mapError (Report.ofFailure doing) (Attempt.relay restate attempt)

/-- List the states of a registry. -/
def listStates {σ : Type} (config : Config) (registry : Registry) :
    Attempt Entry σ Report Unit := do
  let states ← Attempt.mapError (fun failure => ⟨failure.message, failure.causes⟩)
    (Attempt.ofExcept registry.snapshot)
  print (Listing.pstates config.clocks states)

/-- Decode the table against the configured clock domains and list its states. -/
def decode (config : Config) (table : List UInt8) :
    Attempt Entry (ClockModule × Workspace Loopback) Report Unit := do
  Attempt.mapError (fun error => ⟨"build clock domains", [error.message]⟩)
    (Attempt.relay .ofMessage (DomainModule.setUpSoftware config.capabilities))
  let registry ← part "decode perf table" .ofMessage
    (Registry.ofFirmware (← Attempt.get).2.clocks (some table))
  listStates config registry
  Attempt.ofAction (Action.relay .ofMessage registry.destroy)

/-- Run both phases, then list the states and the commands sent. -/
def bringup (config : Config) : Attempt Entry (Support BuiltinModule Loopback) Report Unit := do
  part "software phase" .event Support.softwarePhase
  part "pmu phase" .event Support.pmuPhase
  let support ← Attempt.get
  match support.registry with
  | some registry => listStates config registry
  | none => pure ()
  print (support.workspace.channel.sent.map Listing.commandLine)
  Attempt.ofAction (Action.relay .event Support.tearDown)

/-- How a task ends once its files are read, and its journal. -/
def perform (task : Task) (config : Config) (table : List UInt8) :
    Except Report Unit × List Entry :=
  match task with
  | .decode =>
    let outcome := (decode config table).run (.start config.clocks, .start .accepting)
    (outcome.value, outcome.journal)
  | .bringup =>
    let outcome := (bringup config).run (Support.ofConfig config .accepting (some table))
    (outcome.value, outcome.journal)

/-- How a command ends: its exit code, its two outputs, and what it noted on the way. -/
structure Exit where
  code : Nat
  output : String
  errors : String
  journal : List Message

/-- What is seen of a command from its ending and its journal. -/
def Exit.of : Except Report Unit × List Entry → Exit
  | (ending, journal) =>
    { code := match ending with
        | .ok () => 0
        | .error _ => 1
      output := printed (journal.filterMap Entry.line?)
      errors := match ending with
        | .ok () => ""
        | .error report => report.describe
      journal := journal.filterMap Entry.message? }

/-- Run a command on the files it was given. -/
def run (task : Task) (paths : Paths) (files : Files) : Exit :=
  let inputs : Except Report (Config × List UInt8) := do
    let config ← readConfig paths.config files.config
    return (config, ← readTable paths.table files.table)
  match inputs with
  | .error report => .of (.error report, [])
  | .ok (config, table) => .of (perform task config table)

end PerfStates.Console
