import PerfStates.Console

namespace PerfStates.Console

/-- The text for arguments that make no sense. -/
def usage : String :=
  "Usage: pstates [--log-level LEVEL] (decode | bringup) --config FILE --table FILE\n\n"
    ++ "  decode   list every state of a performance table\n"
    ++ "  bringup  run both bring-up phases against a loopback unit\n"

structure Invocation where
  /-- The least severe level of messages to print, if any are wanted. -/
  level : Option Level
  task : Task
  paths : Paths

def levelOf? (name : String) : Option Level :=
  [Level.error, .warn, .info, .debug, .trace].find? fun level => level.name.toLower == name

/-- The two files, in either order. -/
def paths? : List String → Option Paths
  | ["--config", config, "--table", table] => some ⟨config, table⟩
  | ["--table", table, "--config", config] => some ⟨config, table⟩
  | _ => none

/-- A task and its files. -/
def taskOf? (level : Option Level) : List String → Option Invocation
  | "decode" :: rest => (paths? rest).map (⟨level, .decode, ·⟩)
  | "bringup" :: rest => (paths? rest).map (⟨level, .bringup, ·⟩)
  | _ => none

/-- Read the arguments; unless a level is named, messages down to `info` are wanted. -/
def parse? : List String → Option Invocation
  | "--log-level" :: name :: rest => taskOf? (levelOf? name) rest
  | arguments => taskOf? (some .info) arguments

/-- The lines for the messages that are no less severe than the level. -/
def messageLines (level : Option Level) (journal : List Message) : List String :=
  match level with
  | none => []
  | some level =>
    (journal.filter fun message => message.level.rank ≤ level.rank).map fun message =>
      message.level.name ++ " " ++ message.text

end PerfStates.Console
