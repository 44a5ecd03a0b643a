import PerfStates.Config
import PerfStates.Toml.Document

namespace PerfStates

namespace Config

open Toml

/-- The settings `names` of a table, or of an array that lists them by position;
a table must have no other key. -/
def settings? (names : List String) : Value → Option (List (Option Value))
  | .table _ entries =>
    if entries.all fun entry => names.contains entry.1 then
      some (names.map fun name => entries.lookup name)
    else none
  | .array items => some (names.mapIdx fun position _ => items[position]?)
  | .tables items =>
    some (names.mapIdx fun position _ => items[position]?.map (Value.table .header))
  | _ => none

/-- The value of a setting that may be left out. -/
def setting? {α : Type} (absent : α) (read : Value → Option α) : Option Value → Option α
  | none => some absent
  | some value => read value

def boolean? : Value → Option Bool
  | .boolean value => some value
  | _ => none

def natural? (bound : Nat) : Value → Option Nat
  | .integer value => if 0 ≤ value ∧ value < bound then some value.toNat else none
  | _ => none

def text? : Value → Option String
  | .string text => some text
  | _ => none

/-- Whether a value is a table or an array without anything in it. -/
def isEmpty : Value → Bool
  | .table _ entries => entries.isEmpty
  | .array items => items.isEmpty
  | .tables items => items.isEmpty
  | _ => false

/-- A clock kind: its name, or a table whose only entry has the name as its key and
nothing in its value. -/
def kind? : Value → Option ClockKind
  | .string text => ClockKind.ofName? text
  | .table _ [(name, content)] => if isEmpty content then ClockKind.ofName? name else none
  | _ => none

/-- The members of an array, however it is written. -/
def members? : Value → Option (List Value)
  | .array items => some items
  | .tables items => some (items.map (Value.table .header))
  | _ => none

/-- A clock domain; its name and number are required. -/
def clock? (value : Value) : Option ClockDomain := do
  match ← settings? ["name", "api_domain", "kind"] value with
  | [some name, some id, kind] =>
    let id ← natural? UInt32.size id
    return ⟨← text? name, ⟨UInt32.ofNat id⟩, ← setting? .master kind? kind⟩
  | _ => none

/-- The capabilities that are switched on. -/
def capabilities? (value : Value) : Option Capabilities := do
  let flags ← settings? ["vfe", "vf_point", "clk_freq_domain", "clk_freq_controller",
    "pmgr_domain", "lpwr_pg", "change_seq"] value
  let flags ← flags.mapM (setting? false boolean?)
  return Capabilities.ofList
    ((Capability.all.zip flags).filterMap fun (capability, on) =>
      if on then some capability else none)

def counts? : Value → Option (DomainMap Nat)
  | .table _ entries =>
    entries.foldlM (fun counts (name, value) => do
      let domain ← (Domain.ofName name).toOption
      return counts.insert domain (← natural? (1 <<< 63) value)) DomainMap.empty
  | _ => none

/-- The configuration that a document writes. -/
def ofDocument? (entries : Entries) : Option Config := do
  match ← settings? ["capabilities", "clk_domains", "domains", "mclk"]
      (.table .header entries) with
  | [capabilities, clocks, counts, memoryClock] =>
    return {
      capabilities := ← setting? .none capabilities? capabilities
      clocks := ← setting? [] (fun value => do (← members? value).mapM clock?) clocks
      counts := ← setting? .empty counts? counts
      memoryClock := ← setting? false boolean? memoryClock }
  | _ => none

/-- Read a configuration, and refuse an inconsistent one. -/
def ofText (text : String) : Except ConfigError Config :=
  match (document? text).bind ofDocument? with
  | none => .error .malformed
  | some config => do
    config.validate
    return config

end Config

end PerfStates
