namespace PerfStates.Toml

/-- How a table came about. -/
inductive Origin
  /-- By a header of its own, or as the whole document. -/
  | header
  /-- On the way to a table with a longer header. -/
  | implied
  /-- On the way along a dotted key. -/
  | dotted
  /-- Between braces. -/
  | inline
  /-- On the way along a dotted key between braces. -/
  | inlineDotted
deriving DecidableEq, Repr

namespace Origin

/-- Whether a path that makes tables of origin `fresh` may pass through the table. -/
def admits (origin fresh : Origin) : Bool :=
  match origin with
  | header => fresh = implied
  | implied => fresh = implied || fresh = dotted
  | dotted => fresh = implied || fresh = dotted
  | inline => false
  | inlineDotted => fresh = inlineDotted

end Origin

/-- A value. The numbers of floats and the instants of dates are not kept. -/
inductive Value
  | boolean (value : Bool)
  | integer (value : Int)
  | float
  | moment
  | string (text : String)
  | array (items : List Value)
  /-- The tables written under one double-bracketed header. -/
  | tables (items : List (List (String × Value)))
  | table (origin : Origin) (entries : List (String × Value))

/-- The entries of a table, in the order they were made. -/
abbrev Entries : Type := List (String × Value)

namespace Entries

def add? (entries : Entries) (key : String) (value : Value) : Option Entries :=
  if (entries.lookup key).isSome then none else some (entries ++ [(key, value)])

/-- Put `value` where the entry of `key` is. -/
def replace (entries : Entries) (key : String) (value : Value) : Entries :=
  entries.map fun entry => if entry.1 = key then (key, value) else entry

def without (entries : Entries) (key : String) : Entries :=
  entries.filter fun entry => entry.1 ≠ key

/-- Change the table that a path leads to, from a table of the given origin. Tables on
the way must admit the path; an array of tables is entered at its last table, and
missing tables are made with origin `fresh`. -/
def changeAt? (fresh : Origin) :
    List String → (Origin → Entries → Option Entries) → Origin → Entries → Option Entries
  | [], change, origin, entries => change origin entries
  | key :: path, change, _, entries =>
    match entries.lookup key with
    | none => do
      let inner ← changeAt? fresh path change fresh []
      return entries ++ [(key, .table fresh inner)]
    | some (.table origin inner) =>
      if origin.admits fresh then do
        let inner ← changeAt? fresh path change origin inner
        return replace entries key (.table origin inner)
      else none
    | some (.tables items) => do
      let inner ← changeAt? fresh path change .header (← items.getLast?)
      return replace entries key (.tables (items.dropLast ++ [inner]))
    | some _ => none

/-- Assign a value to a dotted key. The parts before the last must make up tables that
dotted keys alone have written to. -/
def assign? (fresh : Origin) (path : List String) (value : Value) (entries : Entries) :
    Option Entries := do
  let key ← path.getLast?
  let parents := path.dropLast
  changeAt? fresh parents
    (fun origin inner =>
      if parents.isEmpty || origin = fresh then inner.add? key value else none)
    .header entries

end Entries

end PerfStates.Toml
