import PerfStates.Toml.Moment

namespace PerfStates.Toml

def nestingLimit : Nat := 79

def partLimit : Nat := 79

/-- Characters of a key without quotes. -/
def isBareKey (c : Char) : Bool := c.isAlphanum || c = '-' || c = '_'

/-- One part of a key, with the blanks around it. -/
def keyPart : Reader String := do
  skipBlanks
  let part ← match ← Reader.peek with
    | some '"' => lineString
    | some '\'' => lineString
    | _ => do
      let name ← Reader.takeWhile isBareKey
      if name.isEmpty then Reader.refuse
      pure (String.ofList name)
  skipBlanks
  return part

/-- A key of one part or of several with dots between them. -/
def dottedKey : Reader (List String) := do
  let first ← keyPart
  let others ← Reader.many do
    Reader.char '.'
    keyPart
  if partLimit < others.length + 1 then Reader.refuse
  return first :: others

/-- A value that is neither an array nor a table. -/
def scalar : Reader Value := do
  match ← Reader.peek with
  | some '"' => .string <$> string
  | some '\'' => .string <$> string
  | some 't' => Reader.literal "true"; return .boolean true
  | some 'f' => Reader.literal "false"; return .boolean false
  | _ => moment <|> number

/-- The items of an array up to its closing bracket, at most `limit` of them. -/
def arrayRest (item : Reader Value) : Nat → Reader (List Value)
  | 0 => Reader.refuse
  | limit + 1 => do
    skipComments
    if ← Reader.skip ']' then return []
    let first ← item
    skipComments
    if ← Reader.skip ',' then
      return first :: (← arrayRest item limit)
    else
      Reader.char ']'
      return [first]

def array (item : Reader Value) : Reader Value := do
  Reader.char '['
  .array <$> arrayRest item ((← get).length + 1)

def assignment (item : Reader Value) : Reader (List String × Value) := do
  let path ← dottedKey
  Reader.char '='
  skipBlanks
  return (path, ← item)

/-- A table between braces; a comma stands between two entries and nowhere else. -/
def inlineTable (item : Reader Value) : Reader Value := do
  Reader.char '{'
  skipBlanks
  if ← Reader.skip '}' then return .table .inline []
  let entry := do
    let entry ← assignment item
    skipBlanks
    return entry
  let first ← entry
  let others ← Reader.many do
    Reader.char ','
    entry
  Reader.char '}'
  match (first :: others).foldlM
      (fun entries (path, value) => Entries.assign? .inlineDotted path value entries) [] with
  | some entries => return .table .inline entries
  | none => Reader.refuse

/-- A value with at most `depth` arrays and tables around each other. -/
def value : Nat → Reader Value
  | 0 => scalar
  | depth + 1 => do
    match ← Reader.peek with
    | some '[' => array (value depth)
    | some '{' => inlineTable (value depth)
    | _ => scalar

inductive Line
  | assign (path : List String) (value : Value)
  | header (path : List String)
  | element (path : List String)

def line : Reader Line := do
  let line ← match ← Reader.peek with
    | some '[' => do
      Reader.char '['
      if ← Reader.skip '[' then
        let path ← dottedKey
        Reader.literal "]]"
        pure (Line.element path)
      else
        let path ← dottedKey
        Reader.char ']'
        pure (Line.header path)
    | _ => do
      let (path, value) ← assignment (value nestingLimit)
      pure (Line.assign path value)
  finishLine
  return line

/-- The lines of a document, without empty ones and comments. -/
def lines : Reader (List Line) := do
  let found ← Reader.many do
    skipComments
    line
  skipComments
  return found

/-- A header and the assignments under it. -/
structure Section where
  isElement : Bool
  path : List String
  assignments : List (List String × Value)

/-- The assignments before the first header, and the sections after them. -/
def sections : List Line → List (List String × Value) × List Section
  | [] => ([], [])
  | .assign path value :: rest =>
    let (first, others) := sections rest
    ((path, value) :: first, others)
  | .header path :: rest =>
    let (first, others) := sections rest
    ([], ⟨false, path, first⟩ :: others)
  | .element path :: rest =>
    let (first, others) := sections rest
    ([], ⟨true, path, first⟩ :: others)

def assignAll? (entries : Entries) (assignments : List (List String × Value)) :
    Option Entries :=
  assignments.foldlM (fun entries (path, value) => Entries.assign? .dotted path value entries)
    entries

/-- Add the table of a section under `key`. A plain header may take over a table that
longer headers implied, which then moves to the end; a double-bracketed header adds
one more table to the array of its key. -/
def Section.addTo? (opened : Section) (key : String) (entries : Entries) : Option Entries :=
  match opened.isElement, entries.lookup key with
  | false, none => do
    return entries ++ [(key, .table .header (← assignAll? [] opened.assignments))]
  | false, some (.table .implied inner) => do
    return entries.without key ++ [(key, .table .header (← assignAll? inner opened.assignments))]
  | true, none => do
    return entries ++ [(key, .tables [← assignAll? [] opened.assignments])]
  | true, some (.tables items) => do
    return entries.replace key (.tables (items ++ [← assignAll? [] opened.assignments]))
  | _, _ => none

def build? (lines : List Line) : Option Entries := do
  let (first, others) := sections lines
  others.foldlM
    (fun entries part => do
      let key ← part.path.getLast?
      Entries.changeAt? .implied part.path.dropLast
        (fun _ inner => part.addTo? key inner) .header entries)
    (← assignAll? [] first)

/-- The table that a document writes; a byte order mark in front is ignored. -/
def document? (text : String) : Option Entries := do
  let text := if text.startsWith "\ufeff" then (text.drop 1).toString else text
  build? (← Reader.all lines text)

end PerfStates.Toml
