/-! Readers of text: a reader takes a value off the front, or refuses. -/

namespace PerfStates.Toml

/-- Takes a value off the front of the text and leaves the rest. -/
abbrev Reader (α : Type) : Type := StateT (List Char) Option α

namespace Reader

variable {α : Type}

def refuse : Reader α := fun _ => none

/-- The next character, which stays. -/
def peek : Reader (Option Char) := fun text => some (text.head?, text)

def char (expected : Char) : Reader Unit
  | first :: rest => if first = expected then some ((), rest) else none
  | [] => none

/-- Take the given character if it comes next, and tell whether it did. -/
def skip (expected : Char) : Reader Bool
  | first :: rest => if first = expected then some (true, rest) else some (false, first :: rest)
  | [] => some (false, [])

def literal (expected : String) : Reader Unit := expected.toList.forM char

def takeWhile (test : Char → Bool) : Reader (List Char) := fun text =>
  some (text.takeWhile test, text.dropWhile test)

/-- Take exactly `count` characters that pass the test. -/
def takeExactly (count : Nat) (test : Char → Bool) : Reader (List Char) := fun text =>
  let taken := text.take count
  if taken.length = count && taken.all test then some (taken, text.drop count) else none

def optional (reader : Reader α) : Reader (Option α) := (some <$> reader) <|> pure none

/-- Read at most `limit` values in a row. -/
def manyUpTo (reader : Reader α) : Nat → List Char → List α × List Char
  | 0, text => ([], text)
  | limit + 1, text =>
    match reader text with
    | none => ([], text)
    | some (first, rest) =>
      let (others, last) := manyUpTo reader limit rest
      (first :: others, last)

/-- Read values in a row, each of which takes at least one character. -/
def many (reader : Reader α) : Reader (List α) := fun text =>
  some (manyUpTo reader text.length text)

def all (reader : Reader α) (text : String) : Option α :=
  match reader text.toList with
  | some (value, []) => some value
  | _ => none

end Reader

def isBlank (c : Char) : Bool := c = ' ' || c = '\t'

/-- Characters that text may hold as they are: tab, and all that is no control
character of the seven-bit range. -/
def isPlain (c : Char) : Bool := c = '\t' || (0x20 ≤ c.toNat && c.toNat ≠ 0x7f)

def skipBlanks : Reader Unit := fun text => some ((), text.dropWhile isBlank)

def lineEnd : Reader Unit
  | '\n' :: rest => some ((), rest)
  | '\r' :: '\n' :: rest => some ((), rest)
  | _ => none

def dropLines : List Char → List Char
  | '\n' :: rest => dropLines rest
  | '\r' :: '\n' :: rest => dropLines rest
  | c :: rest => if isBlank c then dropLines rest else c :: rest
  | [] => []

/-- Skip blanks, line ends and comments; a comment runs to the end of its line. -/
def dropComments (inComment : Bool) : List Char → Option (List Char)
  | '\n' :: rest => dropComments false rest
  | '\r' :: '\n' :: rest => dropComments false rest
  | c :: rest =>
    if inComment then
      if isPlain c then dropComments true rest else none
    else if isBlank c then dropComments false rest
    else if c = '#' then dropComments true rest
    else some (c :: rest)
  | [] => some []

def skipComments : Reader Unit := fun text =>
  (dropComments false text).map fun rest => ((), rest)

/-- Finish a line: blanks, perhaps a comment, then a line end or the end of the text. -/
def finishLine : Reader Unit := do
  skipBlanks
  if ← Reader.skip '#' then
    let _ ← Reader.takeWhile isPlain
  match ← Reader.peek with
  | none => pure ()
  | some _ => lineEnd

end PerfStates.Toml
