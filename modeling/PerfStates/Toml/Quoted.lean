import PerfStates.Toml.Reader

namespace PerfStates.Toml

def hexDigit? (c : Char) : Option Nat :=
  if '0' ≤ c && c ≤ '9' then some (c.toNat - '0'.toNat)
  else if 'a' ≤ c && c ≤ 'f' then some (c.toNat - 'a'.toNat + 10)
  else if 'A' ≤ c && c ≤ 'F' then some (c.toNat - 'A'.toNat + 10)
  else none

/-- The character whose number `digits` hexadecimal digits give. -/
def characterCode (digits : Nat) (text : List Char) : Option (Char × List Char) := do
  let codes ← (text.take digits).mapM hexDigit?
  let number := codes.foldl (fun value digit => 16 * value + digit) 0
  if codes.length = digits ∧ number.isValidChar then
    return (Char.ofNat number, text.drop digits)
  else none

/-- The character that an escape stands for, from the text after its backslash. -/
def escaped : List Char → Option (Char × List Char)
  | 'b' :: rest => some ('\x08', rest)
  | 't' :: rest => some ('\t', rest)
  | 'n' :: rest => some ('\n', rest)
  | 'f' :: rest => some ('\x0c', rest)
  | 'r' :: rest => some ('\r', rest)
  | '"' :: rest => some ('"', rest)
  | '\\' :: rest => some ('\\', rest)
  | 'u' :: rest => characterCode 4 rest
  | 'U' :: rest => characterCode 8 rest
  | _ => none

/-- The text after a line that a backslash continues: the rest of that line must be
blank, and the blanks and empty lines that follow are left out too. -/
def continued (text : List Char) : Option (List Char) :=
  match lineEnd (text.dropWhile isBlank) with
  | some (_, rest) => some (dropLines rest)
  | none => none

theorem characterCode_length {digits : Nat} {text rest : List Char} {c : Char}
    (found : characterCode digits text = some (c, rest)) : rest.length ≤ text.length := by
  unfold characterCode at found
  cases codes : (text.take digits).mapM hexDigit? with
  | none => simp [codes] at found
  | some values =>
    simp only [codes, Option.bind_eq_bind, Option.bind_some] at found
    split at found
    · simp only [Option.pure_def, Option.some.injEq, Prod.mk.injEq] at found
      simp [← found.2]
    · simp at found

theorem escaped_length {text rest : List Char} {c : Char}
    (found : escaped text = some (c, rest)) : rest.length ≤ text.length := by
  unfold escaped at found
  split at found
  case h_8 => exact Nat.le_succ_of_le (characterCode_length found)
  case h_9 => exact Nat.le_succ_of_le (characterCode_length found)
  all_goals simp at found
  all_goals simp [← found.2]

theorem dropLines_length (text : List Char) : (dropLines text).length ≤ text.length := by
  fun_induction dropLines text <;> simp_all <;> omega

theorem lineEnd_length {text rest : List Char} (found : lineEnd text = some ((), rest)) :
    rest.length ≤ text.length := by
  unfold lineEnd at found
  split at found <;> cases found <;> grind

theorem continued_length {text rest : List Char} (found : continued text = some rest) :
    rest.length ≤ text.length := by
  unfold continued at found
  split at found
  case h_1 _ last ended =>
    simp only [Option.some.injEq] at found
    have first := (List.dropWhile_suffix isBlank (l := text)).length_le
    have second := lineEnd_length ended
    have third := dropLines_length last
    rw [← found]
    omega
  case h_2 => simp at found

/-- The rest of a string between double quotes; `taken` lists what came before it,
last character first. -/
def basicRest (taken : List Char) : List Char → Option (String × List Char)
  | [] => none
  | '"' :: rest => some (String.ofList taken.reverse, rest)
  | '\\' :: rest =>
    match found : escaped rest with
    | none => none
    | some (c, after) =>
      have := escaped_length found
      basicRest (c :: taken) after
  | c :: rest => if isPlain c then basicRest (c :: taken) rest else none
termination_by text => text.length

/-- The end of a string between tripled quotes, after the three quotes that close it:
up to two quotes more belong to the string. -/
def closeTripled (quote : Char) (taken : List Char) : List Char → String × List Char
  | first :: second :: rest =>
    if first = quote then
      if second = quote then (String.ofList (quote :: quote :: taken).reverse, rest)
      else (String.ofList (quote :: taken).reverse, second :: rest)
    else (String.ofList taken.reverse, first :: second :: rest)
  | [first] =>
    if first = quote then (String.ofList (quote :: taken).reverse, [])
    else (String.ofList taken.reverse, [first])
  | [] => (String.ofList taken.reverse, [])

def tripledBasicRest (taken : List Char) : List Char → Option (String × List Char)
  | [] => none
  | '"' :: '"' :: '"' :: rest => some (closeTripled '"' taken rest)
  | '\n' :: rest => tripledBasicRest ('\n' :: taken) rest
  | '\r' :: '\n' :: rest => tripledBasicRest ('\n' :: taken) rest
  | '\\' :: rest =>
    match folded : continued rest with
    | some after =>
      have := continued_length folded
      tripledBasicRest taken after
    | none =>
      match found : escaped rest with
      | none => none
      | some (c, after) =>
        have := escaped_length found
        tripledBasicRest (c :: taken) after
  | c :: rest => if isPlain c then tripledBasicRest (c :: taken) rest else none
termination_by text => text.length

def rawRest (taken : List Char) : List Char → Option (String × List Char)
  | [] => none
  | '\'' :: rest => some (String.ofList taken.reverse, rest)
  | c :: rest => if isPlain c then rawRest (c :: taken) rest else none

def tripledRawRest (taken : List Char) : List Char → Option (String × List Char)
  | [] => none
  | '\'' :: '\'' :: '\'' :: rest => some (closeTripled '\'' taken rest)
  | '\n' :: rest => tripledRawRest ('\n' :: taken) rest
  | '\r' :: '\n' :: rest => tripledRawRest ('\n' :: taken) rest
  | c :: rest => if isPlain c then tripledRawRest (c :: taken) rest else none

/-- A line end right after the opening quotes is not part of the string. -/
def dropFirstLineEnd (text : List Char) : List Char :=
  match lineEnd text with
  | some (_, rest) => rest
  | none => text

def lineString : Reader String
  | '"' :: rest => basicRest [] rest
  | '\'' :: rest => rawRest [] rest
  | _ => none

def string : Reader String
  | '"' :: '"' :: '"' :: rest => tripledBasicRest [] (dropFirstLineEnd rest)
  | '\'' :: '\'' :: '\'' :: rest => tripledRawRest [] (dropFirstLineEnd rest)
  | text => lineString text

end PerfStates.Toml
