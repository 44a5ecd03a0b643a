import PerfStates.Toml.Quoted
import PerfStates.Toml.Value

namespace PerfStates.Toml

/-- Whether `c` is a digit of the given base. -/
def isDigitOf (base : Nat) (c : Char) : Bool :=
  match hexDigit? c with
  | some digit => digit < base
  | none => false

/-- The number that digits of a base write. -/
def numberOf (base : Nat) (digits : List Char) : Nat :=
  digits.foldl (fun value c => base * value + (hexDigit? c).getD 0) 0

/-- Digits in a row; a single underscore may stand before a digit and is left out. -/
def groupedRest (base : Nat) : List Char → List Char × List Char
  | '_' :: c :: rest =>
    if isDigitOf base c then
      let (digits, last) := groupedRest base rest
      (c :: digits, last)
    else ([], '_' :: c :: rest)
  | c :: rest =>
    if isDigitOf base c then
      let (digits, last) := groupedRest base rest
      (c :: digits, last)
    else ([], c :: rest)
  | [] => ([], [])

/-- At least one digit, then digits that single underscores may set apart. -/
def grouped (base : Nat) : Reader (List Char)
  | c :: rest =>
    if isDigitOf base c then
      let (digits, last) := groupedRest base rest
      some (c :: digits, last)
    else none
  | [] => none

/-- The sign in front of a number: whether it is there, and whether it is a minus. -/
def sign : Reader (Bool × Bool)
  | '+' :: rest => some ((true, false), rest)
  | '-' :: rest => some ((true, true), rest)
  | text => some ((false, false), text)

/-- The digits before the point: a lone zero, or digits that start with another. -/
def wholeDigits : Reader (List Char)
  | '0' :: rest => some (['0'], rest)
  | text => grouped 10 text

def exponent : Reader Int := do
  if !(← Reader.skip 'e') then Reader.char 'E'
  let (_, negative) ← sign
  let size := numberOf 10 (← grouped 10)
  return if negative then -size else size

/-- Whether `digits · 10 ^ power`, rounded to the nearest float of 64 bits, is infinite. -/
def isInfinite (digits : List Char) (power : Int) : Bool :=
  let significant := digits.dropWhile (· = '0')
  let magnitude : Int := significant.length + power
  let number := numberOf 10 significant
  let bound := 1 <<< 1024 - 1 <<< 970
  if significant.isEmpty then false
  else if 310 < magnitude then true
  else if magnitude < 300 then false
  else if 0 ≤ power then bound ≤ number * Nat.pow 10 power.toNat
  else bound * Nat.pow 10 (-power).toNat ≤ number

/-- What may follow the whole digits of a float: a fraction, an exponent, or both. -/
def floatRest : Reader (List Char × Int) := do
  if ← Reader.skip '.' then
    let digits ← grouped 10
    let power ← Reader.optional exponent
    return (digits, power.getD 0)
  else
    return ([], ← exponent)

/-- An integer if it has 64 bits with a sign. -/
def integer (value : Int) : Reader Value :=
  if -0x8000000000000000 ≤ value ∧ value < 0x8000000000000000 then pure (.integer value)
  else Reader.refuse

/-- A whole number or float in decimal digits. -/
def decimal (negative : Bool) : Reader Value := do
  let whole ← wholeDigits
  match ← Reader.optional floatRest with
  | some (digits, power) =>
    if !negative && isInfinite (whole ++ digits) (power - digits.length) then Reader.refuse
    return .float
  | none =>
    let size := numberOf 10 whole
    integer (if negative then -size else size)

/-- A number: with the bases sixteen, eight and two only without a sign. -/
def number : Reader Value := do
  let (signed, negative) ← sign
  let text ← get
  match signed, text with
  | false, '0' :: 'x' :: rest => set rest; integer (numberOf 16 (← grouped 16))
  | false, '0' :: 'o' :: rest => set rest; integer (numberOf 8 (← grouped 8))
  | false, '0' :: 'b' :: rest => set rest; integer (numberOf 2 (← grouped 2))
  | _, 'i' :: _ => Reader.literal "inf"; return .float
  | _, 'n' :: _ => Reader.literal "nan"; return .float
  | _, _ => decimal negative

end PerfStates.Toml
