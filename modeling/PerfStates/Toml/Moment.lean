import PerfStates.Toml.Number

namespace PerfStates.Toml

/-- Exactly `count` decimal digits whose number lies between the bounds. -/
def digitsBetween (count low high : Nat) : Reader Nat := do
  let value := numberOf 10 (← Reader.takeExactly count (isDigitOf 10))
  if low ≤ value ∧ value ≤ high then return value else Reader.refuse

def daysIn (year month : Nat) : Nat :=
  if month = 2 then
    if year % 4 = 0 ∧ (year % 100 ≠ 0 ∨ year % 400 = 0) then 29 else 28
  else if month ∈ [4, 6, 9, 11] then 30
  else 31

def date : Reader Unit := do
  let year ← digitsBetween 4 0 9999
  Reader.char '-'
  let month ← digitsBetween 2 1 12
  Reader.char '-'
  let _ ← digitsBetween 2 1 (daysIn year month)

/-- A time of day, perhaps with a fraction of a second. -/
def time : Reader Unit := do
  let _ ← digitsBetween 2 0 23
  Reader.char ':'
  let _ ← digitsBetween 2 0 59
  Reader.char ':'
  let _ ← digitsBetween 2 0 60
  let _ ← Reader.optional do
    Reader.char '.'
    let digits ← Reader.takeWhile (isDigitOf 10)
    if digits.isEmpty then Reader.refuse

def offset : Reader Unit := do
  match ← Reader.peek with
  | some 'Z' => Reader.char 'Z'
  | some 'z' => Reader.char 'z'
  | _ =>
    if !(← Reader.skip '+') then Reader.char '-'
    let _ ← digitsBetween 2 0 23
    Reader.char ':'
    let _ ← digitsBetween 2 0 59

/-- The mark between a date and a time. -/
def dateMark : Reader Unit := do
  match ← Reader.peek with
  | some 'T' => Reader.char 'T'
  | some 't' => Reader.char 't'
  | _ => Reader.char ' '

/-- A date, a date with a time and perhaps an offset, or a time alone. -/
def moment : Reader Value := do
  match ← Reader.optional date with
  | some () =>
    let _ ← Reader.optional do
      dateMark
      time
      Reader.optional offset
  | none => time
  return .moment

end PerfStates.Toml
