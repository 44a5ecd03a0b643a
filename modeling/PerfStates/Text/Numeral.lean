namespace PerfStates.Text

/-- Fill `text` on the left up to `width` characters. -/
def padLeft (width : Nat) (fill : Char) (text : String) : String :=
  String.ofList (List.replicate (width - text.length) fill) ++ text

/-- Fill `text` with spaces on the right up to `width` characters. -/
def padRight (width : Nat) (text : String) : String :=
  text ++ String.ofList (List.replicate (width - text.length) ' ')

/-- Lower-case hexadecimal digits without leading zeros, after `0x`. -/
def hex (value : Nat) : String :=
  "0x" ++ String.ofList (Nat.toDigits 16 value)

/-- Lower-case hexadecimal digits after `0x`, at least `width` of them. -/
def hexWord (width value : Nat) : String :=
  "0x" ++ padLeft width '0' (String.ofList (Nat.toDigits 16 value))

def bracketed (items : List String) : String :=
  "[" ++ ", ".intercalate items ++ "]"

end PerfStates.Text
