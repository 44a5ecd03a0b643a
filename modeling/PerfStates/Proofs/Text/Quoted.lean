import Mathlib.Data.List.Basic
import Mathlib.Tactic.SplitIfs
import PerfStates.Text.Numeral
import PerfStates.Text.Quoted

namespace PerfStates.Text

/-- The number that a hexadecimal digit stands for. -/
def digitValue (c : Char) : Nat := if c.isDigit then c.toNat - 48 else c.toNat - 87

/-- The number that hexadecimal digits stand for, the most significant first. -/
def hexValue (digits : List Char) : Nat :=
  digits.foldl (fun value c => 16 * value + digitValue c) 0

theorem digitValue_digitChar {digit : Nat} (small : digit < 16) :
    digitValue digit.digitChar = digit := by
  revert digit
  decide

theorem hexValue_toDigits (value : Nat) : hexValue (Nat.toDigits 16 value) = value := by
  induction value using Nat.strongRecOn with
  | ind value ih =>
    by_cases small : value < 16
    · rw [Nat.toDigits_of_lt_base small]
      simpa [hexValue] using digitValue_digitChar small
    · have large : 16 ≤ value := Nat.le_of_not_lt small
      have front := ih (value / 16) (by omega)
      rw [Nat.toDigits_of_base_le (by decide) large, hexValue, List.foldl_append, ← hexValue, front]
      simp only [List.foldl_cons, List.foldl_nil]
      rw [digitValue_digitChar (Nat.mod_lt _ (by decide)), Nat.div_add_mod]

theorem hex_injective : Function.Injective hex := by
  intro first second same
  have digits : Nat.toDigits 16 first = Nat.toDigits 16 second := by
    simpa [hex, String.ofList_inj] using same
  rw [← hexValue_toDigits first, digits, hexValue_toDigits]

theorem not_mem_toDigits (value : Nat) : '}' ∉ Nat.toDigits 16 value := by
  induction value using Nat.strongRecOn with
  | ind value ih =>
    have last {digit : Nat} (small : digit < 16) : '}' ≠ digit.digitChar := by
      revert digit
      decide
    by_cases small : value < 16
    · rw [Nat.toDigits_of_lt_base small, List.mem_singleton]
      exact last small
    · have large : 16 ≤ value := Nat.le_of_not_lt small
      rw [Nat.toDigits_of_base_le (by decide) large, List.mem_append, List.mem_singleton, not_or]
      exact ⟨ih (value / 16) (by omega), last (Nat.mod_lt _ (by decide))⟩

/-- The character of an escape behind its backslash, and the text behind it. -/
def readEscape : List Char → Option (Char × List Char)
  | [] => none
  | '0' :: rest => some ('\x00', rest)
  | 't' :: rest => some ('\t', rest)
  | 'n' :: rest => some ('\n', rest)
  | 'r' :: rest => some ('\r', rest)
  | 'u' :: rest =>
    let digits := rest.tail.takeWhile (· ≠ '}')
    some (Char.ofNat (hexValue digits), rest.tail.drop (digits.length + 1))
  | c :: rest => some (c, rest)

/-- The first character of a quoted text, and the text behind it. -/
def readChar : List Char → Option (Char × List Char)
  | [] => none
  | c :: rest => if c = '\\' then readEscape rest else some (c, rest)

theorem readChar_quotedChar (c : Char) (rest : List Char) :
    readChar ((quotedChar c).toList ++ rest) = some (c, rest) := by
  unfold quotedChar
  split_ifs with zero tab newline carriage quote backslash hidden
  · subst c; rfl
  · subst c; rfl
  · subst c; rfl
  · subst c; rfl
  · subst c; rfl
  · subst c; rfl
  · -- The digits end at the first brace, which none of them is.
    have digits : (Nat.toDigits 16 c.toNat ++ '}' :: rest).takeWhile
        (fun digit => !decide (digit = '}')) = Nat.toDigits 16 c.toNat := by
      rw [List.takeWhile_append_of_pos]
      · simp
      · intro digit member
        have other : digit ≠ '}' := fun same => not_mem_toDigits c.toNat (same ▸ member)
        simpa using other
    simp [readChar, readEscape, digits, hexValue_toDigits]
  · simp [readChar, backslash]

/-- A text with each of its characters escaped, without the quotes around it. -/
def escaped (text : List Char) : List Char := text.flatMap fun c => (quotedChar c).toList

theorem escaped_cons (c : Char) (rest : List Char) :
    escaped (c :: rest) = (quotedChar c).toList ++ escaped rest := by
  rw [escaped, List.flatMap_cons, ← escaped]

theorem toList_quoted (text : String) :
    (quoted text).toList = '"' :: (escaped text.toList ++ ['"']) := by
  simp [quoted, escaped, String.toList_join, List.flatMap_map]

theorem escaped_injective : Function.Injective escaped := by
  intro first second same
  induction first generalizing second with
  | nil =>
    cases second with
    | nil => rfl
    | cons c rest =>
      have read := readChar_quotedChar c (escaped rest)
      rw [← escaped_cons, ← same] at read
      cases read
  | cons c rest ih =>
    have read := readChar_quotedChar c (escaped rest)
    rw [← escaped_cons, same] at read
    cases second with
    | nil => cases read
    | cons other others =>
      rw [escaped_cons, readChar_quotedChar] at read
      obtain ⟨rfl, left⟩ := Prod.mk.inj (Option.some.inj read)
      rw [ih left.symm]

/-- Quoting loses nothing. -/
theorem quoted_injective : Function.Injective quoted := by
  intro first second same
  have characters := congrArg String.toList same
  rw [toList_quoted, toList_quoted, List.cons.injEq, List.append_cancel_right_eq] at characters
  exact String.toList_injective (escaped_injective characters.2)

end PerfStates.Text
