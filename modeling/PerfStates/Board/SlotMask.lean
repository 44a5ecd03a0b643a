import PerfStates.Text.Numeral

namespace PerfStates

/-- One bit for each of `bitCount` slots. -/
structure SlotMask where
  bitCount : Nat
  words : Array UInt32
deriving DecidableEq, Repr

namespace SlotMask

/-- How many 32-bit words cover `bitCount` slots. -/
def wordCount (bitCount : Nat) : Nat := (bitCount + 31) / 32

/-- The word whose only set bit is that of `slot`. -/
def slotBit (slot : Nat) : UInt32 := 1 <<< UInt32.ofNat (slot % 32)

def popCount (word : UInt32) : Nat :=
  (List.range 32).countP fun bit => word.toNat.testBit bit

def empty (bitCount : Nat) : SlotMask :=
  ⟨bitCount, Array.replicate (wordCount bitCount) 0⟩

/-- Set the bit of `slot`; a slot past the end is ignored. -/
def set (mask : SlotMask) (slot : Nat) : SlotMask :=
  if slot < mask.bitCount then
    { mask with words := mask.words.modify (slot / 32) (· ||| slotBit slot) }
  else mask

/-- Clear the bit of `slot`; a slot past the end is ignored. -/
def clear (mask : SlotMask) (slot : Nat) : SlotMask :=
  if slot < mask.bitCount then
    { mask with words := mask.words.modify (slot / 32) (· &&& ~~~slotBit slot) }
  else mask

def clearAll (mask : SlotMask) : SlotMask :=
  { mask with words := mask.words.map fun _ => 0 }

def test (mask : SlotMask) (slot : Nat) : Bool :=
  slot < mask.bitCount && (mask.words[slot / 32]?.getD 0 &&& slotBit slot) != 0

/-- How many bits are set, counted word by word. -/
def count (mask : SlotMask) : Nat :=
  mask.words.foldl (fun total word => total + popCount word) 0

def isEmpty (mask : SlotMask) : Bool := mask.words.all (· == 0)

/-- The slots whose bit is set, in increasing order. -/
def toList (mask : SlotMask) : List Nat := (List.range mask.bitCount).filter mask.test

def describe (mask : SlotMask) : String :=
  "BoardObjGrpMask \x7b bit_count: " ++ toString mask.bitCount ++ ", words: "
    ++ Text.bracketed (mask.words.toList.map fun word => toString word.toNat) ++ " \x7d"

theorem slotBit_toNat (slot : Nat) : (slotBit slot).toNat = 1 <<< (slot % 32) := by
  have small : slot % 32 < 32 := Nat.mod_lt _ (by decide)
  have word : (UInt32.ofNat (slot % 32)).toNat = slot % 32 :=
    UInt32.toNat_ofNat_of_lt' (Nat.lt_trans small (by decide))
  have power : 2 ^ (slot % 32) < 2 ^ 32 := Nat.pow_lt_pow_right (by decide) small
  rw [slotBit, UInt32.toNat_shiftLeft, word, Nat.mod_eq_of_lt small, UInt32.toNat_one,
    Nat.one_shiftLeft, Nat.mod_eq_of_lt power]

theorem and_slotBit_ne_zero_iff (word : UInt32) (slot : Nat) :
    word &&& slotBit slot ≠ 0 ↔ word.toNat.testBit (slot % 32) = true := by
  rw [Ne, ← UInt32.toNat_inj, UInt32.toNat_and, slotBit_toNat, Nat.one_shiftLeft,
    ← Bool.not_eq_false, not_congr]
  constructor
  · intro none
    have bit := congrArg (Nat.testBit · (slot % 32)) none
    simpa [Nat.testBit_and, Nat.testBit_two_pow_self] using bit
  · intro unset
    refine Nat.eq_of_testBit_eq fun bit => ?_
    rw [Nat.testBit_and, Nat.testBit_two_pow]
    by_cases same : slot % 32 = bit
    · subst same
      simp [unset]
    · simp [same]

/-- A slot is tested by the bit of its remainder in the word of its quotient. -/
theorem test_iff (mask : SlotMask) (slot : Nat) :
    mask.test slot = true ↔ slot < mask.bitCount ∧
      (mask.words[slot / 32]?.getD 0).toNat.testBit (slot % 32) = true := by
  simp only [test, Bool.and_eq_true, decide_eq_true_eq, bne_iff_ne, and_slotBit_ne_zero_iff]

@[simp] theorem test_empty (bitCount slot : Nat) : (empty bitCount).test slot = false := by
  rw [← Bool.not_eq_true, test_iff]
  simp only [empty, Array.getElem?_replicate]
  split <;> simp

@[simp] theorem mem_toList {mask : SlotMask} {slot : Nat} :
    slot ∈ mask.toList ↔ mask.test slot = true := by
  simp only [toList, List.mem_filter, List.mem_range]
  exact ⟨And.right, fun tested => ⟨((test_iff mask slot).mp tested).1, tested⟩⟩

end SlotMask

end PerfStates
