import PerfStates.Board.SlotMask

namespace PerfStates.SlotMask

/-- The bit at the place of `slot`, read off the words alone. -/
def bit (mask : SlotMask) (slot : Nat) : Bool :=
  (mask.words[slot / 32]?.getD 0).toNat.testBit (slot % 32)

/-- As many words as the slots need, and no bit set past the last slot. -/
structure WellFormed (mask : SlotMask) : Prop where
  words_size : mask.words.size = wordCount mask.bitCount
  no_stray : ∀ slot, mask.bitCount ≤ slot → mask.bit slot = false

/-- The mask whose set bits are those of the slots below `count`. -/
def lowest (bitCount count : Nat) : SlotMask :=
  (List.range count).foldl set (empty bitCount)

theorem test_eq (mask : SlotMask) (slot : Nat) :
    mask.test slot = (decide (slot < mask.bitCount) && mask.bit slot) := by
  apply Bool.eq_iff_iff.mpr
  rw [test_iff, Bool.and_eq_true, decide_eq_true_eq]
  rfl

theorem WellFormed.test_eq_bit {mask : SlotMask} (formed : mask.WellFormed) (slot : Nat) :
    mask.test slot = mask.bit slot := by
  rw [test_eq]
  by_cases inside : slot < mask.bitCount
  · simp [inside]
  · simp [formed.no_stray slot (Nat.le_of_not_lt inside)]

theorem WellFormed.word_present {mask : SlotMask} (formed : mask.WellFormed) {slot : Nat}
    (inside : slot < mask.bitCount) : slot / 32 < mask.words.size := by
  rw [formed.words_size, wordCount]
  omega

@[simp] theorem bitCount_set (mask : SlotMask) (slot : Nat) :
    (mask.set slot).bitCount = mask.bitCount := by
  unfold set
  split <;> rfl

theorem set_past {mask : SlotMask} {slot : Nat} (past : mask.bitCount ≤ slot) :
    mask.set slot = mask := if_neg (Nat.not_lt.mpr past)

theorem words_size_set (mask : SlotMask) (slot : Nat) :
    (mask.set slot).words.size = mask.words.size := by
  unfold set
  split <;> simp

theorem bit_set {mask : SlotMask} (formed : mask.WellFormed) {slot : Nat}
    (inside : slot < mask.bitCount) (other : Nat) :
    (mask.set slot).bit other = (decide (other = slot) || mask.bit other) := by
  have present := formed.word_present inside
  simp only [set, inside, ↓reduceIte, bit, Array.getElem?_modify]
  by_cases word : slot / 32 = other / 32
  · rw [← word]
    simp only [↓reduceIte, Array.getElem?_eq_getElem present, Option.map_some, Option.getD_some,
      UInt32.toNat_or, slotBit_toNat, Nat.one_shiftLeft, Nat.testBit_or, Nat.testBit_two_pow,
      Bool.or_comm]
    congr 1
    apply decide_eq_decide.mpr
    omega
  · have different : other ≠ slot := fun same => word (same ▸ rfl)
    simp [word, different]

theorem WellFormed.set {mask : SlotMask} (formed : mask.WellFormed) (slot : Nat) :
    (mask.set slot).WellFormed := by
  refine ⟨?_, fun other past => ?_⟩
  · rw [words_size_set, bitCount_set, formed.words_size]
  · rw [bitCount_set] at past
    by_cases inside : slot < mask.bitCount
    · have different : other ≠ slot := by omega
      rw [bit_set formed inside]
      simp [different, formed.no_stray other past]
    · rw [set_past (Nat.le_of_not_lt inside)]
      exact formed.no_stray other past

theorem test_set {mask : SlotMask} (formed : mask.WellFormed) {slot : Nat}
    (inside : slot < mask.bitCount) (other : Nat) :
    (mask.set slot).test other = (decide (other = slot) || mask.test other) := by
  rw [(formed.set slot).test_eq_bit, formed.test_eq_bit, bit_set formed inside]

theorem set_comm (mask : SlotMask) (slot other : Nat) :
    (mask.set slot).set other = (mask.set other).set slot := by
  by_cases inside : slot < mask.bitCount
  · by_cases within : other < mask.bitCount
    · simp only [set, inside, within, ↓reduceIte]
      congr 1
      apply Array.ext_getElem?
      intro index
      simp only [Array.getElem?_modify]
      by_cases one : slot / 32 = index
      · by_cases two : other / 32 = index
        · have either (word : UInt32) : word ||| slotBit slot ||| slotBit other =
              word ||| slotBit other ||| slotBit slot := by
            rw [UInt32.or_assoc, UInt32.or_comm (slotBit slot), ← UInt32.or_assoc]
          simp [one, two, Function.comp_def, either]
        · simp [one, two]
      · simp [one]
    · have past := Nat.le_of_not_lt within
      have also : (mask.set slot).set other = mask.set slot := set_past (by rwa [bitCount_set])
      rw [also, set_past past]
  · have past := Nat.le_of_not_lt inside
    have also : (mask.set other).set slot = mask.set other := set_past (by rwa [bitCount_set])
    rw [also, set_past past]

@[simp] theorem bitCount_clear (mask : SlotMask) (slot : Nat) :
    (mask.clear slot).bitCount = mask.bitCount := by
  unfold clear
  split <;> rfl

theorem words_size_clear (mask : SlotMask) (slot : Nat) :
    (mask.clear slot).words.size = mask.words.size := by
  unfold clear
  split <;> simp

theorem bit_clear {mask : SlotMask} (formed : mask.WellFormed) {slot : Nat}
    (inside : slot < mask.bitCount) (other : Nat) :
    (mask.clear slot).bit other = (!decide (other = slot) && mask.bit other) := by
  have present := formed.word_present inside
  simp only [clear, inside, ↓reduceIte, bit, Array.getElem?_modify]
  by_cases word : slot / 32 = other / 32
  · have size : UInt32.size = 2 ^ 32 := rfl
    have others : (~~~slotBit slot).toNat = 2 ^ 32 - (2 ^ (slot % 32) + 1) := by
      rw [UInt32.toNat_not, size, slotBit_toNat, Nat.one_shiftLeft, Nat.sub_sub, Nat.add_comm 1]
    have small : 2 ^ (slot % 32) < 2 ^ 32 :=
      Nat.pow_lt_pow_right (by decide) (Nat.mod_lt _ (by decide))
    have within : other % 32 < 32 := Nat.mod_lt _ (by decide)
    rw [← word]
    simp only [↓reduceIte, Array.getElem?_eq_getElem present, Option.map_some, Option.getD_some,
      UInt32.toNat_and, others, Nat.testBit_and, Nat.testBit_two_pow_sub_succ small, within,
      decide_true, Bool.true_and, Nat.testBit_two_pow, Bool.and_comm]
    congr 2
    apply decide_eq_decide.mpr
    omega
  · have different : other ≠ slot := fun same => word (same ▸ rfl)
    simp [word, different]

theorem WellFormed.clear {mask : SlotMask} (formed : mask.WellFormed) (slot : Nat) :
    (mask.clear slot).WellFormed := by
  refine ⟨?_, fun other past => ?_⟩
  · rw [words_size_clear, bitCount_clear, formed.words_size]
  · rw [bitCount_clear] at past
    by_cases inside : slot < mask.bitCount
    · rw [bit_clear formed inside, formed.no_stray other past, Bool.and_false]
    · have ignored : mask.clear slot = mask := by simp [SlotMask.clear, inside]
      rw [ignored]
      exact formed.no_stray other past

theorem test_clear {mask : SlotMask} (formed : mask.WellFormed) {slot : Nat}
    (inside : slot < mask.bitCount) (other : Nat) :
    (mask.clear slot).test other = (!decide (other = slot) && mask.test other) := by
  rw [(formed.clear slot).test_eq_bit, formed.test_eq_bit, bit_clear formed inside]

theorem wellFormed_empty (bitCount : Nat) : (empty bitCount).WellFormed := by
  refine ⟨by simp [empty], fun slot _ => ?_⟩
  simp only [bit, empty, Array.getElem?_replicate]
  split <;> simp

theorem foldl_popCount (words : List UInt32) (total : Nat) :
    words.foldl (fun total word => total + popCount word) total =
      total + (List.range (32 * words.length)).countP fun slot =>
        (words[slot / 32]?.getD 0).toNat.testBit (slot % 32) := by
  induction words generalizing total with
  | nil => rfl
  | cons word rest ih =>
    have first : (List.range 32).countP (fun slot =>
        ((word :: rest)[slot / 32]?.getD 0).toNat.testBit (slot % 32)) = popCount word := by
      apply List.countP_congr
      intro slot member
      have low := List.mem_range.mp member
      rw [Nat.div_eq_of_lt low, Nat.mod_eq_of_lt low, List.getElem?_cons_zero, Option.getD_some]
    have others : ((List.range (32 * rest.length)).map (32 + ·)).countP (fun slot =>
        ((word :: rest)[slot / 32]?.getD 0).toNat.testBit (slot % 32)) =
          (List.range (32 * rest.length)).countP fun slot =>
            (rest[slot / 32]?.getD 0).toNat.testBit (slot % 32) := by
      rw [List.countP_map]
      apply List.countP_congr
      intro slot _
      have next : (32 + slot) / 32 = slot / 32 + 1 := by omega
      rw [Function.comp_apply, next, Nat.add_mod_left, List.getElem?_cons_succ]
    rw [List.foldl_cons, ih, List.length_cons, Nat.mul_succ, Nat.add_comm (32 * _),
      List.range_add, List.countP_append, first, others, Nat.add_assoc]

/-- Counting word by word counts the slots whose bit is set. -/
theorem WellFormed.count_eq {mask : SlotMask} (formed : mask.WellFormed) :
    mask.count = (List.range mask.bitCount).countP mask.test := by
  have bits : mask.count = (List.range (32 * mask.words.size)).countP mask.bit := by
    rw [count, ← Array.foldl_toList, foldl_popCount, Array.length_toList, Nat.zero_add]
    simp only [Array.getElem?_toList]
    rfl
  obtain ⟨spare, covered⟩ : ∃ spare, 32 * mask.words.size = mask.bitCount + spare := by
    refine Nat.exists_eq_add_of_le ?_
    rw [formed.words_size, wordCount]
    omega
  have none : ((List.range spare).map (mask.bitCount + ·)).countP mask.bit = 0 := by
    rw [List.countP_eq_zero]
    intro slot member
    obtain ⟨offset, _, rfl⟩ := List.mem_map.mp member
    rw [formed.no_stray _ (Nat.le_add_right _ _)]
    exact Bool.false_ne_true
  rw [bits, covered, List.range_add, List.countP_append, none, Nat.add_zero]
  simp only [show mask.bit = mask.test from funext fun slot => (formed.test_eq_bit slot).symm]

theorem testBit_word {mask : SlotMask} {index : Nat} {word : UInt32}
    (present : mask.words[index]? = some word) {place : Nat} (low : place < 32) :
    word.toNat.testBit place = mask.bit (32 * index + place) := by
  have quotient : (32 * index + place) / 32 = index := by omega
  have remainder : (32 * index + place) % 32 = place := by omega
  rw [bit, quotient, remainder, present, Option.getD_some]

theorem word_eq_of_testBit {word other : UInt32}
    (bits : ∀ place < 32, word.toNat.testBit place = other.toNat.testBit place) : word = other := by
  rw [← UInt32.toNat_inj]
  apply Nat.eq_of_testBit_eq
  intro place
  by_cases low : place < 32
  · exact bits place low
  · have wide : 2 ^ 32 ≤ 2 ^ place := Nat.pow_le_pow_right (by decide) (Nat.le_of_not_lt low)
    rw [Nat.testBit_lt_two_pow (Nat.lt_of_lt_of_le word.toNat_lt wide),
      Nat.testBit_lt_two_pow (Nat.lt_of_lt_of_le other.toNat_lt wide)]

/-- The words are all zero exactly if no slot is marked. -/
theorem WellFormed.isEmpty_iff {mask : SlotMask} (formed : mask.WellFormed) :
    mask.isEmpty = true ↔ ∀ slot, mask.test slot = false := by
  simp only [isEmpty, Array.all_eq_true, beq_iff_eq, formed.test_eq_bit]
  constructor
  · intro zeros slot
    cases found : mask.words[slot / 32]? with
    | none => simp [bit, found]
    | some word =>
      obtain ⟨present, rfl⟩ := Array.getElem?_eq_some_iff.mp found
      simp [bit, found, zeros _ present]
  · intro unmarked index present
    apply word_eq_of_testBit
    intro place low
    rw [testBit_word (Array.getElem?_eq_getElem present) low, unmarked, UInt32.toNat_zero,
      Nat.zero_testBit]

theorem lowest_zero (bitCount : Nat) : lowest bitCount 0 = empty bitCount := rfl

theorem lowest_succ (bitCount count : Nat) :
    lowest bitCount (count + 1) = (lowest bitCount count).set count := by
  rw [lowest, List.range_succ, List.foldl_append]
  rfl

@[simp] theorem bitCount_lowest (bitCount count : Nat) :
    (lowest bitCount count).bitCount = bitCount := by
  induction count with
  | zero => rfl
  | succ count ih => rw [lowest_succ, bitCount_set, ih]

theorem wellFormed_lowest (bitCount count : Nat) : (lowest bitCount count).WellFormed := by
  induction count with
  | zero => exact wellFormed_empty bitCount
  | succ count ih => exact lowest_succ bitCount count ▸ ih.set count

theorem test_lowest {bitCount count : Nat} (fits : count ≤ bitCount) (slot : Nat) :
    (lowest bitCount count).test slot = decide (slot < count) := by
  induction count with
  | zero => simp [lowest_zero]
  | succ count ih =>
    have inside : count < (lowest bitCount count).bitCount := by
      rw [bitCount_lowest]
      exact fits
    rw [lowest_succ, test_set (wellFormed_lowest bitCount count) inside, ih (by omega)]
    apply Bool.eq_iff_iff.mpr
    simp only [Bool.or_eq_true, decide_eq_true_eq]
    omega

theorem toList_lowest {bitCount count : Nat} (fits : count ≤ bitCount) :
    (lowest bitCount count).toList = List.range count := by
  obtain ⟨rest, rfl⟩ := Nat.exists_eq_add_of_le fits
  rw [toList, bitCount_lowest, List.range_add, List.filter_append]
  have low : (List.range count).filter (lowest (count + rest) count).test = List.range count := by
    rw [List.filter_eq_self]
    intro slot member
    rw [test_lowest (Nat.le_add_right count rest)]
    simpa using member
  have high :
      ((List.range rest).map (count + ·)).filter (lowest (count + rest) count).test = [] := by
    rw [List.filter_eq_nil_iff]
    intro slot member
    obtain ⟨offset, _, rfl⟩ := List.mem_map.mp member
    rw [test_lowest (Nat.le_add_right count rest)]
    simp
  rw [low, high, List.append_nil]

end PerfStates.SlotMask
