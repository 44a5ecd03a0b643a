import Mathlib.Data.Finset.Sort
import PerfStates.Proofs.Board.Mask

namespace PerfStates.SlotMask

/-- A change to a mask. -/
inductive Operation
  | set (slot : Nat)
  | clear (slot : Nat)
  | clearAll

def perform (mask : SlotMask) : Operation → SlotMask
  | .set slot => mask.set slot
  | .clear slot => mask.clear slot
  | .clearAll => mask.clearAll

/-- Make changes one after another. -/
def performAll (operations : List Operation) (mask : SlotMask) : SlotMask :=
  operations.foldl perform mask

/-- What a change means for a set of slots below `bitCount`; other slots are ignored. -/
def mark (bitCount : Nat) (members : Finset Nat) : Operation → Finset Nat
  | .set slot => if slot < bitCount then insert slot members else members
  | .clear slot => members.erase slot
  | .clearAll => ∅

/-- The set that changes leave behind, from the empty set on. -/
def marked (bitCount : Nat) (operations : List Operation) : Finset Nat :=
  operations.foldl (mark bitCount) ∅

/-- The first marked slot from `start` on: slots are tested one after another up to the last. -/
def next? (mask : SlotMask) (start : Nat) : Option Nat :=
  if start < mask.bitCount then
    if mask.test start then some start else mask.next? (start + 1)
  else none
termination_by mask.bitCount - start

/-- The slots that an iteration yields from `start` on. Each is asked for behind the one before
it, until there is none. -/
inductive Yields (mask : SlotMask) : Nat → List Nat → Prop
  | done {start : Nat} (none : mask.next? start = none) : Yields mask start []
  | step {start slot : Nat} {slots : List Nat} (found : mask.next? start = some slot)
      (rest : Yields mask (slot + 1) slots) : Yields mask start (slot :: slots)

theorem Yields.unique {mask : SlotMask} {start : Nat} {slots others : List Nat}
    (yields : mask.Yields start slots) (also : mask.Yields start others) : slots = others := by
  induction yields generalizing others with
  | done none =>
    cases also with
    | done _ => rfl
    | step found _ => cases none.symm.trans found
  | step found _ ih =>
    cases also with
    | done none => cases none.symm.trans found
    | step again rest =>
      cases found.symm.trans again
      rw [ih rest]

/-- An iteration from a slot on yields what it yields behind that slot, after the slot itself if
that is marked. -/
theorem Yields.of_succ {mask : SlotMask} {start : Nat} {slots : List Nat}
    (inside : start < mask.bitCount) (yields : mask.Yields (start + 1) slots) :
    mask.Yields start (if mask.test start then start :: slots else slots) := by
  cases tested : mask.test start with
  | true =>
    have found : mask.next? start = some start := by
      rw [next?, if_pos inside, if_pos tested]
    exact .step found yields
  | false =>
    have onward : mask.next? start = mask.next? (start + 1) := by
      rw [next?, if_pos inside, if_neg (ne_true_of_eq_false tested)]
    rw [if_neg Bool.false_ne_true]
    cases yields with
    | done none => exact .done (onward.trans none)
    | step found rest => exact .step (onward.trans found) rest

/-- An iteration ends, and has then yielded the marked slots from its start on. -/
theorem yields_filter (mask : SlotMask) (start count : Nat)
    (covered : start + count = mask.bitCount) :
    mask.Yields start ((List.range' start count).filter mask.test) := by
  induction count generalizing start with
  | zero =>
    have none : mask.next? start = none := by
      rw [next?, if_neg (by omega)]
    exact .done none
  | succ count ih =>
    have others := ih (start + 1) (by omega)
    rw [List.range'_succ, List.filter_cons]
    exact others.of_succ (by omega)

theorem yields_toList (mask : SlotMask) : mask.Yields 0 mask.toList := by
  rw [toList, List.range_eq_range']
  exact mask.yields_filter 0 mask.bitCount (Nat.zero_add _)

theorem WellFormed.eq_of_bit {mask other : SlotMask} (formed : mask.WellFormed)
    (also : other.WellFormed) (covers : mask.bitCount = other.bitCount)
    (bits : ∀ slot, mask.bit slot = other.bit slot) : mask = other := by
  have sizes : mask.words.size = other.words.size := by
    rw [formed.words_size, also.words_size, covers]
  have words : mask.words = other.words := by
    apply Array.ext sizes
    intro index inside within
    apply word_eq_of_testBit
    intro place low
    rw [testBit_word (Array.getElem?_eq_getElem inside) low,
      testBit_word (Array.getElem?_eq_getElem within) low, bits]
  cases mask
  cases other
  cases covers
  cases words
  rfl

/-- The mask has a bit for each slot below `bitCount`, set exactly for the members of a set. -/
structure Marks (mask : SlotMask) (bitCount : Nat) (members : Finset Nat) : Prop where
  covers : mask.bitCount = bitCount
  formed : mask.WellFormed
  bit_iff : ∀ slot, mask.bit slot = true ↔ slot ∈ members

namespace Marks

variable {mask : SlotMask} {bitCount : Nat} {members : Finset Nat}

theorem lt_of_mem (marks : mask.Marks bitCount members) {slot : Nat} (member : slot ∈ members) :
    slot < bitCount := by
  apply Nat.lt_of_not_le
  intro past
  have stray := marks.formed.no_stray slot (marks.covers.symm ▸ past)
  rw [(marks.bit_iff slot).mpr member] at stray
  cases stray

theorem empty (bitCount : Nat) : (SlotMask.empty bitCount).Marks bitCount ∅ where
  covers := rfl
  formed := wellFormed_empty bitCount
  bit_iff slot := by
    rw [← (wellFormed_empty bitCount).test_eq_bit, test_empty]
    simp

theorem perform (marks : mask.Marks bitCount members) (operation : Operation) :
    (mask.perform operation).Marks bitCount (mark bitCount members operation) := by
  obtain ⟨rfl, formed, bits⟩ := marks
  cases operation with
  | set slot =>
    refine ⟨bitCount_set mask slot, formed.set slot, ?_⟩
    intro other
    by_cases inside : slot < mask.bitCount
    · rw [SlotMask.perform, bit_set formed inside, mark, if_pos inside]
      simp [bits]
    · rw [SlotMask.perform, set_past (Nat.le_of_not_lt inside), mark, if_neg inside, bits]
  | clear slot =>
    refine ⟨bitCount_clear mask slot, formed.clear slot, ?_⟩
    intro other
    by_cases inside : slot < mask.bitCount
    · rw [SlotMask.perform, bit_clear formed inside, mark]
      simp [bits]
    · have absent : slot ∉ members := by
        rw [← bits, formed.no_stray slot (Nat.le_of_not_lt inside)]
        exact Bool.false_ne_true
      rw [SlotMask.perform, SlotMask.clear, if_neg inside, mark, Finset.erase_eq_of_notMem absent,
        bits]
  | clearAll =>
    have cleared : mask.clearAll = SlotMask.empty mask.bitCount := by
      rw [clearAll, SlotMask.empty, Array.map_const', formed.words_size]
    rw [SlotMask.perform, cleared]
    exact empty mask.bitCount

theorem performAll (operations : List Operation) (marks : mask.Marks bitCount members) :
    (SlotMask.performAll operations mask).Marks bitCount
      (operations.foldl (mark bitCount) members) := by
  induction operations generalizing mask members with
  | nil => exact marks
  | cons operation rest ih => exact ih (marks.perform operation)

theorem test_iff (marks : mask.Marks bitCount members) (slot : Nat) :
    mask.test slot = true ↔ slot ∈ members := by
  rw [marks.formed.test_eq_bit, marks.bit_iff]

theorem toList_eq (marks : mask.Marks bitCount members) : mask.toList = members.sort := by
  have increasing : mask.toList.Pairwise (· < ·) := List.pairwise_lt_range.filter _
  have same : mask.toList.toFinset = members := by
    ext slot
    rw [List.mem_toFinset, mem_toList, marks.test_iff]
  rw [← same, eq_comm]
  exact (List.toFinset_sort _ (increasing.imp Nat.ne_of_lt)).mpr (increasing.imp Nat.le_of_lt)

theorem count_eq (marks : mask.Marks bitCount members) : mask.count = members.card := by
  rw [marks.formed.count_eq, List.countP_eq_length_filter, ← toList, marks.toList_eq,
    Finset.length_sort]

theorem isEmpty_iff (marks : mask.Marks bitCount members) :
    mask.isEmpty = true ↔ members = ∅ := by
  rw [marks.formed.isEmpty_iff, Finset.eq_empty_iff_forall_notMem]
  simp only [← marks.test_iff, Bool.not_eq_true]

theorem eq_iff {other : SlotMask} {others : Finset Nat} (marks : mask.Marks bitCount members)
    (also : other.Marks bitCount others) : mask = other ↔ members = others := by
  constructor
  · rintro rfl
    ext slot
    rw [← marks.bit_iff, ← also.bit_iff]
  · rintro rfl
    apply marks.formed.eq_of_bit also.formed (marks.covers.trans also.covers.symm)
    intro slot
    rw [Bool.eq_iff_iff, marks.bit_iff, also.bit_iff]

end Marks

/-- Any changes to a mask of any size, from the empty mask on. Slots past the last are never
marked; the marked ones are tested, yielded in increasing order by an iteration that ends, counted
and set in their words as one finite set says, and masks are equal exactly if their sets are. -/
theorem performAll_marks (bitCount : Nat) (operations others : List Operation) :
    let mask := performAll operations (empty bitCount)
    let members := marked bitCount operations
    (∀ slot ∈ members, slot < bitCount) ∧ mask.bitCount = bitCount ∧
      (∀ slot, mask.test slot = true ↔ slot ∈ members) ∧
      mask.toList = members.sort ∧ members.sort.Pairwise (· < ·) ∧
      (∀ slots, mask.Yields 0 slots ↔ slots = members.sort) ∧
      mask.count = members.card ∧ (mask.isEmpty = true ↔ members = ∅) ∧
      mask.words.size = (bitCount + 31) / 32 ∧
      (∀ index word, mask.words[index]? = some word → ∀ place < 32,
        (word.toNat.testBit place = true ↔ 32 * index + place ∈ members)) ∧
      (mask = performAll others (empty bitCount) ↔ members = marked bitCount others) := by
  intro mask members
  have marks : mask.Marks bitCount members := (Marks.empty bitCount).performAll operations
  have also := (Marks.empty bitCount).performAll others
  refine ⟨fun slot => marks.lt_of_mem, marks.covers, marks.test_iff, marks.toList_eq,
    (Finset.sortedLT_sort members).pairwise, ?_, marks.count_eq, marks.isEmpty_iff, ?_, ?_,
    marks.eq_iff also⟩
  · intro slots
    have listed : mask.Yields 0 members.sort := marks.toList_eq ▸ mask.yields_toList
    constructor
    · intro yields
      exact yields.unique listed
    · rintro rfl
      exact listed
  · rw [marks.formed.words_size, marks.covers, wordCount]
  · intro index word present place low
    rw [testBit_word present low, marks.bit_iff]

/-- Slots of two words, one of them past the end: the bits on either side of a word boundary are
apart, and the order of the changes is lost. -/
example : performAll [.set 33, .set 2, .set 31, .set 40, .clear 2] (empty 40) =
    performAll [.set 31, .set 33] (empty 40) := by decide +kernel

end PerfStates.SlotMask
