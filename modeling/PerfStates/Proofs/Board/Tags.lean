import Mathlib.Combinatorics.Colex
import PerfStates.Board.TypeMask
import PerfStates.Proofs.Board.Mask

namespace PerfStates.TypeMask

/-- The mask of tags added one after another. -/
def ofTags (tags : List UInt8) : TypeMask := tags.foldl insert empty

/-- Each set bit of the mask is that of one of the tags, and each tag below 32 has its bit set. -/
def Holds (mask : TypeMask) (tags : Finset UInt8) : Prop :=
  ∀ place, mask.bits.toNat.testBit place = true ↔ ∃ tag ∈ tags, tag < 32 ∧ tag.toNat = place

theorem bits_of {tag : UInt8} (low : tag < 32) : (of tag).bits = SlotMask.slotBit tag.toNat := by
  have small : tag.toNat < 32 := low
  rw [of, if_pos low, SlotMask.slotBit, Nat.mod_eq_of_lt small, UInt32.ofNat_uInt8ToNat]

theorem of_eq_empty {tag : UInt8} (high : ¬ tag < 32) : of tag = empty := if_neg high

theorem testBit_of (tag : UInt8) (place : Nat) :
    (of tag).bits.toNat.testBit place = true ↔ tag < 32 ∧ tag.toNat = place := by
  by_cases low : tag < 32
  · have small : tag.toNat < 32 := low
    rw [bits_of low, SlotMask.slotBit_toNat, Nat.mod_eq_of_lt small, Nat.one_shiftLeft]
    simp [Nat.testBit_two_pow, low]
  · rw [of_eq_empty low]
    simp [empty, low]

theorem holds_empty : empty.Holds ∅ := by
  intro place
  simp [empty]

namespace Holds

variable {mask : TypeMask} {tags : Finset UInt8}

theorem insert (holds : mask.Holds tags) (tag : UInt8) :
    (mask.insert tag).Holds (Insert.insert tag tags) := by
  intro place
  rw [TypeMask.insert, UInt32.toNat_or, Nat.testBit_or, Bool.or_eq_true, holds, testBit_of]
  simp [or_comm]

theorem foldl_insert (holds : mask.Holds tags) (more : List UInt8) :
    (more.foldl TypeMask.insert mask).Holds (tags ∪ more.toFinset) := by
  induction more generalizing mask tags with
  | nil => simpa using holds
  | cons tag rest ih =>
    have same : Insert.insert tag tags ∪ rest.toFinset = tags ∪ (tag :: rest).toFinset := by
      rw [List.toFinset_cons, Finset.insert_union, Finset.union_insert]
    exact same ▸ ih (holds.insert tag)

/-- A tag is in the mask exactly if it is one of the set and has a bit. -/
theorem contains_iff (holds : mask.Holds tags) (tag : UInt8) :
    mask.contains tag = true ↔ tag < 32 ∧ tag ∈ tags := by
  rw [contains, bne_iff_ne]
  by_cases low : tag < 32
  · have small : tag.toNat < 32 := low
    rw [bits_of low, SlotMask.and_slotBit_ne_zero_iff, Nat.mod_eq_of_lt small, holds,
      and_iff_right low]
    constructor
    · rintro ⟨other, member, _, same⟩
      rwa [← UInt8.toNat_inj.mp same]
    · intro member
      exact ⟨tag, member, low, rfl⟩
  · rw [of_eq_empty low]
    simp [empty, low]

/-- The word is the sum of the powers of two of the tags that have a bit. -/
theorem bits_eq_sum (holds : mask.Holds tags) :
    mask.bits.toNat = ∑ tag ∈ tags with tag < 32, 2 ^ tag.toNat := by
  -- A number is the sum of the powers of two at its set bits, and these are the tags' places.
  have places : mask.bits.toNat.bitIndices.toFinset =
      (tags.filter (· < 32)).image UInt8.toNat := by
    ext place
    rw [List.mem_toFinset, Nat.mem_bitIndices, holds, Finset.mem_image]
    simp only [Finset.mem_filter, and_assoc]
  have apart : Set.InjOn UInt8.toNat (tags.filter (· < 32)) :=
    fun _ _ _ _ same => UInt8.toNat_inj.mp same
  rw [← Finset.sum_image (f := fun place => 2 ^ place) apart, ← places,
    Finset.sum_toFinset_bitIndices_two_pow]

theorem eq_iff {other : TypeMask} {others : Finset UInt8} (holds : mask.Holds tags)
    (also : other.Holds others) : mask = other ↔ ∀ tag < 32, tag ∈ tags ↔ tag ∈ others := by
  constructor
  · rintro rfl tag low
    rw [← and_iff_right (a := tag < 32) (b := tag ∈ tags) low, ← holds.contains_iff,
      also.contains_iff, and_iff_right low]
  · intro same
    have bits : mask.bits = other.bits := by
      apply SlotMask.word_eq_of_testBit
      intro place _
      rw [Bool.eq_iff_iff, holds, also]
      constructor
      · rintro ⟨tag, member, low, there⟩
        exact ⟨tag, (same tag low).mp member, low, there⟩
      · rintro ⟨tag, member, low, there⟩
        exact ⟨tag, (same tag low).mpr member, low, there⟩
    cases mask
    cases other
    cases bits
    rfl

theorem eq_empty_iff (holds : mask.Holds tags) : mask = empty ↔ ∀ tag ∈ tags, 32 ≤ tag := by
  rw [holds.eq_iff holds_empty]
  constructor
  · intro none tag member
    exact UInt8.not_lt.mp fun low => by simpa using (none tag low).mp member
  · intro high tag low
    simpa using fun member => UInt8.not_lt.mpr (high tag member) low

end Holds

theorem holds_ofTags (tags : List UInt8) : (ofTags tags).Holds tags.toFinset := by
  simpa [ofTags] using holds_empty.foldl_insert tags

theorem insert_empty (tag : UInt8) : empty.insert tag = of tag := by
  rw [insert, empty, UInt32.zero_or]

/-- The mask of any tags, whether they are added to the empty mask or to that of the first. Its
word is the sum of the powers of two of the distinct tags below 32, and exactly these are in the
mask; it is empty exactly if there are none, and equal to another exactly if the other has the
same tags below 32, in whatever order and however often. -/
theorem ofTags_members (tags others : List UInt8) :
    (∀ first rest, tags = first :: rest → rest.foldl insert (of first) = ofTags tags) ∧
      (ofTags tags).bits.toNat = ∑ tag ∈ tags.toFinset with tag < 32, 2 ^ tag.toNat ∧
      (∀ tag, (ofTags tags).contains tag = true ↔ tag < 32 ∧ tag ∈ tags) ∧
      (∀ (α : Type) [BoardObject α] (object : α), BoardObject.types object = ofTags tags →
        ∀ tag, BoardObject.implements object tag = true ↔ tag < 32 ∧ tag ∈ tags) ∧
      (ofTags tags = empty ↔ ∀ tag ∈ tags, 32 ≤ tag) ∧
      (ofTags tags = ofTags others ↔ ∀ tag < 32, tag ∈ tags ↔ tag ∈ others) := by
  have holds := holds_ofTags tags
  have contained (tag : UInt8) : (ofTags tags).contains tag = true ↔ tag < 32 ∧ tag ∈ tags := by
    rw [holds.contains_iff, List.mem_toFinset]
  refine ⟨?_, holds.bits_eq_sum, contained, ?_, ?_, ?_⟩
  · rintro first rest rfl
    rw [← insert_empty, ← List.foldl_cons, ← ofTags]
  · intro α _ object made tag
    rw [BoardObject.implements, made, contained]
  · rw [holds.eq_empty_iff]
    simp only [List.mem_toFinset]
  · rw [holds.eq_iff (holds_ofTags others)]
    simp only [List.mem_toFinset]

/-- A tag past the width of the word is not that of its remainder. -/
example : ofTags [35, 5, 5] = of 5 ∧ (of 3).contains 35 = false := by decide

end PerfStates.TypeMask
