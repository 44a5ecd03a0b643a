namespace PerfStates

/-- The tag every board object of a class hierarchy shares. -/
def superType : UInt8 := 0

/-- A set of type tags, one bit per tag below 32. -/
structure TypeMask where
  bits : UInt32
deriving DecidableEq, Repr

namespace TypeMask

def empty : TypeMask := ⟨0⟩

/-- The mask of one tag, empty for a tag past the width of the word. -/
def of (tag : UInt8) : TypeMask :=
  if tag < 32 then ⟨1 <<< tag.toUInt32⟩ else empty

def insert (mask : TypeMask) (tag : UInt8) : TypeMask :=
  ⟨mask.bits ||| (of tag).bits⟩

def contains (mask : TypeMask) (tag : UInt8) : Bool :=
  mask.bits &&& (of tag).bits != 0

end TypeMask

/-- An object that a group can hold: its own tag, and every tag it satisfies. -/
class BoardObject (α : Type) where
  tag : α → UInt8
  types : α → TypeMask

/-- Whether `object` satisfies the classification `tag`. -/
def BoardObject.implements {α : Type} [BoardObject α] (object : α) (tag : UInt8) : Bool :=
  (BoardObject.types object).contains tag

end PerfStates
